import StructMatch.Proofs.Matching.Events
import StructMatch.Proofs.Pattern.Flattening

/-!
# Nested and flat combinations

However items are grouped by conjunctions, they are executed from left to right up to the first
failure, and the same goes for disjunctions and the first success. So a pattern can stand in for its
flat form wherever it is used (`interchangeable_flat`). This is associativity of the two connectives
of executions and of the union of flags, taken through every node by the congruence of
interchangeable patterns.

It is not seen on the programs. A disjunction inside a disjunction that has an item which always
matches is code that may be followed by more, so the later items of the outer one leave their slots
and their code; in the flat form the walk ends at that item and they leave nothing. Nothing has to
be known about the difference: each program runs like its pattern, and the patterns run alike.

What remains is that the flat form is as good a pattern as the nested one. It is well formed
(`WellFormed.flat`), since no flag has changed under a sequence or a map, and there are as many
programs in the way (`meetsProgram_flat`).
-/

namespace StructMatch

/-! ### Flags and executions of joined lists -/

namespace Flags

/-- A pattern without flags adds none. -/
theorem union_none (f : Flags) : f.union none = f := by
  rw [union, none, Bool.or_false, Bool.or_false]

theorem union_assoc (f g h : Flags) : (f.union g).union h = f.union (g.union h) := by
  rw [union, union, union, union, Bool.or_assoc, Bool.or_assoc]

end Flags

namespace Pattern

/-- The flags of joined lists are those of either. -/
theorem flagsUnion_append (ps qs : List Pattern) :
    flagsUnion (ps ++ qs) = (flagsUnion ps).union (flagsUnion qs) := by
  induction ps with
  | nil => rfl
  | cons p ps ih => rw [List.cons_append, flagsUnion, flagsUnion, ih, Flags.union_assoc]

/-- A program is met in joined lists if it is met in either. -/
theorem anyMeetsProgram_append (ps qs : List Pattern) :
    anyMeetsProgram (ps ++ qs) = (anyMeetsProgram ps || anyMeetsProgram qs) := by
  induction ps with
  | nil => rfl
  | cons p ps ih =>
    rw [List.cons_append, anyMeetsProgram, anyMeetsProgram, ih, Bool.or_assoc]

/-- A conjunction of joined lists runs one list and then, if it succeeds, the other. -/
theorem executeAll_append (ps qs : List Pattern) (v : Value) :
    executeAll (ps ++ qs) v = .both (executeAll ps v) (executeAll qs v) := by
  induction ps with
  | nil => exact (MatchM.both_true_left _).symm
  | cons p ps ih =>
    rw [List.cons_append, executeAll_cons, executeAll_cons, ih, MatchM.both_assoc]

/-- A disjunction of joined lists runs one list and then, if it fails, the other. -/
theorem executeAny_append (ps qs : List Pattern) (v : Value) :
    executeAny (ps ++ qs) v = .either (executeAny ps v) (executeAny qs v) := by
  induction ps with
  | nil => exact (MatchM.either_false_left _).symm
  | cons p ps ih =>
    rw [List.cons_append, executeAny_cons, executeAny_cons, ih, MatchM.either_assoc]

/-! ### Items and the items of items -/

/-- What a list of items comes to stays the same when nested combinations give way to their items,
if it is put together from the items one after another, and a combination comes to what its items
come to. -/
theorem eq_of_flatMap_parts {α : Type} (total : List Pattern → α) {join : α → α → α}
    {combine : List Pattern → Pattern} {parts : Pattern → List Pattern}
    (hparts : ∀ p, parts p = [p] ∨ p = combine (parts p))
    (happend : ∀ ps qs, total (ps ++ qs) = join (total ps) (total qs))
    (hcombine : ∀ items, total [combine items] = total items) (ps : List Pattern) :
    total (ps.flatMap parts) = total ps := by
  induction ps with
  | nil => rfl
  | cons p ps ih =>
    have hfirst : total (parts p) = total [p] := by
      -- an item that is no combination stays; one that is comes to what its items come to
      rcases hparts p with hp | hp
      · rw [hp]
      · rw [← hcombine, ← hp]
    rw [List.flatMap_cons, happend, hfirst, ih, ← happend, List.singleton_append]

/-- Splicing conjunctions brings no program into the way and takes none out of it. -/
theorem anyMeetsProgram_flatMap_conjuncts (ps : List Pattern) :
    anyMeetsProgram (ps.flatMap conjuncts) = anyMeetsProgram ps :=
  eq_of_flatMap_parts anyMeetsProgram conjuncts_eq anyMeetsProgram_append
    (fun items => Bool.or_false (anyMeetsProgram items)) ps

/-- Nor does splicing disjunctions. -/
theorem anyMeetsProgram_flatMap_disjuncts (ps : List Pattern) :
    anyMeetsProgram (ps.flatMap disjuncts) = anyMeetsProgram ps :=
  eq_of_flatMap_parts anyMeetsProgram disjuncts_eq anyMeetsProgram_append
    (fun items => Bool.or_false (anyMeetsProgram items)) ps

/-- The items of the conjunctions in a conjunction can stand in their places. -/
theorem interchangeable_flatMap_conjuncts (ps : List Pattern) :
    (Pattern.and (ps.flatMap conjuncts)).Interchangeable (.and ps) where
  flags_eq := eq_of_flatMap_parts flagsUnion conjuncts_eq flagsUnion_append
    (fun items => Flags.union_none (flagsUnion items)) ps
  execute_eq := by
    funext v
    rw [execute_and, execute_and]
    refine eq_of_flatMap_parts (executeAll · v) conjuncts_eq (executeAll_append · · v)
      (fun items => ?_) ps
    rw [executeAll_cons, executeAll_nil, MatchM.both_true_right, execute_and]

/-- The items of the disjunctions in a disjunction can stand in their places. -/
theorem interchangeable_flatMap_disjuncts (ps : List Pattern) :
    (Pattern.or (ps.flatMap disjuncts)).Interchangeable (.or ps) where
  flags_eq := eq_of_flatMap_parts flagsUnion disjuncts_eq flagsUnion_append
    (fun items => Flags.union_none (flagsUnion items)) ps
  execute_eq := by
    funext v
    rw [execute_or, execute_or]
    refine eq_of_flatMap_parts (executeAny · v) disjuncts_eq (executeAny_append · · v)
      (fun items => ?_) ps
    rw [executeAny_cons, executeAny_nil, MatchM.either_false_right, execute_or]

/-! ### Flat forms -/

/-- Items that can stand in for others, pairwise. -/
theorem forall₂_map_flat {ps : List Pattern} (h : ∀ p ∈ ps, p.flat.Interchangeable p) :
    List.Forall₂ Interchangeable (ps.map flat) ps :=
  List.forall₂_map_left_iff.mpr (List.forall₂_same.mpr h)

/-- Entries whose patterns can stand in for others, under the same keys. -/
theorem forall₂_map_flatEntry {es : List (Value × Pattern)}
    (h : ∀ e ∈ es, e.2.flat.Interchangeable e.2) :
    List.Forall₂ InterchangeableEntries (es.map flatEntry) es :=
  List.forall₂_map_left_iff.mpr (List.forall₂_same.mpr fun e he => ⟨rfl, h e he⟩)

/-- A rest slot that can stand in for another. -/
theorem rel_map_flat {middle : Option Pattern} (h : ∀ r ∈ middle, r.flat.Interchangeable r) :
    Option.Rel Interchangeable (middle.map flat) middle := by
  cases middle with
  | none => exact .none
  | some r => exact .some (h r rfl)

/-- **The flat form can stand in for the pattern**: it has the same flags and is executed alike. -/
theorem interchangeable_flat (p : Pattern) : p.flat.Interchangeable p := by
  induction p with
  | seq head middle tail ihHead ihMiddle ihTail =>
    rw [flat_seq]
    exact .seq (forall₂_map_flat ihHead) (rel_map_flat ihMiddle) (forall₂_map_flat ihTail)
  | map entries exact required ih =>
    rw [flat_map]
    exact .map (forall₂_map_flatEntry ih) exact required
  | opt inner ih => exact .opt ih
  -- the items give way to their flat forms first, and then to the items of these
  | and items ih =>
    rw [flat_and]
    exact (interchangeable_flatMap_conjuncts _).trans (.and (forall₂_map_flat ih))
  | or items ih =>
    rw [flat_or]
    exact (interchangeable_flatMap_disjuncts _).trans (.or (forall₂_map_flat ih))
  | _ => exact .refl _

/-- A list of flat forms has as many programs in the way as the list of the patterns. -/
theorem anyMeetsProgram_map_flat {ps : List Pattern}
    (h : ∀ p ∈ ps, p.flat.meetsProgram = p.meetsProgram) :
    anyMeetsProgram (ps.map flat) = anyMeetsProgram ps := by
  induction ps with
  | nil => rfl
  | cons p ps ih =>
    obtain ⟨hp, hps⟩ := List.forall_mem_cons.mp h
    rw [List.map_cons, anyMeetsProgram, anyMeetsProgram, hp, ih hps]

/-- A lowering meets a program in the flat form if it meets one in the pattern. -/
theorem meetsProgram_flat (p : Pattern) : p.flat.meetsProgram = p.meetsProgram := by
  induction p with
  | seq head middle tail ihHead ihMiddle ihTail =>
    have hmiddle : anyMeetsProgram (middle.toList.map flat) = anyMeetsProgram middle.toList :=
      anyMeetsProgram_map_flat fun r hr => ihMiddle r (Option.mem_toList.mp hr)
    rw [flat_seq, meetsProgram_seq, meetsProgram_seq, Option.toList_map, hmiddle,
      anyMeetsProgram_map_flat ihHead, anyMeetsProgram_map_flat ihTail]
  -- nothing below a map pattern is in the way
  | map entries exact required => rfl
  | opt inner => rfl
  | and items ih =>
    rw [flat_and]
    exact (anyMeetsProgram_flatMap_conjuncts _).trans (anyMeetsProgram_map_flat ih)
  | or items ih =>
    rw [flat_or]
    exact (anyMeetsProgram_flatMap_disjuncts _).trans (anyMeetsProgram_map_flat ih)
  | _ => rfl

/-- The items of a well-formed combination are well formed, and so is a pattern that is none. -/
theorem WellFormed.of_mem_parts {combine : List Pattern → Pattern}
    {parts : Pattern → List Pattern} (hparts : ∀ p, parts p = [p] ∨ p = combine (parts p))
    (hitems : ∀ {items}, (combine items).WellFormed → ∀ q ∈ items, q.WellFormed) {p q : Pattern}
    (hp : p.WellFormed) (hq : q ∈ parts p) : q.WellFormed := by
  rcases hparts p with hown | hcombined
  · rw [hown] at hq
    obtain rfl := List.mem_singleton.mp hq
    exact hp
  · rw [hcombined] at hp
    exact hitems hp q hq

/-- **The flat form of a well-formed pattern is well formed.** -/
theorem WellFormed.flat {p : Pattern} (hp : p.WellFormed) : p.flat.WellFormed := by
  have hmap : ∀ {ps : List Pattern}, (∀ p ∈ ps, p.flat.WellFormed) →
      ∀ q ∈ ps.map Pattern.flat, q.WellFormed := fun h q hq => by
    obtain ⟨p, hp, rfl⟩ := List.mem_map.mp hq
    exact h p hp
  induction hp with
  | @seq head middle tail hparts _ _ _ ihHead ihMiddle ihTail =>
    rw [flat_seq]
    -- the rest flags are where they were
    have hparts' := hparts.of_forall₂ Interchangeable.isRest_eq
      (forall₂_map_flat fun p _ => interchangeable_flat p)
      (rel_map_flat fun r _ => interchangeable_flat r)
      (forall₂_map_flat fun p _ => interchangeable_flat p)
    refine .seq hparts' (hmap ihHead) (fun q hq => ?_) (hmap ihTail)
    obtain ⟨r, hr, rfl⟩ := Option.map_eq_some_iff.mp hq
    exact ihMiddle r hr
  | @map entries exact required hkeys hrequired _ ih =>
    rw [flat_map]
    have hentries : List.Forall₂ InterchangeableEntries (entries.entries.map flatEntry)
        entries.entries := forall₂_map_flatEntry fun e _ => interchangeable_flat e.2
    -- the keys are the same, and no entry has become optional or ceased to be
    refine .map ?_ (hrequired.trans (requiredCount_congr hentries).symm) fun e' he' => ?_
    · unfold Assoc.DistinctKeys
      rw [Assoc.keys_eq_of_forall₂ And.left hentries]
      exact hkeys
    · obtain ⟨e, he, rfl⟩ := List.mem_map.mp he'
      exact ih e he
  | opt _ ih => exact .opt ih
  | @and items _ ih =>
    rw [flat_and]
    refine .and fun q hq => ?_
    obtain ⟨p, hp, hq⟩ := List.mem_flatMap.mp hq
    exact (hmap ih p hp).of_mem_parts conjuncts_eq (fun (.and h) => h) hq
  | @or items _ ih =>
    rw [flat_or]
    refine .or fun q hq => ?_
    obtain ⟨p, hp, hq⟩ := List.mem_flatMap.mp hq
    exact (hmap ih p hp).of_mem_parts disjuncts_eq (fun (.or h) => h) hq
  | literal lit => exact .literal lit
  | any => exact .any
  | named key => exact .named key
  | rest => exact .rest
  | compiled horigin hslots hc _ _ => exact .compiled horigin hslots hc

/-! ### Regroupings -/

/-- The patterns have the same flags and the same runs, both can be specialized if one can, and then
their programs have the same runs too. -/
structure RunsLike (p q : Pattern) : Prop where
  flags_eq : p.flags = q.flags
  run_eq : ∀ v captures, p.run v captures = q.run v captures
  specialize_iff : (∃ c, p.specialize = .ok c) ↔ ∃ d, q.specialize = .ok d
  run_program_eq : ∀ c d, p.specialize = .ok c → q.specialize = .ok d →
    ∀ v captures, c.run v captures = d.run v captures

/-- A pattern can be specialized if no lowering of it meets a program. -/
theorem exists_specialize_iff {p : Pattern} :
    (∃ c, p.specialize = .ok c) ↔ p.meetsProgram = false := by
  simp only [specialize_eq_ok_iff, exists_and_left, exists_eq', and_true]

/-- **Grouping does not matter.** Regroupings run alike, as patterns and as programs. -/
theorem Regroups.runsLike {p q : Pattern} (h : p.Regroups q) : p.RunsLike q := by
  have hflat : p.flat = q.flat := regroups_iff.mp h
  -- both are interchangeable with the flat form that they share
  have hsame : p.Interchangeable q :=
    (interchangeable_flat p).symm.trans (hflat ▸ interchangeable_flat q)
  have hrun : ∀ v captures, p.run v captures = q.run v captures := fun v captures => by
    rw [run, run, hsame.execute_eq]
  refine ⟨hsame.flags_eq, hrun, ?_, fun c d hc hd v captures => ?_⟩
  · -- a lowering stops at programs only, and the common flat form tells whether there are any
    rw [exists_specialize_iff, exists_specialize_iff, ← meetsProgram_flat p, hflat,
      meetsProgram_flat q]
  · rw [run_specialize hc, run_specialize hd, hrun]

/-- A conjunction in front of a conjunction is spliced. -/
theorem regroups_and_left (p q r : Pattern) : ((p &&& q) &&& r).Regroups (.and [p, q, r]) :=
  .rel _ _ (.spliceAnd [] [p, q] [r])

/-- A conjunction behind a pattern is spliced. -/
theorem regroups_and_right (p q r : Pattern) : (p &&& (q &&& r)).Regroups (.and [p, q, r]) :=
  .rel _ _ (.spliceAnd [p] [q, r] [])

/-- A disjunction in front of a disjunction is spliced. -/
theorem regroups_or_left (p q r : Pattern) : ((p ||| q) ||| r).Regroups (.or [p, q, r]) :=
  .rel _ _ (.spliceOr [] [p, q] [r])

/-- A disjunction behind a pattern is spliced. -/
theorem regroups_or_right (p q r : Pattern) : (p ||| (q ||| r)).Regroups (.or [p, q, r]) :=
  .rel _ _ (.spliceOr [p] [q, r] [])

/-- **Nested combinations run like flat ones.** The flat form of a pattern comes about by splicing
combinations into combinations of the same kind, and there is nothing left in it to splice. If the
pattern is constructible and has no programs, the flat form is constructible and has the same flags;
both can be specialized; and from the same captures, on the same subject, the pattern, its flat form
and the programs of the two return the same verdict and end in the same state. Any regrouping runs
like the pattern, and so the operators, captures and lists of items agree however they are grouped.
-/
theorem nested_combinations_run_like_flat_ones {p : Pattern} (hp : p.Constructible)
    (hfree : p.ProgramFree) :
    (Relation.ReflTransGen SplicesOnce p p.flat ∧ ∀ q, ¬ SplicesOnce p.flat q) ∧
    p.flat.Constructible ∧ p.flat.flags = p.flags ∧
    (∃ c d, p.specialize = .ok c ∧ p.flat.specialize = .ok d ∧ ∀ captures v, ∃ ok s,
      p.run v captures = .ok (ok, s) ∧ p.flat.run v captures = .ok (ok, s) ∧
      c.run v captures = .ok (ok, s) ∧ d.run v captures = .ok (ok, s)) ∧
    (∀ q, p.Regroups q → p.RunsLike q) ∧
    ∀ q r key,
      RunsLike ((p &&& q) &&& r) (.and [p, q, r]) ∧ RunsLike (p &&& (q &&& r)) (.and [p, q, r]) ∧
      RunsLike ((p ||| q) ||| r) (.or [p, q, r]) ∧ RunsLike (p ||| (q ||| r)) (.or [p, q, r]) ∧
      RunsLike ((p &&& q).capturedAs key) (p &&& q.capturedAs key) := by
  have hflat : p.RunsLike p.flat := (regroups_flat p).runsLike
  obtain ⟨c, hc⟩ := hfree.exists_specialize
  obtain ⟨d, hd⟩ := hflat.specialize_iff.mp ⟨c, hc⟩
  refine ⟨⟨splices_flat p, not_splicesOnce_flat p⟩, hp.wellFormed.flat.constructible,
    hflat.flags_eq.symm, ⟨c, d, hc, hd, fun captures v => ?_⟩, fun q hq => hq.runsLike, ?_⟩
  · -- all four runs are the run of the pattern
    have hrun := hp.run_eq_outcome v captures
    have hrunProgram := (run_specialize hc v captures).trans hrun
    exact ⟨_, _, hrun, (hflat.run_eq v captures).symm.trans hrun, hrunProgram,
      (hflat.run_program_eq c d hc hd v captures).symm.trans hrunProgram⟩
  · intro q r key
    refine ⟨(regroups_and_left p q r).runsLike, (regroups_and_right p q r).runsLike,
      (regroups_or_left p q r).runsLike, (regroups_or_right p q r).runsLike, ?_⟩
    -- to capture is to add one more item behind the others
    have hcaptured : ((p &&& q).capturedAs key).Regroups (p &&& q.capturedAs key) :=
      (regroups_and_left p q (.named key)).trans _ _ _
        ((regroups_and_right p q (.named key)).symm _ _)
    exact hcaptured.runsLike

/-- A disjunction in a disjunction, whose last item always matches, and a conjunction in a
conjunction that has the rest slot. -/
def nestedTries (p : Predicate) : Pattern :=
  .seq [.or [.or [.and [.literal (.predicate p), .named (.index 1)], .any],
      .literal (.value (.int 0))]]
    (some (.and [.and [.rest, .named (.name "between")], .and []])) [.named (.index 2)]

/-- The tries one after another. -/
def flatTries (p : Predicate) : Pattern :=
  .seq [.or [.and [.literal (.predicate p), .named (.index 1)], .any, .literal (.value (.int 0))]]
    (some (.and [.rest, .named (.name "between")])) [.named (.index 2)]

theorem wellFormed_nestedTries (p : Predicate) : (nestedTries p).WellFormed := by
  have hpair : ∀ {a b : Pattern}, a.WellFormed → b.WellFormed → ∀ q ∈ [a, b], q.WellFormed :=
    fun ha hb => List.forall_mem_cons.mpr ⟨ha, List.forall_mem_singleton.mpr hb⟩
  have htry : (Pattern.or [.and [.literal (.predicate p), .named (.index 1)], .any]).WellFormed :=
    .or (hpair (.and (hpair (.literal _) (.named _))) .any)
  have hbetween : (Pattern.and [.and [.rest, .named (.name "between")], .and []]).WellFormed :=
    .and (hpair (.and (hpair .rest (.named _))) (.and nofun))
  -- head and tail have no rest flag, and the rest slot has one
  refine .seq ⟨?_, ?_, ?_, nofun⟩
    (List.forall_mem_singleton.mpr (.or (hpair htry (.literal _)))) ?_
    (List.forall_mem_singleton.mpr (.named _))
  · exact List.forall_mem_singleton.mpr rfl
  · rintro r ⟨⟩
    rfl
  · exact List.forall_mem_singleton.mpr rfl
  · rintro r ⟨⟩
    exact hbetween

theorem programFree_nestedTries (p : Predicate) : (nestedTries p).ProgramFree := by
  -- node by node from the leaves upward, none of which is a program
  have hatom := @programFree_of_children_eq_nil
  have hpair : ∀ {a b : Pattern}, a.ProgramFree → b.ProgramFree →
      ∀ i j, ∀ c ∈ [(Branch.item i, a), (.item j, b)], c.2.ProgramFree :=
    fun ha hb _ _ => List.forall_mem_cons.mpr ⟨ha, List.forall_mem_singleton.mpr hb⟩
  have hand : ∀ {a b : Pattern}, a.ProgramFree → b.ProgramFree → (Pattern.and [a, b]).ProgramFree :=
    fun ha hb => programFree_of_children rfl (hpair ha hb 0 1)
  have hor : ∀ {a b : Pattern}, a.ProgramFree → b.ProgramFree → (Pattern.or [a, b]).ProgramFree :=
    fun ha hb => programFree_of_children rfl (hpair ha hb 0 1)
  refine programFree_of_children rfl (List.forall_mem_cons.mpr
    ⟨hor (hor (hand (hatom rfl rfl) (hatom rfl rfl)) (hatom rfl rfl)) (hatom rfl rfl),
      List.forall_mem_cons.mpr ⟨hatom rfl rfl, List.forall_mem_singleton.mpr ?_⟩⟩)
  exact hand (hand (hatom rfl rfl) (hatom rfl rfl)) (hatom rfl rfl)

/-- The theorem at a subject that fails the first try. The flat form is another program, in which
the item behind the one that always matches has left no slot. -/
theorem nested_combinations_run_like_flat_ones_of_nestedTries :
    (nestedTries ⟨"none", fun _ => false⟩).flat = flatTries ⟨"none", fun _ => false⟩ ∧
    (nestedTries ⟨"none", fun _ => false⟩).slots.length = 2 ∧
    (flatTries ⟨"none", fun _ => false⟩).slots.length = 1 ∧
    ∃ c d, (nestedTries ⟨"none", fun _ => false⟩).specialize = .ok c ∧
      (flatTries ⟨"none", fun _ => false⟩).specialize = .ok d ∧ ∀ captures, ∃ ok s,
      (nestedTries ⟨"none", fun _ => false⟩).run (.seq [.int 5, .nil, .int 7]) captures
        = .ok (ok, s) ∧
      d.run (.seq [.int 5, .nil, .int 7]) captures = .ok (ok, s) := by
  obtain ⟨-, -, -, ⟨c, d, hc, hd, hruns⟩, -, -⟩ := nested_combinations_run_like_flat_ones
    (wellFormed_nestedTries ⟨"none", fun _ => false⟩).constructible (programFree_nestedTries _)
  refine ⟨rfl, rfl, rfl, c, d, hc, hd, fun captures => ?_⟩
  obtain ⟨ok, s, hrun, -, -, hprogram⟩ := hruns captures (.seq [.int 5, .nil, .int 7])
  exact ⟨ok, s, hrun, hprogram⟩

end Pattern

end StructMatch
