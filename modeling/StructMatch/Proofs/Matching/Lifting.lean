import StructMatch.Proofs.Literal.Agreement
import StructMatch.Proofs.Matching.Meaning

/-!
# Matching by structure and equality of values

A value can be matched in two ways. As a stored literal it accepts the subjects that agree with it
up to the form of their numbers. Lifted into a pattern of its own shape it is taken apart, and only
its scalars are literals. The two ways are two algorithms: a literal compares sizes and looks up the
keys of the stored map, a map pattern counts its required entries, tests the keys of the subject and
looks up its own.

There are two lifts. The plain one makes map patterns that allow further keys, and `Value.exactly`
asks for exact ones. Both treat the parts of a value alike, and they differ in the one flag they put
on map patterns. What is proved here is proved of every lift with this shape (`Lift`), whatever the
flag: the pattern matches all subjects that the literal accepts, and no others if maps are exact or
if there are none. The two ways to match agree in the exact lift, and in the plain one up to further
keys.

The argument is about maps. Keys are distinct on both sides, so the entries of the value and those
of the subject can be counted against each other in both directions: sizes that are equal leave no
key of the subject without a partner, and keys that all have partners leave no difference in size.
-/

namespace StructMatch

namespace Value

/-! ### The exact lift -/

/-- The entry of a plain map that makes it exact. -/
def exactMark : PlainKey × Plain :=
  (.exact, .value (.bool true))

mutual

/-- Plain data with the structure of a value, in which every map is marked as exact. -/
def exactly : Value → Plain
  | .seq items => .seq (exactlyAll items)
  | .map ⟨entries⟩ => .map (exactlyEntries entries ++ [exactMark])
  | v => .value v
termination_by structural v => v

/-- The exact lift of several items. -/
def exactlyAll : List Value → List Plain
  | [] => []
  | v :: vs => exactly v :: exactlyAll vs
termination_by structural vs => vs

/-- The exact lift of the values of entries. -/
def exactlyEntries : List (Value × Value) → List (PlainKey × Plain)
  | [] => []
  | (k, v) :: others => (.value k, exactly v) :: exactlyEntries others
termination_by structural es => es

end

theorem exactlyAll_eq_map (vs : List Value) : exactlyAll vs = vs.map exactly := by
  induction vs with
  | nil => rfl
  | cons v vs ih => rw [exactlyAll, ih, List.map_cons]

theorem exactlyEntries_eq_map (es : List (Value × Value)) :
    exactlyEntries es = es.map fun e => (.value e.1, e.2.exactly) := by
  induction es with
  | nil => rfl
  | cons e es ih =>
    obtain ⟨k, v⟩ := e
    rw [exactlyEntries, ih, List.map_cons]

/-- The exact lift of any value is data that a caller can write down. -/
theorem constructible_exactly (v : Value) : v.exactly.Constructible := by
  induction v with
  | seq items ih =>
    rw [exactly, exactlyAll_eq_map]
    exact .seq (List.forall_mem_map.mpr ih)
  | map m ih =>
    rw [exactly, exactlyEntries_eq_map]
    refine .map fun e he => ?_
    rcases List.mem_append.mp he with he | he
    · obtain ⟨e', he', rfl⟩ := List.mem_map.mp he
      exact (ih e' he').2
    · obtain rfl := List.mem_singleton.mp he
      exact .value _
  | _ => exact .value _

/-- There is no map in the value, at any depth. -/
inductive MapFree : Value → Prop
  | nil : MapFree .nil
  | bool (b : Bool) : MapFree (.bool b)
  | int (n : Int64) : MapFree (.int n)
  | float (x : Binary64) : MapFree (.float x)
  | str (text : String) : MapFree (.str text)
  | sym (name : String) : MapFree (.sym name)
  | seq {items : List Value} : (∀ v ∈ items, MapFree v) → MapFree (.seq items)

/-- A sequence is free of maps if its items are. -/
theorem mapFree_seq_iff {items : List Value} : MapFree (.seq items) ↔ ∀ v ∈ items, v.MapFree :=
  ⟨fun | .seq hitems => hitems, .seq⟩

/-- A map is not free of maps. -/
theorem not_mapFree_map (m : ValueMap) : ¬ MapFree (.map m) :=
  nofun

/-- Neither a sequence nor a map. -/
def isScalar : Value → Bool
  | .seq _ => false
  | .map _ => false
  | _ => true

/-! ### Lifts -/

/-- A way to make patterns of values that follows their structure: sequences become sequence
patterns, maps become map patterns with the given flag, and scalars become literals. -/
structure Lift (exact : Bool) (lift : Value → Except PatternError Pattern) : Prop where
  seq : ∀ items, lift (.seq items) = items.mapM lift >>= Pattern.ofItems
  map : ∀ m, lift (.map m) = do return .mapping (← m.entries.mapM (makeEntry lift)) exact
  scalar : ∀ v, v.isScalar → lift v = .ok (.literal (.value v))

/-- The plain lift allows further keys. -/
theorem lift_toPattern : Lift false toPattern where
  seq items := by rw [toPattern, toPatterns_eq_mapM]
  map m := by
    obtain ⟨entries⟩ := m
    rw [toPattern, toEntries_eq_mapM]
  scalar v hv := by
    cases v <;> first | rfl | cases hv

/-- The mark is not an entry of the pattern. -/
theorem buildEntries_exactlyEntries (es : List (Value × Value)) :
    Plain.buildEntries (exactlyEntries es ++ [exactMark])
      = es.mapM (makeEntry fun v => v.exactly.build) := by
  -- the mark is dropped before anything is built, and the keys are taken as they are
  have hproper : (exactlyEntries es ++ [exactMark]).filterMap Plain.properEntry?
      = es.map fun e => (e.1, e.2.exactly) := by
    rw [exactlyEntries_eq_map, List.filterMap_append, List.filterMap_map]
    simp [Plain.properEntry?, exactMark, Function.comp_def]
  rw [Plain.buildEntries_eq_mapM, hproper, List.mapM_map]
  rfl

/-- The exact lift allows no further keys. -/
theorem lift_exactly : Lift true fun v => v.exactly.build where
  seq items := by
    rw [exactly, exactlyAll_eq_map, Plain.build, Plain.buildAll_eq_mapM, List.mapM_map]
    rfl
  map m := by
    obtain ⟨entries⟩ := m
    rw [exactly, Plain.build, buildEntries_exactlyEntries, exactMark, Plain.isExact_append_exact]
    rfl
  scalar v hv := by
    cases v <;> first | rfl | cases hv

/-! ### What a lifted pattern matches -/

/-- The pattern holds of the subjects that the value agrees with, and of no others if its maps are
exact or the value has no maps. It carries no flag, so that it is an item like any other. -/
structure Represents (exact : Bool) (v : Value) (p : Pattern) : Prop where
  unflagged : p.flags = .none
  holds_of_agrees : ∀ s, s.Constructible → v.agrees s → p.Holds s
  agrees_of_holds : exact ∨ v.MapFree → ∀ s, s.Constructible → p.Holds s → v.agrees s

/-- A literal holds of what its value agrees with, by definition. -/
theorem represents_literal (exact : Bool) (v : Value) :
    Represents exact v (.literal (.value v)) where
  unflagged := rfl
  holds_of_agrees _ _ h := h
  agrees_of_holds _ _ _ h := h

section Parts

variable {exact : Bool}

/-- Items without a flag make a sequence pattern without a rest slot. -/
theorem ofItems_eq_ok {ps : List Pattern} (h : ∀ p ∈ ps, p.flags = .none) :
    Pattern.ofItems ps = .ok (.seq ps none []) := by
  have hparts : Pattern.PartsInOrder ps none [] := by
    refine ⟨fun p hp => ?_, nofun, nofun, fun _ => rfl⟩
    rw [Pattern.isRest, h p hp]
    rfl
  have hsplit := hparts.ofItems_eq_ok
  rwa [Option.toList_none, List.append_nil, List.append_nil] at hsplit

/-- Without a rest slot and a tail, the items are matched one by one. -/
theorem holds_items_iff {ps : List Pattern} {s : Value} :
    (Pattern.seq ps none []).Holds s ↔ ∃ ys, s = .seq ys ∧ List.Forall₂ Pattern.Holds ps ys := by
  rw [Pattern.Holds]
  constructor
  · -- an empty tail leaves no back, and an empty rest slot nothing between
    rintro ⟨front, between, back, rfl, hfront, hback, rfl⟩
    obtain rfl := List.forall₂_nil_left_iff.mp (Pattern.holdsEach_iff.mp hback)
    exact ⟨front, by simp, Pattern.holdsEach_iff.mp hfront⟩
  · rintro ⟨ys, rfl, hys⟩
    exact ⟨ys, [], [], by simp, Pattern.holdsEach_iff.mpr hys, trivial, rfl⟩

/-- Items that are represented one by one make a sequence that is represented. -/
theorem Represents.seq {items : List Value} {ps : List Pattern}
    (h : List.Forall₂ (Represents exact) items ps) :
    Represents exact (.seq items) (.seq ps none []) where
  unflagged := rfl
  holds_of_agrees s hs hagrees := by
    obtain ⟨ys, rfl, hys⟩ := agrees_seq_iff.mp hagrees
    -- from the pattern over the value to the subject
    have hholds : List.Forall₂ (fun p y => y.Constructible → p.Holds y) ps ys :=
      forall₂_trans_of_mem (fun _ _ _ y hp hxy hy => hp.holds_of_agrees y hy hxy) h.flip hys
    refine holds_items_iff.mpr ⟨ys, rfl, forall₂_imp_of_mem ?_ hholds⟩
    exact fun _ _ y hy hp => hp (hs.of_mem_items y hy)
  agrees_of_holds hfaithful s hs hholds := by
    obtain ⟨ys, rfl, hys⟩ := holds_items_iff.mp hholds
    have hitems : ∀ x ∈ items, exact ∨ x.MapFree :=
      fun x hx => hfaithful.imp_right fun hfree => mapFree_seq_iff.mp hfree x hx
    -- from the value over the pattern to the subject
    have hagrees : List.Forall₂ (fun x y => y.Constructible → x.agrees y) items ys :=
      forall₂_trans_of_mem (fun x hx _ y hp hpy hy => hp.agrees_of_holds (hitems x hx) y hy hpy)
        h hys
    refine agrees_seq_iff.mpr ⟨ys, rfl, forall₂_imp_of_mem ?_ hagrees⟩
    exact fun _ _ y hy hx => hx (hs.of_mem_items y hy)

/-- The entry of a pattern has the key of the entry of a map, and represents its value. -/
def RepresentsEntry (exact : Bool) (e : Value × Value) (q : Value × Pattern) : Prop :=
  q.1 = e.1 ∧ Represents exact e.2 q.2

/-- A pattern made under the keys of a map stores its entries as they are listed, since these keys
are distinct. -/
theorem mapping_eq_map {m : ValueMap} {qs : List (Value × Pattern)} (hm : m.DistinctKeys)
    (hkeys : List.Forall₂ (fun e q => e.1 = q.1) m.entries qs) :
    Pattern.mapping qs exact = .map ⟨qs⟩ exact (Pattern.requiredCount qs) := by
  have hdistinct : Assoc.DistinctKeys ⟨qs⟩ := by
    rw [Assoc.DistinctKeys, Assoc.keys, ← map_eq_map_iff_forall₂.mpr hkeys]
    exact hm
  exact Pattern.mapping_eq_of_distinctKeys hdistinct exact

section Entries

variable {m : ValueMap} {qs : List (Value × Pattern)}
  (h : List.Forall₂ (RepresentsEntry exact) m.entries qs)
include h

/-- A map that agrees with the stored one has what every entry of the pattern asks for, and it has
no key besides. -/
theorem holds_map_of_agrees (hm : m.DistinctKeys) {m' : ValueMap}
    (hs : Value.Constructible (.map m')) (hagrees : (Value.map m).agrees (.map m'))
    (required : Nat) : (Pattern.map ⟨qs⟩ exact required).Holds (.map m') := by
  obtain ⟨hsize, hpartner⟩ := (agrees_map_iff_partners hs.distinctKeys).mp hagrees
  refine Pattern.holds_map_iff.mpr ⟨fun q hq => ?_, fun _ f hf => ?_⟩
  · -- an entry of the pattern: the entry it represents has a partner in the subject
    obtain ⟨e, he, hkey, hrep⟩ := exists_mem_of_forall₂ h.flip q hq
    obtain ⟨f, hf, hfe, hvalue⟩ := hpartner e he
    rw [← hkey] at hfe
    exact .inl ⟨f, hf, hfe, hrep.holds_of_agrees f.2 (hs.value_of_mem hf) hvalue⟩
  · -- the sizes are equal, so the subject has no entry that is not a partner
    have hback := hm.exists_partner (fun _ _ hef => hef.1) hpartner (Nat.le_of_eq hsize.symm)
    obtain ⟨e, he, hfe, -⟩ := hback f hf
    obtain ⟨q, hq, hkey, -⟩ := exists_mem_of_forall₂ h e he
    rw [← hkey] at hfe
    exact ⟨q, hq, BEq.symm hfe⟩

/-- A map of which the exact pattern holds has the keys of the stored one and no others, so their
sizes are equal too. -/
theorem agrees_of_holds_map (hm : m.DistinctKeys) (hexact : exact = true) {m' : ValueMap}
    {required : Nat} (hs : Value.Constructible (.map m'))
    (hholds : (Pattern.map ⟨qs⟩ exact required).Holds (.map m')) :
    (Value.map m).agrees (.map m') := by
  obtain ⟨hentries, hothers⟩ := Pattern.holds_map_iff.mp hholds
  have hpartner : ∀ e ∈ m.entries, ∃ f ∈ m'.entries, f.1 == e.1 ∧ e.2.agrees f.2 := by
    intro e he
    obtain ⟨q, hq, hkey, hrep⟩ := exists_mem_of_forall₂ h e he
    rcases hentries q hq with ⟨f, hf, hfq, hvalue⟩ | ⟨-, hopt⟩
    · rw [hkey] at hfq
      exact ⟨f, hf, hfq, hrep.agrees_of_holds (.inl hexact) f.2 (hs.value_of_mem hf) hvalue⟩
    · -- no pattern of a lift is optional
      rw [Pattern.isOpt, hrep.unflagged] at hopt
      cases hopt
  have hback : ∀ f ∈ m'.entries, ∃ e ∈ m.entries, e.1 == f.1 := by
    intro f hf
    obtain ⟨q, hq, hqf⟩ := hothers hexact f hf
    obtain ⟨e, he, hkey, -⟩ := exists_mem_of_forall₂ h.flip q hq
    rw [hkey] at hqf
    exact ⟨e, he, hqf⟩
  -- each map has a place for every key of the other
  have hle : m.size ≤ m'.size :=
    hm.size_le fun e he => (hpartner e he).imp fun _ hf => ⟨hf.1, hf.2.1⟩
  have hge : m'.size ≤ m.size := hs.distinctKeys.size_le hback
  exact (agrees_map_iff_partners hs.distinctKeys).mpr ⟨Nat.le_antisymm hle hge, hpartner⟩

/-- Entries that are represented one by one make a map that is represented. -/
theorem Represents.map (hm : m.DistinctKeys) :
    Represents exact (.map m) (.map ⟨qs⟩ exact (Pattern.requiredCount qs)) := by
  refine ⟨rfl, fun s hs hagrees => ?_, fun hfaithful s hs hholds => ?_⟩
  · -- what agrees with a map is one
    obtain ⟨m', rfl, -⟩ := agrees_map_iff.mp hagrees
    exact holds_map_of_agrees h hm hs hagrees _
  · -- a map is not free of maps, so the pattern is exact
    have hexact : exact = true := hfaithful.resolve_right (not_mapFree_map m)
    obtain ⟨m', rfl⟩ := Pattern.exists_of_holds_map hholds
    exact agrees_of_holds_map h hm hexact hs hholds

end Entries

end Parts

section Induction

variable {exact : Bool} {lift : Value → Except PatternError Pattern} (hlift : Lift exact lift)
include hlift

/-- **Induction over a lift.** A lift succeeds. A relation between values and patterns without flags
that is passed on from the parts of a value to the whole holds of a value and the pattern that it is
lifted to. -/
theorem Lift.exists_of_parts {R : Value → Pattern → Prop}
    (unflagged : ∀ v p, R v p → p.flags = .none)
    (scalar : ∀ v, v.isScalar → R v (.literal (.value v)))
    (seq : ∀ items ps, List.Forall₂ R items ps → R (.seq items) (.seq ps none []))
    (map : ∀ m qs, m.DistinctKeys →
      List.Forall₂ (fun e q => q.1 = e.1 ∧ R e.2 q.2) m.entries qs →
      R (.map m) (.map ⟨qs⟩ exact (Pattern.requiredCount qs)))
    {v : Value} (hv : v.Constructible) : ∃ p, lift v = .ok p ∧ R v p := by
  induction v with
  | seq items ih =>
    -- the parts are lifted first, and none of them has a flag, so there is no rest slot
    obtain ⟨ps, hps, hparts⟩ := exists_mapM_eq_ok fun x hx => ih x hx (hv.of_mem_items x hx)
    have hflags : ∀ p ∈ ps, p.flags = .none := by
      intro p hp
      obtain ⟨x, -, hpart⟩ := exists_mem_of_forall₂ hparts.flip p hp
      exact unflagged x p hpart
    refine ⟨.seq ps none [], ?_, seq items ps hparts⟩
    rw [hlift.seq, hps]
    exact ofItems_eq_ok hflags
  | map m ih =>
    have hentries : ∀ e ∈ m.entries, ∃ q, makeEntry lift e = .ok q ∧ q.1 = e.1 ∧ R e.2 q.2 := by
      intro e he
      obtain ⟨p, hp, hpart⟩ := (ih e he).2 (hv.value_of_mem he)
      refine ⟨(e.1, p), ?_, rfl, hpart⟩
      rw [makeEntry, hp]
      rfl
    obtain ⟨qs, hqs, hparts⟩ := exists_mapM_eq_ok hentries
    -- no two entries are merged, and the pattern has those of the map in their order
    have hmapping : Pattern.mapping qs exact = .map ⟨qs⟩ exact (Pattern.requiredCount qs) :=
      mapping_eq_map hv.distinctKeys (hparts.imp fun _ _ hq => hq.1.symm)
    refine ⟨_, ?_, map m qs hv.distinctKeys hparts⟩
    rw [hlift.map, hqs, ← hmapping]
    rfl
  | _ => exact ⟨_, hlift.scalar _ rfl, scalar _ rfl⟩

/-- A lift succeeds, and its pattern represents the value. -/
theorem Lift.exists_represents {v : Value} (hv : v.Constructible) :
    ∃ p, lift v = .ok p ∧ Represents exact v p :=
  hlift.exists_of_parts (fun _ _ h => h.unflagged) (fun v _ => represents_literal exact v)
    (fun _ _ => .seq) (fun _ _ hm h => .map h hm) hv

end Induction

/-- **Matching by structure agrees with equality of values.** The exact lift of a value always
builds a pattern, and it matches exactly the subjects that the value accepts as a literal. The plain
lift builds a pattern that matches these subjects, and if there is no map in the value it matches no
others. -/
theorem lifting_agrees_with_accepting {v s : Value} (hv : v.Constructible)
    (hs : s.Constructible) :
    (∃ p, v.exactly.build = .ok p ∧ ∃ found, p.matches? s = .ok found ∧
      (found.isSome ↔ (Literal.value v).accepts s)) ∧
    ∃ p, (Plain.value v).build = .ok p ∧ ∃ found, p.matches? s = .ok found ∧
      ((Literal.value v).accepts s → found.isSome) ∧
      (v.MapFree → found.isSome → (Literal.value v).accepts s) := by
  obtain ⟨p, hp, hrep⟩ := lift_exactly.exists_represents hv
  obtain ⟨q, hq, hrep'⟩ := lift_toPattern.exists_represents hv
  have hpc : p.Constructible := v.constructible_exactly.build hp
  have hqc : q.Constructible := constructible_of_toPattern hq
  obtain ⟨found, hfound, hholds⟩ := hpc.exists_matches?_eq hs
  obtain ⟨found', hfound', hholds'⟩ := hqc.exists_matches?_eq hs
  refine ⟨⟨p, hp, found, hfound, ?_⟩, q, hq, found', hfound', ?_, ?_⟩
  · -- the exact lift: both directions
    rw [hholds]
    exact ⟨hrep.agrees_of_holds (.inl rfl) s hs, hrep.holds_of_agrees s hs⟩
  · -- the plain lift: the direction that needs nothing of the value
    rw [hholds']
    exact hrep'.holds_of_agrees s hs
  · rw [hholds']
    exact fun hfree => hrep'.agrees_of_holds (.inr hfree) s hs

/-- The theorem at a point whose coordinates come in another order and in another form. -/
theorem lifting_agrees_with_accepting_of_point :
    ∃ p, (Literal.point ("x", .int 1) ("y", .seq [.int 2])).exactly.build = .ok p ∧
      ∃ captures, p.matches? (Literal.point ("y", .seq [.float ⟨0x4000000000000000⟩])
        ("x", .int 1)) = .ok (some captures) := by
  have hstored := Literal.constructible_point ("x", .int 1) ("y", .seq [.int 2]) (.int 1)
    (.seq (List.forall_mem_singleton.mpr (.int 2)))
  have hsubject := Literal.constructible_point ("y", .seq [.float ⟨0x4000000000000000⟩])
    ("x", .int 1) (.seq (List.forall_mem_singleton.mpr (.float _))) (.int 1)
  have haccepts : (Literal.value (Literal.point ("x", .int 1) ("y", .seq [.int 2]))).accepts
      (Literal.point ("y", .seq [.float ⟨0x4000000000000000⟩]) ("x", .int 1)) = true := by
    decide +kernel
  obtain ⟨⟨p, hp, found, hfound, hiff⟩, -⟩ := lifting_agrees_with_accepting hstored hsubject
  obtain ⟨captures, rfl⟩ := Option.isSome_iff_exists.mp (hiff.mpr haccepts)
  exact ⟨p, hp, captures, hfound⟩

end Value

end StructMatch
