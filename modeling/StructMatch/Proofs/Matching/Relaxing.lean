import Mathlib.Logic.Relation
import StructMatch.Proofs.Matching.Events
import StructMatch.Proofs.Matching.Meaning

/-!
# Relaxing map patterns

A map pattern asks less of its subject when it is no longer exact, or when one of its entries may be
absent. `Pattern.RelaxesOnce` makes one such change somewhere in a pattern, and makes the nodes
above it anew.

Patterns have no negation, so one expects that asking less in one place is asking less of the whole.
What has to be seen is that the change is not noticed on the way up. The nodes above look at the
flags of their parts, and at the programs they meet in them; a map pattern has no flags and hides
the programs below it, so both stay what they were. A map above counts its required entries and
looks its keys up; the count can only go down and the keys stay.

`Pattern.Relaxed` puts together what is true of a pattern before and after. Relaxed parts make
relaxed patterns, one lemma for each kind of node, and all that concerns maps is in one of them
(`Relaxed.mapping`). Single changes follow by induction on where they are made
(`RelaxesOnce.relaxed`), and sequences of changes by transitivity.
-/

namespace StructMatch

namespace Pattern

/-- One map pattern, at any depth, loses its exactness or has one of its entries made optional. -/
inductive RelaxesOnce : Pattern → Pattern → Prop
  | inexact (entries : Assoc Value Pattern) (required : Nat) :
    RelaxesOnce (.map entries true required) (mapping entries.entries false)
  | optional (before after : List (Value × Pattern)) (k : Value) (q : Pattern) (exact : Bool)
    (required : Nat) :
    RelaxesOnce (.map ⟨before ++ (k, q) :: after⟩ exact required)
      (mapping (before ++ (k, .opt q) :: after) exact)
  | entry (before after : List (Value × Pattern)) (k : Value) {q q' : Pattern} (exact : Bool)
    (required : Nat) : RelaxesOnce q q' →
    RelaxesOnce (.map ⟨before ++ (k, q) :: after⟩ exact required)
      (mapping (before ++ (k, q') :: after) exact)
  | head (before after : List Pattern) {q q' : Pattern} (middle : Option Pattern)
    (tail : List Pattern) : RelaxesOnce q q' →
    RelaxesOnce (.seq (before ++ q :: after) middle tail) (.seq (before ++ q' :: after) middle tail)
  | middle (head tail : List Pattern) {q q' : Pattern} : RelaxesOnce q q' →
    RelaxesOnce (.seq head (some q) tail) (.seq head (some q') tail)
  | tail (head : List Pattern) (middle : Option Pattern) (before after : List Pattern)
    {q q' : Pattern} : RelaxesOnce q q' →
    RelaxesOnce (.seq head middle (before ++ q :: after)) (.seq head middle (before ++ q' :: after))
  | opt {q q' : Pattern} : RelaxesOnce q q' → RelaxesOnce (.opt q) (.opt q')
  | and (before after : List Pattern) {q q' : Pattern} : RelaxesOnce q q' →
    RelaxesOnce (.and (before ++ q :: after)) (.and (before ++ q' :: after))
  | or (before after : List Pattern) {q q' : Pattern} : RelaxesOnce q q' →
    RelaxesOnce (.or (before ++ q :: after)) (.or (before ++ q' :: after))

/-- What relaxing makes of a pattern. Nothing that the nodes above look at has changed, and the new
pattern succeeds wherever the old one does. -/
structure Relaxed (p p' : Pattern) : Prop where
  wellFormed : p'.WellFormed
  flags_eq : p'.flags = p.flags
  meetsProgram_eq : p'.meetsProgram = p.meetsProgram
  ok_of_ok : ∀ v, (p.outcome v).ok → (p'.outcome v).ok

/-- What relaxing makes of an entry. It may have become optional, and an optional one stays so. -/
structure RelaxedEntry (e e' : Value × Pattern) : Prop where
  key_eq : e.1 = e'.1
  wellFormed : e'.2.WellFormed
  isOpt_of_isOpt : e.2.isOpt → e'.2.isOpt
  ok_of_ok : ∀ v, (e.2.outcome v).ok → (e'.2.outcome v).ok

namespace Relaxed

theorem refl {p : Pattern} (hp : p.WellFormed) : Relaxed p p :=
  ⟨hp, rfl, rfl, fun _ => id⟩

theorem trans {p q r : Pattern} (h : Relaxed p q) (h' : Relaxed q r) : Relaxed p r where
  wellFormed := h'.wellFormed
  flags_eq := h'.flags_eq.trans h.flags_eq
  meetsProgram_eq := h'.meetsProgram_eq.trans h.meetsProgram_eq
  ok_of_ok v hok := h'.ok_of_ok v (h.ok_of_ok v hok)

/-- A relaxed pattern may stand where the old one did. -/
theorem isRest_eq {p p' : Pattern} (h : Relaxed p p') : p'.isRest = p.isRest :=
  congrArg Flags.rest h.flags_eq

/-- A relaxed pattern is optional if the old one was. -/
theorem isOpt_eq {p p' : Pattern} (h : Relaxed p p') : p'.isOpt = p.isOpt :=
  congrArg Flags.opt h.flags_eq

end Relaxed

namespace RelaxedEntry

theorem refl {e : Value × Pattern} (he : e.2.WellFormed) : RelaxedEntry e e :=
  ⟨rfl, he, id, fun _ => id⟩

/-- An entry whose pattern is relaxed. -/
theorem of_relaxed {k : Value} {q q' : Pattern} (h : Relaxed q q') :
    RelaxedEntry (k, q) (k, q') where
  key_eq := rfl
  wellFormed := h.wellFormed
  isOpt_of_isOpt hopt := by
    show q'.isOpt
    rw [h.isOpt_eq]
    exact hopt
  ok_of_ok := h.ok_of_ok

/-- An entry that is made optional. -/
theorem opt {k : Value} {q : Pattern} (hq : q.WellFormed) : RelaxedEntry (k, q) (k, .opt q) where
  key_eq := rfl
  wellFormed := .opt hq
  isOpt_of_isOpt _ := rfl
  ok_of_ok _ := id

end RelaxedEntry

/-! ### Lists of parts -/

/-- A list in which one item has given way to another, when the relation holds between these two
and of every other item with itself. -/
theorem forall₂_replace {α : Type} {R : α → α → Prop} {before after : List α} {a b : α}
    (hab : R a b) (hself : ∀ x ∈ before ++ a :: after, R x x) :
    List.Forall₂ R (before ++ a :: after) (before ++ b :: after) := by
  obtain ⟨hbefore, ha⟩ := List.forall_mem_append.mp hself
  obtain ⟨-, hafter⟩ := List.forall_mem_cons.mp ha
  exact List.rel_append (List.forall₂_same.mpr hbefore) (.cons hab (List.forall₂_same.mpr hafter))

/-- Items that have not changed. -/
theorem Relaxed.refl_items {ps : List Pattern} (h : ∀ q ∈ ps, q.WellFormed) :
    List.Forall₂ Relaxed ps ps :=
  List.forall₂_same.mpr fun q hq => .refl (h q hq)

/-- A rest slot that has not changed. -/
theorem Relaxed.refl_middle {middle : Option Pattern} (h : ∀ r ∈ middle, r.WellFormed) :
    Option.Rel Relaxed middle middle := by
  cases middle with
  | none => exact .none
  | some r => exact .some (.refl (h r rfl))

section Lists

variable {ps ps' : List Pattern} (h : List.Forall₂ Relaxed ps ps')
include h

/-- Relaxed items are well formed. -/
theorem Relaxed.wellFormed_items : ∀ q ∈ ps', q.WellFormed := by
  intro q hq
  obtain ⟨p, -, hp⟩ := exists_mem_of_forall₂ h.flip q hq
  exact hp.wellFormed

/-- Relaxed items have the same programs in the way. -/
theorem Relaxed.anyMeetsProgram_eq : anyMeetsProgram ps' = anyMeetsProgram ps := by
  induction h with
  | nil => rfl
  | cons hp _ ih => rw [anyMeetsProgram, anyMeetsProgram, hp.meetsProgram_eq, ih]

/-- A pairwise test that succeeds still does. -/
theorem Relaxed.outcomeEach_ok (vs : List Value) (hok : (outcomeEach ps vs).ok) :
    (outcomeEach ps' vs).ok := by
  induction h generalizing vs with
  | nil => exact hok
  | cons hp _ ih =>
    cases vs with
    | nil => exact hok
    | cons v vs =>
      rw [outcomeEach, Outcome.andThen_ok, Bool.and_eq_true] at hok ⊢
      exact ⟨hp.ok_of_ok v hok.1, ih vs hok.2⟩

/-- A conjunction that succeeds still does. -/
theorem Relaxed.outcomeAll_ok (v : Value) (hok : (outcomeAll ps v).ok) :
    (outcomeAll ps' v).ok := by
  induction h with
  | nil => exact hok
  | cons hp _ ih =>
    rw [outcomeAll, Outcome.andThen_ok, Bool.and_eq_true] at hok ⊢
    exact ⟨hp.ok_of_ok v hok.1, ih hok.2⟩

/-- A disjunction that succeeds still does, perhaps at an earlier item. -/
theorem Relaxed.outcomeAny_ok (v : Value) (hok : (outcomeAny ps v).ok) :
    (outcomeAny ps' v).ok := by
  induction h with
  | nil => exact hok
  | cons hp _ ih =>
    rw [outcomeAny, Outcome.orElse_ok, Bool.or_eq_true] at hok ⊢
    exact hok.imp (hp.ok_of_ok v) ih

end Lists

section Entries

variable {es es' : List (Value × Pattern)} (h : List.Forall₂ RelaxedEntry es es')
include h

/-- No entry becomes required. -/
theorem RelaxedEntry.requiredCount_le : requiredCount es' ≤ requiredCount es := by
  rw [requiredCount, requiredCount]
  induction h with
  | nil => exact Nat.le_refl 0
  | @cons e e' _ _ he _ ih =>
    rw [List.countP_cons, List.countP_cons]
    -- a required entry was required before
    have hle : (if !e'.2.isOpt then 1 else 0) ≤ (if !e.2.isOpt then 1 else 0) := by
      cases hopt : e.2.isOpt with
      | true => rw [he.isOpt_of_isOpt hopt]
      | false => cases e'.2.isOpt <;> simp
    exact Nat.add_le_add ih hle

/-- Entries that all pass still do. -/
theorem RelaxedEntry.outcomeEntries_ok (m : ValueMap) (hok : (outcomeEntries es m).ok) :
    (outcomeEntries es' m).ok := by
  induction h with
  | nil => exact hok
  | @cons e e' _ _ he _ ih =>
    obtain ⟨k, p⟩ := e
    obtain ⟨k', p'⟩ := e'
    obtain rfl : k = k' := he.key_eq
    rw [outcomeEntries_cons, Outcome.andThen_ok, Bool.and_eq_true] at hok ⊢
    refine ⟨?_, ih hok.2⟩
    have hfirst := hok.1
    cases hfound : m.get? k with
    | none =>
      -- the entry has passed because it may be absent, and it still may
      rw [hfound] at hfirst
      exact he.isOpt_of_isOpt hfirst
    | some w =>
      rw [hfound] at hfirst
      exact he.ok_of_ok w hfirst

/-- A map pattern that asks for no more entries and allows no fewer keys fits where the old one
does. -/
theorem RelaxedEntry.mapFits {exact exact' : Bool} (hexact : exact' → exact) (m : ValueMap)
    (hfits : Pattern.mapFits ⟨es⟩ exact (requiredCount es) m) :
    Pattern.mapFits ⟨es'⟩ exact' (requiredCount es') m := by
  have hcontains : (⟨es⟩ : Assoc Value Pattern).contains = (⟨es'⟩ : Assoc Value Pattern).contains :=
    Assoc.contains_eq_of_keys_eq (Assoc.keys_eq_of_forall₂ RelaxedEntry.key_eq h)
  rw [Pattern.mapFits, Bool.and_eq_true, decide_eq_true_eq] at hfits ⊢
  obtain ⟨hcount, hkeys⟩ := hfits
  refine ⟨(RelaxedEntry.requiredCount_le h).trans hcount, ?_⟩
  rw [← hcontains]
  -- an exact pattern was exact before, and its keys are the same
  cases exact' with
  | false => rfl
  | true =>
    rw [hexact rfl] at hkeys
    exact hkeys

end Entries

/-! ### Nodes -/

namespace Relaxed

/-- A rest slot that succeeds still does. -/
theorem outcomeMiddle_ok {middle middle' : Option Pattern} (h : Option.Rel Relaxed middle middle')
    (v : Value) (hok : (outcomeMiddle middle v).ok) : (outcomeMiddle middle' v).ok := by
  cases h with
  | none => exact hok
  | some hr => exact hr.ok_of_ok v hok

/-- Relaxed parts make a relaxed sequence. Its parts are where they were, so it is well formed and
fits subjects of the same lengths. -/
theorem seq {head head' tail tail' : List Pattern} {middle middle' : Option Pattern}
    (hparts : PartsInOrder head middle tail) (hhead : List.Forall₂ Relaxed head head')
    (hmiddle : Option.Rel Relaxed middle middle') (htail : List.Forall₂ Relaxed tail tail') :
    Relaxed (.seq head middle tail) (.seq head' middle' tail') := by
  have hrest : List.Forall₂ Relaxed middle.toList middle'.toList := by
    cases hmiddle with
    | none => exact .nil
    | some hr => exact .cons hr .nil
  refine ⟨?_, rfl, ?_, fun v hok => ?_⟩
  · -- the rest flags are those of the old parts
    have hparts' : PartsInOrder head' middle' tail' := by
      refine hparts.of_forall₂ (R := fun q' q => Relaxed q q') isRest_eq hhead.flip ?_ htail.flip
      cases hmiddle with
      | none => exact .none
      | some hr => exact .some hr
    refine .seq hparts' (wellFormed_items hhead) (fun r hr => ?_) (wellFormed_items htail)
    exact wellFormed_items hrest r (Option.mem_toList.mpr hr)
  · rw [meetsProgram_seq, meetsProgram_seq, anyMeetsProgram_eq hhead, anyMeetsProgram_eq htail,
      anyMeetsProgram_eq hrest]
  · cases v with
    | seq items =>
      -- the same numbers of items fit, and the three parts are compared one by one
      by_cases hfit : sizeFits middle.isSome (leastLength head tail) items.length
      · have hfit' : sizeFits middle'.isSome (leastLength head' tail') items.length :=
          sizeFits_congr hhead hmiddle htail items.length ▸ hfit
        rw [outcome_seq hfit, Outcome.andThen_ok, Outcome.andThen_ok, Bool.and_eq_true,
          Bool.and_eq_true] at hok
        rw [outcome_seq hfit', Outcome.andThen_ok, Outcome.andThen_ok, Bool.and_eq_true,
          Bool.and_eq_true, ← hhead.length_eq, ← htail.length_eq]
        obtain ⟨hokHead, hokTail, hokMiddle⟩ := hok
        exact ⟨outcomeEach_ok hhead _ hokHead, outcomeEach_ok htail _ hokTail,
          outcomeMiddle_ok hmiddle _ hokMiddle⟩
      · rw [outcome_seq_of_not_fits hfit] at hok
        cases hok
    | _ => cases hok

/-- A map pattern is made anew with relaxed entries, and perhaps it is no longer exact. -/
theorem mapping {es es' : List (Value × Pattern)}
    (hkeys : (⟨es⟩ : Assoc Value Pattern).DistinctKeys) (h : List.Forall₂ RelaxedEntry es es')
    {exact exact' : Bool} (hexact : exact' → exact) :
    Relaxed (.map ⟨es⟩ exact (requiredCount es)) (Pattern.mapping es' exact') := by
  -- the keys are what they were, so no entry is merged with another
  have hkeys' : (⟨es'⟩ : Assoc Value Pattern).DistinctKeys := by
    unfold Assoc.DistinctKeys
    rw [← Assoc.keys_eq_of_forall₂ RelaxedEntry.key_eq h]
    exact hkeys
  have hmade : Pattern.mapping es' exact' = .map ⟨es'⟩ exact' (requiredCount es') :=
    mapping_eq_of_distinctKeys hkeys' exact'
  rw [hmade]
  refine ⟨.map hkeys' rfl fun e' he' => ?_, rfl, rfl, fun v hok => ?_⟩
  · -- every new entry came from an old one
    obtain ⟨e, -, he⟩ := exists_mem_of_forall₂ h.flip e' he'
    exact he.wellFormed
  · cases v with
    | map m =>
      -- a subject that the old pattern takes passes both tests of the new one
      rw [outcome_map] at hok ⊢
      split at hok
      · next hfits =>
        rw [if_pos (RelaxedEntry.mapFits h hexact m hfits)]
        exact RelaxedEntry.outcomeEntries_ok h m hok
      · cases hok
    | _ => cases hok

theorem opt {q q' : Pattern} (h : Relaxed q q') : Relaxed (.opt q) (.opt q') where
  wellFormed := .opt h.wellFormed
  flags_eq := rfl
  meetsProgram_eq := rfl
  ok_of_ok := h.ok_of_ok

/-- Relaxed items make a relaxed conjunction. -/
theorem and {ps ps' : List Pattern} (h : List.Forall₂ Relaxed ps ps') :
    Relaxed (.and ps) (.and ps') where
  wellFormed := .and (wellFormed_items h)
  flags_eq := flagsUnion_congr (R := fun q' q => Relaxed q q') flags_eq h.flip
  meetsProgram_eq := anyMeetsProgram_eq h
  ok_of_ok := outcomeAll_ok h

/-- Relaxed items make a relaxed disjunction. -/
theorem or {ps ps' : List Pattern} (h : List.Forall₂ Relaxed ps ps') :
    Relaxed (.or ps) (.or ps') where
  wellFormed := .or (wellFormed_items h)
  flags_eq := flagsUnion_congr (R := fun q' q => Relaxed q q') flags_eq h.flip
  meetsProgram_eq := anyMeetsProgram_eq h
  ok_of_ok := outcomeAny_ok h

end Relaxed

/-! ### Changes -/

/-- **One change relaxes the pattern it is made in**, at whatever depth it is made. -/
theorem RelaxesOnce.relaxed {p p' : Pattern} (h : RelaxesOnce p p') (hp : p.WellFormed) :
    Relaxed p p' := by
  induction h with
  -- the entries stay, and exactness is gone
  | inexact entries required =>
    cases hp with
    | map hkeys hrequired hentries =>
      subst hrequired
      exact .mapping hkeys (List.forall₂_same.mpr fun e he => .refl (hentries e he)) nofun
  -- one entry becomes optional, and the others stay
  | optional before after k q exact required =>
    cases hp with
    | map hkeys hrequired hentries =>
      subst hrequired
      have hq : q.WellFormed := hentries (k, q) (List.mem_append_right _ List.mem_cons_self)
      exact .mapping hkeys (forall₂_replace (.opt hq) fun e he => .refl (hentries e he)) id
  | entry before after k exact required _ ih =>
    cases hp with
    | map hkeys hrequired hentries =>
      subst hrequired
      have hq := ih (hentries (k, _) (List.mem_append_right _ List.mem_cons_self))
      refine .mapping hkeys (forall₂_replace (.of_relaxed hq) fun e he => .refl (hentries e he)) id
  -- a change further down: one part is relaxed by hypothesis, and the others stay
  | head before after middle tail _ ih =>
    cases hp with
    | seq hparts hhead hmiddle htail =>
      have hq := ih (hhead _ (List.mem_append_right _ List.mem_cons_self))
      exact .seq hparts (forall₂_replace hq fun p hp => .refl (hhead p hp))
        (Relaxed.refl_middle hmiddle) (Relaxed.refl_items htail)
  | middle head tail _ ih =>
    cases hp with
    | seq hparts hhead hmiddle htail =>
      exact .seq hparts (Relaxed.refl_items hhead) (.some (ih (hmiddle _ rfl)))
        (Relaxed.refl_items htail)
  | tail head middle before after _ ih =>
    cases hp with
    | seq hparts hhead hmiddle htail =>
      have hq := ih (htail _ (List.mem_append_right _ List.mem_cons_self))
      exact .seq hparts (Relaxed.refl_items hhead) (Relaxed.refl_middle hmiddle)
        (forall₂_replace hq fun p hp => .refl (htail p hp))
  | opt _ ih =>
    cases hp with
    | opt hinner => exact .opt (ih hinner)
  | and before after _ ih =>
    cases hp with
    | and hitems =>
      have hq := ih (hitems _ (List.mem_append_right _ List.mem_cons_self))
      exact .and (forall₂_replace hq fun p hp => .refl (hitems p hp))
  | or before after _ ih =>
    cases hp with
    | or hitems =>
      have hq := ih (hitems _ (List.mem_append_right _ List.mem_cons_self))
      exact .or (forall₂_replace hq fun p hp => .refl (hitems p hp))

/-- Changes one after another relax the pattern as one change does. -/
theorem relaxed_of_reflTransGen {p p' : Pattern} (h : Relation.ReflTransGen RelaxesOnce p p')
    (hp : p.WellFormed) : Relaxed p p' := by
  induction h with
  | refl => exact .refl hp
  | tail _ hchange ih => exact ih.trans (hchange.relaxed ih.wellFormed)

/-- **Relaxing map patterns never loses a match.** Let any number of map patterns, at any depth of a
constructible pattern without programs, lose their exactness or have entries made optional. The new
pattern is constructible too, with the flags of the old one, and it can be specialized. On every
subject that the old pattern matches, both the new pattern and its program match. -/
theorem relaxing_never_loses_a_match {p p' : Pattern} (hp : p.Constructible) (hfree : p.ProgramFree)
    (h : Relation.ReflTransGen RelaxesOnce p p') :
    p'.Constructible ∧ p'.flags = p.flags ∧
      ∃ c, p'.specialize = .ok c ∧ c.Constructible ∧
        ∀ v, p.MatchesFreshly v → p'.MatchesFreshly v ∧ c.MatchesFreshly v := by
  have hrelaxed : Relaxed p p' := relaxed_of_reflTransGen h hp.wellFormed
  have hp' : p'.Constructible := hrelaxed.wellFormed.constructible
  -- there are as few programs in the way as before, namely none
  obtain ⟨_, hspecializes⟩ := hfree.exists_specialize
  have hmet : p'.meetsProgram = false :=
    hrelaxed.meetsProgram_eq.trans (specialize_eq_ok_iff.mp hspecializes).1
  have hc : p'.specialize = .ok _ := specialize_eq_ok_iff.mpr ⟨hmet, rfl⟩
  refine ⟨hp', hrelaxed.flags_eq, _, hc, .specialized hp' hc, fun v hv => ?_⟩
  have hok : (p'.outcome v).ok := hrelaxed.ok_of_ok v ((hp.matchesFreshly_iff v).mp hv)
  -- the program has the outcome of the new pattern
  refine ⟨(hp'.matchesFreshly_iff v).mpr hok, ?_⟩
  rw [(Constructible.specialized hp' hc).matchesFreshly_iff, outcome_specialize hc]
  exact hok

/-- The readings may be absent, and other keys may be there. -/
def relaxedReadings : Pattern :=
  mapping [(.str "readings", .opt (.seq [.literal (.kind .int)] (some .rest)
    [.literal (.kind .int)])), (.str "unit", .opt (.literal (.kind .sym)))] false

theorem relaxes_readings :
    Relation.ReflTransGen RelaxesOnce (.seq [mapping readingEntries true] none [])
      (.seq [relaxedReadings] none []) := by
  have hinexact : RelaxesOnce (mapping readingEntries true) (mapping readingEntries false) :=
    .inexact ⟨readingEntries⟩ 1
  have hoptional : RelaxesOnce (mapping readingEntries false) relaxedReadings :=
    .optional [] _ _ _ false 1
  exact .tail (.single (.head [] [] none [] hinexact)) (.head [] [] none [] hoptional)

theorem programFree_readings (exact : Bool) : (mapping readingEntries exact).ProgramFree := by
  have hleaf := @programFree_of_children_eq_nil
  refine programFree_of_children rfl (List.forall_mem_cons.mpr
    ⟨programFree_of_children rfl ?_, List.forall_mem_singleton.mpr
      (programFree_of_children rfl (List.forall_mem_singleton.mpr (hleaf rfl rfl)))⟩)
  exact List.forall_mem_cons.mpr ⟨hleaf rfl rfl, List.forall_mem_cons.mpr ⟨hleaf rfl rfl,
    List.forall_mem_singleton.mpr (hleaf rfl rfl)⟩⟩

/-- The theorem at a map pattern inside a sequence, changed in both ways. -/
theorem relaxing_never_loses_a_match_of_readings :
    (Pattern.seq [relaxedReadings] none []).Constructible ∧
      (Pattern.seq [relaxedReadings] none []).flags
        = (Pattern.seq [mapping readingEntries true] none []).flags ∧
      ∃ c, (Pattern.seq [relaxedReadings] none []).specialize = .ok c ∧
        (Pattern.seq [mapping readingEntries true] none []).MatchesFreshly
          (.seq [.map threeReadings]) ∧
        (Pattern.seq [relaxedReadings] none []).MatchesFreshly (.seq [.map threeReadings]) ∧
        c.MatchesFreshly (.seq [.map threeReadings]) := by
  have hp : (Pattern.seq [mapping readingEntries true] none []).Constructible :=
    @Constructible.sequence _ none [] _
      (List.forall_mem_singleton.mpr (constructible_readings true)) nofun nofun rfl
  have hfree : (Pattern.seq [mapping readingEntries true] none []).ProgramFree :=
    programFree_of_children rfl (List.forall_mem_singleton.mpr (programFree_readings true))
  have hmatches : (Pattern.seq [mapping readingEntries true] none []).MatchesFreshly
      (.seq [.map threeReadings]) := ⟨_, rfl⟩
  obtain ⟨hp', hflags, c, hc, -, hkept⟩ := relaxing_never_loses_a_match hp hfree relaxes_readings
  exact ⟨hp', hflags, c, hc, hmatches, hkept _ hmatches⟩

end Pattern

end StructMatch
