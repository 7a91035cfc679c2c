import StructMatch.Proofs.Matching.Runs
import StructMatch.Proofs.Value.Constructible

/-!
# The declarative meaning of a pattern

`Pattern.Holds` says which values a pattern describes, by recursion on the pattern and without any
of the machinery of matching: no captures, no order of evaluation, no positions, no counting of
entries and no shortcut for bare markers. A sequence pattern holds of the sequences that *can be
split* into a front for its head, a back for its tail and something between for its rest slot; a map
pattern holds of the maps in which each of its entries has what it asks for.

A constructible pattern matches exactly the values of which it holds. Two things make this more than
reading the definitions side by side.

* The split of a sequence is unique once the lengths of head and tail are given, and the positions
  computed in an execution are those of this split (`holds_seq_iff`).
* An execution looks a key up and takes the first entry it finds, where the meaning speaks of some
  entry; that is the same because the keys of the subject are distinct. It also counts the entries
  of the subject before it looks at any of them. This test never decides: the required keys of a
  pattern are distinct and each of them must find an entry of its own, so a subject with too few
  entries fails anyway (`requiredCount_le_of_ok`).
-/

namespace StructMatch

namespace Outcome

/-- The verdicts of two outcomes in a row, with the first deciding alone where it fails. -/
theorem andThen_ok (a b : Outcome) : (a.andThen b).ok = (a.ok && b.ok) := by
  unfold andThen
  cases h : a.ok with
  | true => rfl
  | false => exact h

/-- The verdicts of two alternatives, with the first deciding alone where it succeeds. -/
theorem orElse_ok (a b : Outcome) : (a.orElse b).ok = (a.ok || b.ok) := by
  unfold orElse
  cases h : a.ok with
  | true => exact h
  | false => rfl

end Outcome

namespace Pattern

/-! ### Meaning -/

mutual

/-- The pattern describes the value. A program describes what its pattern describes. -/
def Holds : Pattern → Value → Prop
  | .literal lit, v => lit.accepts v
  | .any, _ => True
  | .rest, _ => True
  | .named _, _ => True
  | .seq head middle tail, v =>
    ∃ front between back, v = .seq (front ++ between ++ back) ∧
      HoldsEach head front ∧ HoldsEach tail back ∧
      match middle with
      | none => between = []
      | some r => Holds r (.seq between)
  | .map ⟨entries⟩ exact _, v =>
    ∃ m, v = .map m ∧ HoldsEntries entries m ∧
      (exact → ∀ f ∈ m.entries, ∃ e ∈ entries, e.1 == f.1)
  | .opt inner, v => Holds inner v
  | .and items, v => HoldsAll items v
  | .or items, v => HoldsAny items v
  | .compiled origin _ _ _, v => Holds origin v
termination_by structural p => p

/-- As many patterns as values, each describing its partner. -/
def HoldsEach : List Pattern → List Value → Prop
  | [], [] => True
  | p :: ps, v :: vs => Holds p v ∧ HoldsEach ps vs
  | _, _ => False
termination_by structural ps => ps

/-- For every entry, the map has an entry under an equal key whose value the pattern describes, or
it has no entry under an equal key and the pattern is optional. -/
def HoldsEntries : List (Value × Pattern) → ValueMap → Prop
  | [], _ => True
  | (k, p) :: others, m =>
    ((∃ f ∈ m.entries, f.1 == k ∧ Holds p f.2) ∨
      (∀ f ∈ m.entries, (f.1 == k) = false) ∧ p.isOpt) ∧ HoldsEntries others m
termination_by structural es => es

/-- Every pattern describes the value. -/
def HoldsAll : List Pattern → Value → Prop
  | [], _ => True
  | p :: ps, v => Holds p v ∧ HoldsAll ps v
termination_by structural ps => ps

/-- Some pattern describes the value. -/
def HoldsAny : List Pattern → Value → Prop
  | [], _ => False
  | p :: ps, v => Holds p v ∨ HoldsAny ps v
termination_by structural ps => ps

end

/-- What a map must have for one entry of a pattern. -/
def HoldsEntry (m : ValueMap) (e : Value × Pattern) : Prop :=
  (∃ f ∈ m.entries, f.1 == e.1 ∧ e.2.Holds f.2) ∨
    (∀ f ∈ m.entries, (f.1 == e.1) = false) ∧ e.2.isOpt

/-- The pairwise meaning, which is false of lists of different lengths. -/
theorem holdsEach_iff {ps : List Pattern} {vs : List Value} :
    HoldsEach ps vs ↔ List.Forall₂ Holds ps vs := by
  induction ps generalizing vs with
  | nil => cases vs <;> simp [HoldsEach]
  | cons p ps ih =>
    cases vs with
    | nil => simp [HoldsEach]
    | cons v vs => rw [HoldsEach, ih, List.forall₂_cons]

/-- The entries hold of a map one by one, in no order. -/
theorem holdsEntries_iff {es : List (Value × Pattern)} {m : ValueMap} :
    HoldsEntries es m ↔ ∀ e ∈ es, HoldsEntry m e := by
  induction es with
  | nil => simp [HoldsEntries]
  | cons e es ih =>
    rw [HoldsEntries, ih, List.forall_mem_cons]
    rfl

theorem holdsAll_iff {ps : List Pattern} {v : Value} : HoldsAll ps v ↔ ∀ p ∈ ps, p.Holds v := by
  induction ps with
  | nil => simp [HoldsAll]
  | cons p ps ih => rw [HoldsAll, ih, List.forall_mem_cons]

theorem holdsAny_iff {ps : List Pattern} {v : Value} : HoldsAny ps v ↔ ∃ p ∈ ps, p.Holds v := by
  induction ps with
  | nil => simp [HoldsAny]
  | cons p ps ih => rw [HoldsAny, ih, List.exists_mem_cons_iff]

/-- A map pattern holds of a map through its entries and, if it is exact, through the keys of the
map. -/
theorem holds_map_iff {entries : Assoc Value Pattern} {exact : Bool} {required : Nat}
    {m : ValueMap} :
    (Pattern.map entries exact required).Holds (.map m) ↔
      (∀ e ∈ entries.entries, HoldsEntry m e) ∧
        (exact → ∀ f ∈ m.entries, ∃ e ∈ entries.entries, e.1 == f.1) := by
  rw [Holds, ← holdsEntries_iff]
  constructor
  · -- the map in the meaning is the subject
    rintro ⟨m', hm', h⟩
    obtain rfl : m = m' := Value.map.inj hm'
    exact h
  · exact fun h => ⟨m, rfl, h⟩

/-! ### The split of a sequence -/

/-- Front, between and back put together again. -/
theorem take_append_middleItems_append_lastItems {front back : Nat} {items : List Value}
    (h : front + back ≤ items.length) :
    items.take front ++ middleItems front back items ++ lastItems back items = items := by
  have hfront : items.take front = (items.take (items.length - back)).take front := by
    rw [List.take_take, Nat.min_eq_left (by omega)]
  unfold middleItems lastItems
  rw [hfront, List.take_append_drop, List.take_append_drop]

/-- The items at the end are found again when their number is known. -/
theorem lastItems_append (items back : List Value) :
    lastItems back.length (items ++ back) = back := by
  unfold lastItems
  rw [List.length_append, Nat.add_sub_cancel, List.drop_left]

/-- The items between are found again when the numbers around them are known. -/
theorem middleItems_append (front between back : List Value) :
    middleItems front.length back.length (front ++ between ++ back) = between := by
  unfold middleItems
  rw [List.length_append, Nat.add_sub_cancel, List.take_left, List.drop_left]

/-- The length test in arithmetic: enough items, and no more than named without a rest slot. -/
theorem sizeFits_iff {hasRest : Bool} {named length : Nat} :
    sizeFits hasRest named length ↔ named ≤ length ∧ (hasRest = false → named = length) := by
  unfold sizeFits
  cases hasRest with
  | true => simp
  | false =>
    simp only [Bool.false_eq_true, if_false, beq_iff_eq, true_implies]
    omega

/-- **The split is settled by the lengths.** A sequence pattern holds if the number of items fits
and the three parts at the positions that an execution computes are what is asked for. -/
theorem holds_seq_iff {head tail : List Pattern} {middle : Option Pattern} {items : List Value} :
    (Pattern.seq head middle tail).Holds (.seq items) ↔
      sizeFits middle.isSome (leastLength head tail) items.length ∧
        List.Forall₂ Holds head (items.take head.length) ∧
        List.Forall₂ Holds tail (lastItems tail.length items) ∧
        ∀ r ∈ middle, r.Holds (.seq (middleItems head.length tail.length items)) := by
  rw [Holds]
  constructor
  · rintro ⟨front, between, back, hitems, hhead, htail, hmiddle⟩
    -- a split: the lengths of head and tail say where its parts begin and end
    obtain rfl := Value.seq.inj hitems
    rw [holdsEach_iff] at hhead htail
    rw [hhead.length_eq, htail.length_eq, middleItems_append, lastItems_append, List.append_assoc,
      List.take_left, sizeFits_iff, leastLength, hhead.length_eq, htail.length_eq]
    refine ⟨?_, hhead, htail, ?_⟩
    · simp only [List.length_append]
      refine ⟨by omega, fun hnone => ?_⟩
      cases middle with
      | none =>
        obtain rfl : between = [] := hmiddle
        simp
      | some r => cases hnone
    · rintro r hr
      obtain rfl : middle = some r := hr
      exact hmiddle
  · rintro ⟨hfits, hhead, htail, hmiddle⟩
    -- the three parts at their positions: together they are the sequence again
    obtain ⟨hle, hnone⟩ := sizeFits_iff.mp hfits
    rw [leastLength] at hle hnone
    have hsplit := take_append_middleItems_append_lastItems hle
    refine ⟨_, _, _, congrArg Value.seq hsplit.symm, holdsEach_iff.mpr hhead,
      holdsEach_iff.mpr htail, ?_⟩
    cases middle with
    | some r => exact hmiddle r rfl
    | none =>
      -- without a rest slot, head and tail take up all items
      have hlength := hnone rfl
      refine List.eq_nil_of_length_eq_zero ?_
      rw [middleItems, List.length_drop, List.length_take]
      omega

/-- A sequence pattern holds of sequences only. -/
theorem exists_of_holds_seq {head tail : List Pattern} {middle : Option Pattern} {v : Value}
    (h : (Pattern.seq head middle tail).Holds v) : ∃ items, v = .seq items := by
  rw [Holds] at h
  obtain ⟨front, between, back, hv, -⟩ := h
  exact ⟨_, hv⟩

/-- A map pattern holds of maps only. -/
theorem exists_of_holds_map {entries : Assoc Value Pattern} {exact : Bool} {required : Nat}
    {v : Value} (h : (Pattern.map entries exact required).Holds v) : ∃ m, v = .map m := by
  rw [Holds] at h
  obtain ⟨m, hv, -⟩ := h
  exact ⟨m, hv⟩

/-! ### Outcomes and meaning -/

/-- The outcome of the pattern is a success exactly where the pattern holds. -/
def HasMeaning (p : Pattern) : Prop :=
  ∀ v : Value, v.Constructible → ((p.outcome v).ok ↔ p.Holds v)

section Lists

variable {ps : List Pattern} (h : ∀ p ∈ ps, p.HasMeaning)
include h

/-- A pairwise test succeeds if every item holds of its partner. With at least as many values as
patterns none of the patterns goes untested. -/
theorem outcomeEach_ok_iff {vs : List Value} (hvs : ∀ v ∈ vs, v.Constructible)
    (hle : ps.length ≤ vs.length) :
    (outcomeEach ps vs).ok ↔ List.Forall₂ Holds ps (vs.take ps.length) := by
  induction ps generalizing vs with
  | nil => exact ⟨fun _ => .nil, fun _ => rfl⟩
  | cons p ps ih =>
    cases vs with
    | nil => exact absurd hle (Nat.not_succ_le_zero _)
    | cons v vs =>
      obtain ⟨hp, hps⟩ := List.forall_mem_cons.mp h
      obtain ⟨hv, hvs⟩ := List.forall_mem_cons.mp hvs
      rw [outcomeEach, Outcome.andThen_ok, Bool.and_eq_true, hp v hv,
        ih hps hvs (Nat.le_of_succ_le_succ hle), List.length_cons, List.take_succ_cons,
        List.forall₂_cons]

/-- A conjunction succeeds where all its items hold. -/
theorem HasMeaning.and : (Pattern.and ps).HasMeaning := by
  intro v hv
  rw [Holds, holdsAll_iff, outcome]
  -- the items behind a failed one are not run, and do not matter any more
  induction ps with
  | nil => exact iff_of_true rfl (List.forall_mem_nil _)
  | cons p ps ih =>
    obtain ⟨hp, hps⟩ := List.forall_mem_cons.mp h
    rw [outcomeAll, Outcome.andThen_ok, Bool.and_eq_true, hp v hv, ih hps, List.forall_mem_cons]

/-- A disjunction succeeds where some item holds, whichever it stops at. -/
theorem HasMeaning.or : (Pattern.or ps).HasMeaning := by
  intro v hv
  rw [Holds, holdsAny_iff, outcome]
  induction ps with
  | nil => exact iff_of_false Bool.false_ne_true (by simp)
  | cons p ps ih =>
    obtain ⟨hp, hps⟩ := List.forall_mem_cons.mp h
    rw [outcomeAny, Outcome.orElse_ok, Bool.or_eq_true, hp v hv, ih hps, List.exists_mem_cons_iff]

end Lists

/-- A sequence succeeds where it can be split as its parts ask. -/
theorem HasMeaning.seq {head tail : List Pattern} {middle : Option Pattern}
    (hhead : ∀ p ∈ head, p.HasMeaning) (hmiddle : ∀ p ∈ middle, p.HasMeaning)
    (htail : ∀ p ∈ tail, p.HasMeaning) : (Pattern.seq head middle tail).HasMeaning := by
  intro v hv
  cases v with
  | seq items =>
    rw [holds_seq_iff]
    by_cases hfit : sizeFits middle.isSome (leastLength head tail) items.length
    · -- enough items for head and tail, so the pairwise tests do not run out of them
      have hle : head.length + tail.length ≤ items.length := le_of_sizeFits hfit
      have hlast : (lastItems tail.length items).length = tail.length := by
        rw [lastItems, List.length_drop]
        omega
      have hlastItems : ∀ v ∈ lastItems tail.length items, v.Constructible :=
        fun v hv' => hv.of_mem_items v (List.mem_of_mem_drop hv')
      have hbetween : Value.Constructible (.seq (middleItems head.length tail.length items)) :=
        hv.of_subset fun v hv' => List.mem_of_mem_take (List.mem_of_mem_drop hv')
      -- the verdict of each part is its meaning, and the three are put together in the same order
      rw [outcome_seq hfit, Outcome.andThen_ok, Outcome.andThen_ok, Bool.and_eq_true,
        Bool.and_eq_true, outcomeEach_ok_iff hhead hv.of_mem_items (by omega),
        outcomeEach_ok_iff htail hlastItems (Nat.le_of_eq hlast.symm),
        List.take_of_length_le (Nat.le_of_eq hlast)]
      simp only [hfit, true_and]
      refine and_congr_right fun _ => and_congr_right fun _ => ?_
      cases middle with
      | none => exact ⟨fun _ => nofun, fun _ => rfl⟩
      | some r => exact (hmiddle r rfl _ hbetween).trans (by simp)
    · rw [outcome_seq_of_not_fits hfit]
      exact ⟨nofun, fun hholds => absurd hholds.1 hfit⟩
  | _ =>
    -- no sequence: the execution fails and there is nothing to split
    refine iff_of_false Bool.false_ne_true fun hholds => ?_
    obtain ⟨items, hitems⟩ := exists_of_holds_seq hholds
    cases hitems

/-! ### Counting the entries of a map -/

/-- The map has no keys besides those of the pattern, if the pattern is exact. -/
def keysFit (entries : Assoc Value Pattern) (exact : Bool) (m : ValueMap) : Bool :=
  !exact || m.keys.all entries.contains

/-- The test of the keys of an exact pattern, without look-ups. -/
theorem keysFit_iff {entries : Assoc Value Pattern} {exact : Bool} {m : ValueMap} :
    keysFit entries exact m ↔
      (exact → ∀ f ∈ m.entries, ∃ e ∈ entries.entries, e.1 == f.1) := by
  cases exact with
  | false => simp [keysFit]
  | true => simp [keysFit, Assoc.contains, Assoc.keys]

/-- What an entry that has passed was found to be. -/
theorem found_of_ok {es : List (Value × Pattern)} {m : ValueMap} (h : (outcomeEntries es m).ok) :
    ∀ e ∈ es, e.2.isOpt = false → ∃ f ∈ m.entries, f.1 == e.1 := by
  induction es with
  | nil => exact nofun
  | cons e es ih =>
    obtain ⟨k, p⟩ := e
    rw [outcomeEntries_cons, Outcome.andThen_ok, Bool.and_eq_true] at h
    obtain ⟨hfirst, hothers⟩ := h
    refine List.forall_mem_cons.mpr ⟨fun hrequired => ?_, ih hothers⟩
    -- a required entry does not pass where nothing is found, so something was
    cases hfound : m.get? k with
    | some w =>
      obtain ⟨f, hf, hkey, -⟩ := Assoc.exists_mem_of_get?_eq_some hfound
      exact ⟨f, hf, hkey⟩
    | none =>
      rw [hfound, outcomeEntry] at hfirst
      rw [hrequired] at hfirst
      cases hfirst

/-- **A subject with too few entries fails anyway.** Where the keys of a pattern are distinct and
all its entries pass, the required ones among them have found as many entries of the subject. -/
theorem requiredCount_le_of_ok {entries : Assoc Value Pattern} (hkeys : entries.DistinctKeys)
    {m : ValueMap} (h : (outcomeEntries entries.entries m).ok) :
    requiredCount entries.entries ≤ m.size := by
  have hsublist : (entries.entries.filter fun e => !e.2.isOpt).Sublist entries.entries :=
    List.filter_sublist
  -- distinct keys that each find an entry find as many entries
  have hdistinct : Assoc.DistinctKeys ⟨entries.entries.filter fun e => !e.2.isOpt⟩ :=
    List.Pairwise.sublist (hsublist.map _) hkeys
  rw [requiredCount, List.countP_eq_length_filter]
  refine hdistinct.size_le fun e he => ?_
  obtain ⟨hmem, hrequired⟩ := List.mem_filter.mp he
  exact found_of_ok h e hmem (by simpa using hrequired)

/-- The verdict on a map, with the count left out. -/
theorem outcome_map_ok {entries : Assoc Value Pattern} (hkeys : entries.DistinctKeys)
    (exact : Bool) (m : ValueMap) :
    ((Pattern.map entries exact (requiredCount entries.entries)).outcome (.map m)).ok
      = (keysFit entries exact m && (outcomeEntries entries.entries m).ok) := by
  have hfits : mapFits entries exact (requiredCount entries.entries) m
      = (decide (requiredCount entries.entries ≤ m.size) && keysFit entries exact m) := rfl
  rw [outcome_map, hfits]
  -- where an entry fails the test before does not matter, and where none does it is passed
  cases hok : (outcomeEntries entries.entries m).ok with
  | false =>
    rw [Bool.and_false]
    split
    · exact hok
    · rfl
  | true =>
    rw [decide_eq_true (requiredCount_le_of_ok hkeys hok), Bool.true_and, Bool.and_true]
    cases keysFit entries exact m with
    | true => exact hok
    | false => rfl

/-- Each entry passes exactly if the subject has what it asks for. -/
theorem outcomeEntries_ok_iff {es : List (Value × Pattern)} (h : ∀ e ∈ es, e.2.HasMeaning)
    {m : ValueMap} (hm : Value.Constructible (.map m)) :
    (outcomeEntries es m).ok ↔ ∀ e ∈ es, HoldsEntry m e := by
  induction es with
  | nil => exact ⟨fun _ => nofun, fun _ => rfl⟩
  | cons e es ih =>
    obtain ⟨k, p⟩ := e
    obtain ⟨hp, hes⟩ := List.forall_mem_cons.mp h
    rw [outcomeEntries_cons, Outcome.andThen_ok, Bool.and_eq_true, ih hes, List.forall_mem_cons]
    refine and_congr_left fun _ => ?_
    rw [HoldsEntry]
    -- a look-up finds one entry, the meaning speaks of any
    cases hfound : m.get? k with
    | none =>
      have habsent := Assoc.get?_eq_none_iff.mp hfound
      refine ⟨fun hopt => .inr ⟨habsent, hopt⟩, ?_⟩
      rintro (⟨f, hf, hkey, -⟩ | ⟨-, hopt⟩)
      · rw [habsent f hf] at hkey
        cases hkey
      · exact hopt
    | some w =>
      rw [outcomeEntry, hp w (hm.of_get? hfound)]
      obtain ⟨f, hf, hkey, rfl⟩ := Assoc.exists_mem_of_get?_eq_some hfound
      refine ⟨fun hholds => .inl ⟨f, hf, hkey, hholds⟩, ?_⟩
      rintro (⟨f', hf', hkey', hholds⟩ | ⟨habsent, -⟩)
      · -- no other entry has a key that equals the wanted one
        have hsame := hm.distinctKeys.get?_eq_some hf' hkey'
        rw [hfound, Option.some.injEq] at hsame
        rwa [hsame]
      · rw [habsent f hf] at hkey
        cases hkey

/-- A map succeeds where each entry has what it asks for. The number of entries needs no mention in
the meaning, because the required ones are counted right. -/
theorem HasMeaning.map {entries : Assoc Value Pattern} (hkeys : entries.DistinctKeys)
    (h : ∀ e ∈ entries.entries, e.2.HasMeaning) (exact : Bool) :
    (Pattern.map entries exact (requiredCount entries.entries)).HasMeaning := by
  intro v hv
  cases v with
  | map m =>
    rw [outcome_map_ok hkeys, Bool.and_eq_true, keysFit_iff, outcomeEntries_ok_iff h hv,
      holds_map_iff, and_comm]
  | _ =>
    refine iff_of_false Bool.false_ne_true fun hholds => ?_
    obtain ⟨m, hm⟩ := exists_of_holds_map hholds
    cases hm

/-- **A constructible pattern succeeds exactly where it holds.** -/
theorem Constructible.hasMeaning {p : Pattern} (hp : p.Constructible) : p.HasMeaning := by
  have hform : p.WellFormed := hp.wellFormed
  clear hp
  induction hform with
  | literal lit => exact fun _ _ => Iff.rfl
  | any | rest | named key => exact fun _ _ => ⟨fun _ => trivial, fun _ => rfl⟩
  | seq _ _ _ _ ihHead ihMiddle ihTail => exact .seq ihHead ihMiddle ihTail
  | map hkeys hrequired _ ih =>
    subst hrequired
    exact .map hkeys ih _
  | opt _ ih => exact ih
  | and _ ih => exact .and ih
  | or _ ih => exact .or ih
  -- a program has both the outcome and the meaning of its pattern
  | compiled _ _ _ ih _ => exact ih

/-! ### Matching -/

/-- A match comes to an end without a fault, and it succeeds exactly where the pattern holds. -/
theorem Constructible.exists_matches?_eq {p : Pattern} (hp : p.Constructible) {v : Value}
    (hv : v.Constructible) : ∃ found, p.matches? v = .ok found ∧ (found.isSome ↔ p.Holds v) := by
  refine ⟨_, hp.matches?_eq_outcome v, ?_⟩
  rw [← hp.hasMeaning v hv]
  cases (p.outcome v).ok <;> simp

/-- What is known of a constructible map pattern. -/
theorem Constructible.of_map {entries : Assoc Value Pattern} {exact : Bool} {required : Nat}
    (h : (Pattern.map entries exact required).Constructible) :
    entries.DistinctKeys ∧ required = requiredCount entries.entries ∧
      ∀ e ∈ entries.entries, e.2.Constructible := by
  cases h.wellFormed with
  | map hkeys hrequired hentries =>
    exact ⟨hkeys, hrequired, fun e he => (hentries e he).constructible⟩

/-- Test a map without counting its entries first. -/
def executeUncounted (entries : Assoc Value Pattern) (exact : Bool) (m : ValueMap) : MatchM Bool :=
  if keysFit entries exact m then executeEntries entries.entries m else return false

/-- The test without the count has an outcome too, and it is the one with the count left out. -/
theorem realizes_executeUncounted {entries : Assoc Value Pattern}
    (h : ∀ e ∈ entries.entries, e.2.Constructible) (exact : Bool) (m : ValueMap) :
    Realizes (executeUncounted entries exact m)
      (if keysFit entries exact m then outcomeEntries entries.entries m else .failure) := by
  unfold executeUncounted
  split
  · exact realizes_executeEntries (fun e he => (h e he).realizes) m
  · exact realizes_failure

/-- Counting the entries of the subject makes no difference to the verdict on a map. -/
theorem Constructible.run_map_uncounted {entries : Assoc Value Pattern} {exact : Bool}
    {required : Nat} (h : (Pattern.map entries exact required).Constructible) (m : ValueMap)
    (captures : Captures) : ∃ ok s s',
      (Pattern.map entries exact required).run (.map m) captures = .ok (ok, s) ∧
        (executeUncounted entries exact m).run (.start captures) = .ok (ok, s') := by
  obtain ⟨hkeys, rfl, hentries⟩ := h.of_map
  have huncounted := realizes_executeUncounted hentries exact m (.start captures)
  -- the effects may differ, since the count may stop the run before any entry; the verdicts do not
  have hok : (if keysFit entries exact m then outcomeEntries entries.entries m else .failure).ok
      = ((Pattern.map entries exact (requiredCount entries.entries)).outcome (.map m)).ok := by
    rw [outcome_map_ok hkeys]
    cases keysFit entries exact m <;> rfl
  rw [hok] at huncounted
  exact ⟨_, _, _, h.run_eq_outcome (.map m) captures, huncounted⟩

/-- **A pattern matches exactly the values of which it holds.** A match always comes to an end, and
it finds captures if and only if the value meets the declarative meaning of the pattern. In
particular the test for the number of entries never changes the verdict on a map. -/
theorem matches_exactly_where_it_holds {p : Pattern} (hp : p.Constructible) {v : Value}
    (hv : v.Constructible) :
    (∃ found, p.matches? v = .ok found ∧ (found.isSome ↔ p.Holds v)) ∧
    ∀ entries exact required m, p = .map entries exact required → v = .map m →
      ∀ captures, ∃ ok s s', p.run v captures = .ok (ok, s) ∧
        (executeUncounted entries exact m).run (.start captures) = .ok (ok, s') := by
  refine ⟨hp.exists_matches?_eq hv, ?_⟩
  rintro entries exact required m rfl rfl captures
  exact hp.run_map_uncounted m captures

/-- The entries for some readings, the first and the last of them integers, and maybe a unit. -/
def readingEntries : List (Value × Pattern) :=
  [(.str "readings", .seq [.literal (.kind .int)] (some .rest) [.literal (.kind .int)]),
    (.str "unit", .opt (.literal (.kind .sym)))]

theorem constructible_readings (exact : Bool) : (mapping readingEntries exact).Constructible := by
  have hint : ∀ q ∈ [Pattern.literal (.kind .int)], q.Constructible :=
    List.forall_mem_singleton.mpr (.literal _)
  have hmiddle : ∀ q ∈ some Pattern.rest, q.Constructible := by
    intro q hq
    obtain rfl := Option.mem_some.mp hq
    exact .rest
  exact .mapping exact (List.forall_mem_cons.mpr ⟨.sequence hint hmiddle hint rfl,
    List.forall_mem_singleton.mpr (.opt (.literal _))⟩)

/-- Readings without a unit. -/
def threeReadings : ValueMap :=
  .ofList [(.str "readings", .seq [.int 4, .nil, .int 5])]

theorem constructible_threeReadings : Value.Constructible (.map threeReadings) := by
  have hitems : Value.Constructible (.seq [.int 4, .nil, .int 5]) :=
    .seq (List.forall_mem_cons.mpr ⟨.int 4, List.forall_mem_cons.mpr
      ⟨.nil, List.forall_mem_singleton.mpr (.int 5)⟩⟩)
  refine .map (List.forall_mem_singleton.mpr (.str _)) (List.forall_mem_singleton.mpr ?_)
  exact hitems

/-- The theorem at a map without the optional entry, of which the pattern holds. -/
theorem matches_exactly_where_it_holds_of_readings :
    (mapping readingEntries true).Holds (.map threeReadings) ∧
    ∀ captures, ∃ ok s s',
      (mapping readingEntries true).run (.map threeReadings) captures = .ok (ok, s) ∧
      (executeUncounted (.ofList readingEntries) true threeReadings).run (.start captures)
        = .ok (ok, s') := by
  obtain ⟨⟨found, hfound, hholds⟩, huncounted⟩ :=
    matches_exactly_where_it_holds (constructible_readings true) constructible_threeReadings
  -- the match is evaluated, and what the theorem says of it is read off
  have hmatches : (mapping readingEntries true).matches? (.map threeReadings)
      = .ok (some .empty) := rfl
  obtain rfl := Except.ok.inj (hmatches.symm.trans hfound)
  exact ⟨hholds.mp rfl, huncounted _ _ _ _ rfl rfl⟩

end Pattern

end StructMatch
