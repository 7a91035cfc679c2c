import Mathlib.Data.List.TakeWhile
import StructMatch.Proofs.Assoc.Distinct
import StructMatch.Proofs.Pattern.Constructible
import StructMatch.Proofs.Program.Layout
import StructMatch.Proofs.Value.Equality

/-!
# Well-formed patterns

What the operations on patterns keep up is a condition on every node of a pattern, at every depth.
In a sequence the rest flag marks the rest slot and nothing else, and there is no tail without a
rest slot. In a map the keys are told apart and the count of required entries is right. A program
is the program of a well-formed pattern, and the patterns in its slots are well formed.
`Pattern.WellFormed` is this condition.

It is not only kept up but exact: a pattern is constructible if and only if it is well formed
(`constructible_iff_wellFormed`). What is known of a constructible pattern can therefore be read off
its form, where the definition of `Constructible` speaks of the way in which it was made.

Every way to come by a pattern is a rule of `Pattern.Obtainable`: the forms of patterns, the
operators, building from plain data with patterns mixed in, specializing, and taking a pattern out
of the table of a program. These ways lead to the well-formed patterns and to no others
(`obtainable_iff_wellFormed`).
-/

namespace StructMatch

namespace Pattern

/-! ### Sequences -/

/-- The parts of a sequence pattern are in order: the rest flag marks the pattern in the rest slot
and no other, and without a rest slot there is no tail. -/
structure PartsInOrder (head : List Pattern) (middle : Option Pattern) (tail : List Pattern) :
    Prop where
  unmarked_head : ∀ q ∈ head, q.isRest = false
  marked_middle : ∀ r ∈ middle, r.isRest
  unmarked_tail : ∀ q ∈ tail, q.isRest = false
  tail_eq_nil : middle = none → tail = []

/-- Parts that are in order make a sequence pattern as they are. -/
theorem PartsInOrder.sequence_eq_ok {head tail : List Pattern} {middle : Option Pattern}
    (h : PartsInOrder head middle tail) :
    sequence head middle tail = .ok (.seq head middle tail) := by
  -- each of the three checks is passed
  have hhead : head.any isRest = false :=
    List.any_eq_false.mpr fun q hq => Bool.eq_false_iff.mp (h.unmarked_head q hq)
  have htail : tail.any isRest = false :=
    List.any_eq_false.mpr fun q hq => Bool.eq_false_iff.mp (h.unmarked_tail q hq)
  cases middle with
  | none =>
    obtain rfl := h.tail_eq_nil rfl
    simp [sequence, hhead]
  | some r =>
    have hr : r.isRest := h.marked_middle r rfl
    simp [sequence, hhead, htail, hr]

/-- The parts of what `sequence` makes are in order. They are the given parts, with the tail put
behind the head if there is no rest slot. -/
theorem exists_of_sequence_eq_ok {head tail : List Pattern} {middle : Option Pattern} {p : Pattern}
    (h : sequence head middle tail = .ok p) :
    ∃ head' tail', p = .seq head' middle tail' ∧ head' ++ tail' = head ++ tail ∧
      PartsInOrder head' middle tail' := by
  unfold sequence at h
  split at h
  · cases h
  · next hplaced =>
    simp only [Bool.or_eq_true, not_or, Bool.not_eq_true, List.any_eq_false] at hplaced
    obtain ⟨⟨hmiddle, hhead⟩, htail⟩ := hplaced
    cases middle with
    | none =>
      -- without a rest slot there is one list of parts, and what was checked of two holds of it
      refine ⟨head ++ tail, [], (Except.ok.inj h).symm, List.append_nil _, ?_⟩
      exact ⟨List.forall_mem_append.mpr ⟨hhead, htail⟩, nofun, nofun, fun _ => rfl⟩
    | some r =>
      refine ⟨head, tail, (Except.ok.inj h).symm, rfl, hhead, ?_, htail, nofun⟩
      intro r' hr'
      obtain rfl := Option.mem_some.mp hr'
      simpa using hmiddle

/-- Parts that are in order stay so when parts with the same rest flag are put in their places. -/
theorem PartsInOrder.of_forall₂ {R : Pattern → Pattern → Prop}
    (hrest : ∀ {q' q}, R q' q → q'.isRest = q.isRest) {head head' tail tail' : List Pattern}
    {middle middle' : Option Pattern} (h : PartsInOrder head middle tail)
    (hhead : List.Forall₂ R head' head) (hmiddle : Option.Rel R middle' middle)
    (htail : List.Forall₂ R tail' tail) : PartsInOrder head' middle' tail' where
  unmarked_head := by
    intro q' hq'
    -- the part it replaces has the same flag
    obtain ⟨q, hq, hsame⟩ := exists_mem_of_forall₂ hhead q' hq'
    rw [hrest hsame]
    exact h.unmarked_head q hq
  marked_middle := by
    cases hmiddle with
    | none => exact nofun
    | some hsame =>
      intro r' hr'
      obtain rfl := Option.mem_some.mp hr'
      rw [hrest hsame]
      exact h.marked_middle _ rfl
  unmarked_tail := by
    intro q' hq'
    obtain ⟨q, hq, hsame⟩ := exists_mem_of_forall₂ htail q' hq'
    rw [hrest hsame]
    exact h.unmarked_tail q hq
  tail_eq_nil := by
    rintro rfl
    cases hmiddle
    obtain rfl := h.tail_eq_nil rfl
    exact List.forall₂_nil_right_iff.mp htail

/-! ### The split around the rest slot -/

/-- The rest flags of parts in order: one if there is a rest slot, and none otherwise. -/
theorem PartsInOrder.countP_isRest {head tail : List Pattern} {middle : Option Pattern}
    (h : PartsInOrder head middle tail) :
    (head ++ middle.toList ++ tail).countP isRest = middle.toList.length := by
  have hhead : head.countP isRest = 0 :=
    List.countP_eq_zero.mpr fun q hq => Bool.eq_false_iff.mp (h.unmarked_head q hq)
  have hmiddle : middle.toList.countP isRest = middle.toList.length :=
    List.countP_eq_length.mpr fun r hr => h.marked_middle r (Option.mem_toList.mp hr)
  have htail : tail.countP isRest = 0 :=
    List.countP_eq_zero.mpr fun q hq => Bool.eq_false_iff.mp (h.unmarked_tail q hq)
  rw [List.countP_append, List.countP_append, hhead, hmiddle, htail, Nat.zero_add, Nat.add_zero]

/-- Parts in order are what their items are split into. -/
theorem PartsInOrder.ofItems_eq_ok {head tail : List Pattern} {middle : Option Pattern}
    (h : PartsInOrder head middle tail) :
    ofItems (head ++ middle.toList ++ tail) = .ok (.seq head middle tail) := by
  have hunmarked : ∀ q ∈ head, !q.isRest := fun q hq => by rw [h.unmarked_head q hq]; rfl
  have hfew : ¬ 1 < (head ++ middle.toList ++ tail).countP isRest := by
    rw [h.countP_isRest]
    exact Nat.not_lt.mpr Option.length_toList_le
  unfold ofItems
  simp only [if_neg hfew]
  cases middle with
  | none =>
    obtain rfl := h.tail_eq_nil rfl
    -- no item has the flag, so the whole list is the head
    have hdrop : head.dropWhile (fun q => !q.isRest) = [] := List.dropWhile_eq_nil_iff.mpr hunmarked
    rw [Option.toList_none, List.append_nil, List.append_nil, hdrop]
    exact h.sequence_eq_ok
  | some r =>
    -- the walk to the first flag stops behind the head
    have hmarked : ¬ !r.isRest := by
      rw [h.marked_middle r rfl]
      exact Bool.false_ne_true
    have hdrop : (head ++ r :: tail).dropWhile (fun q => !q.isRest) = r :: tail := by
      rw [List.dropWhile_append_of_pos hunmarked]
      exact List.dropWhile_cons_of_neg hmarked
    have htake : (head ++ r :: tail).takeWhile (fun q => !q.isRest) = head := by
      have hnone : (r :: tail).takeWhile (fun q => !q.isRest) = [] :=
        List.takeWhile_cons_of_neg hmarked
      rw [List.takeWhile_append_of_pos hunmarked, hnone, List.append_nil]
    rw [Option.toList_some, List.append_assoc, List.singleton_append, hdrop, htake]
    exact h.sequence_eq_ok

/-- Items with at most one rest flag among them are parts in order, for some split. -/
theorem exists_partsInOrder {items : List Pattern} (h : items.countP isRest ≤ 1) :
    ∃ head middle tail, PartsInOrder head middle tail ∧ head ++ middle.toList ++ tail = items := by
  induction items with
  | nil => exact ⟨[], none, [], ⟨nofun, nofun, nofun, fun _ => rfl⟩, rfl⟩
  | cons q items ih =>
    by_cases hq : q.isRest
    · -- the flag of the first item is the only one
      rw [List.countP_cons_of_pos hq] at h
      have hnone : items.countP isRest = 0 := Nat.le_zero.mp (Nat.le_of_succ_le_succ h)
      have htail : ∀ q ∈ items, q.isRest = false := fun q hq =>
        Bool.eq_false_iff.mpr (List.countP_eq_zero.mp hnone q hq)
      refine ⟨[], some q, items, ⟨nofun, ?_, htail, nofun⟩, rfl⟩
      rintro r ⟨⟩
      exact hq
    · -- an item without the flag goes to the head of the split of the others
      rw [List.countP_cons_of_neg hq] at h
      obtain ⟨head, middle, tail, hparts, rfl⟩ := ih h
      refine ⟨q :: head, middle, tail, ?_, rfl⟩
      exact { hparts with
        unmarked_head := List.forall_mem_cons.mpr ⟨Bool.eq_false_iff.mpr hq, hparts.unmarked_head⟩ }

/-- **One rest at most makes a sequence pattern.** The items are in their order, and there is a rest
slot exactly if there is a rest. -/
theorem exists_ofItems_eq_ok {items : List Pattern} (h : items.countP isRest ≤ 1) :
    ∃ head middle tail, ofItems items = .ok (.seq head middle tail) ∧
      PartsInOrder head middle tail ∧ head ++ middle.toList ++ tail = items ∧
      (middle.isSome ↔ items.countP isRest = 1) := by
  obtain ⟨head, middle, tail, hparts, rfl⟩ := exists_partsInOrder h
  refine ⟨head, middle, tail, hparts.ofItems_eq_ok, hparts, rfl, ?_⟩
  rw [hparts.countP_isRest]
  cases middle with
  | none => exact ⟨nofun, nofun⟩
  | some r => exact ⟨fun _ => rfl, fun _ => rfl⟩

/-! ### Maps -/

/-- Entries with distinct keys make a map pattern as they are. -/
theorem mapping_eq_of_distinctKeys {entries : Assoc Value Pattern} (h : entries.DistinctKeys)
    (exact : Bool) :
    mapping entries.entries exact = .map entries exact (requiredCount entries.entries) := by
  rw [mapping, h.ofList_entries]

/-! ### Well-formedness -/

/-- Every node of the pattern is in order, at every depth. -/
inductive WellFormed : Pattern → Prop
  | literal (lit : Literal) : WellFormed (.literal lit)
  | any : WellFormed .any
  | named (key : Key) : WellFormed (.named key)
  | rest : WellFormed .rest
  | seq {head : List Pattern} {middle : Option Pattern} {tail : List Pattern} :
    PartsInOrder head middle tail → (∀ q ∈ head, WellFormed q) → (∀ q ∈ middle, WellFormed q) →
    (∀ q ∈ tail, WellFormed q) → WellFormed (.seq head middle tail)
  | map {entries : Assoc Value Pattern} {exact : Bool} {required : Nat} :
    entries.DistinctKeys → required = requiredCount entries.entries →
    (∀ e ∈ entries.entries, WellFormed e.2) → WellFormed (.map entries exact required)
  | opt {inner : Pattern} : WellFormed inner → WellFormed (.opt inner)
  | and {items : List Pattern} : (∀ q ∈ items, WellFormed q) → WellFormed (.and items)
  | or {items : List Pattern} : (∀ q ∈ items, WellFormed q) → WellFormed (.or items)
  | compiled {origin : Pattern} {slots : List (Slot Pattern)} {code : Option Code}
    {source : String} : WellFormed origin → (∀ q, .fallback q ∈ slots → WellFormed q) →
    origin.specialize = .ok (.compiled origin slots code source) →
    WellFormed (.compiled origin slots code source)

/-- A slot of several patterns is a slot of one of them. -/
theorem exists_of_mem_slotsAll {s : Slot Pattern} {ps : List Pattern} (h : s ∈ slotsAll ps) :
    ∃ p ∈ ps, s ∈ p.slots := by
  induction ps with
  | nil => cases h
  | cons p ps ih =>
    rw [slotsAll] at h
    rcases List.mem_append.mp h with h | h
    · exact ⟨p, List.mem_cons_self, h⟩
    · obtain ⟨q, hq, hs⟩ := ih h
      exact ⟨q, List.mem_cons_of_mem p hq, hs⟩

/-- Cutting a disjunction off only leaves slots out. -/
theorem slotsReached_sublist (ps : List Pattern) :
    (slotsReached ps).Sublist (slotsAll ps) := by
  induction ps with
  | nil => exact List.Sublist.refl _
  | cons p ps ih =>
    rw [slotsReached, slotsAll]
    split
    · exact List.nil_sublist _
    · exact ih.append_left p.slots

/-- The patterns that a lowering puts into slots are well formed. -/
theorem WellFormed.of_mem_slots {p q : Pattern} (hp : p.WellFormed) (hq : .fallback q ∈ p.slots) :
    q.WellFormed := by
  induction hp with
  | literal lit => cases List.mem_singleton.mp hq
  | any | named | rest | compiled => cases hq
  | seq _ _ _ _ ihHead ihMiddle ihTail =>
    -- the slots of a sequence are those of its parts, in any of the three places
    rw [slots_seq] at hq
    rcases List.mem_append.mp hq with hq | hq
    · rcases List.mem_append.mp hq with hq | hq
      · obtain ⟨r, hr, hq⟩ := exists_of_mem_slotsAll hq
        exact ihHead r hr hq
      · obtain ⟨r, hr, hq⟩ := exists_of_mem_slotsAll hq
        exact ihTail r hr hq
    · obtain ⟨r, hr, hq⟩ := exists_of_mem_slotsAll hq
      exact ihMiddle r (Option.mem_toList.mp hr) hq
  | map hkeys hrequired hentries =>
    -- a map pattern is a slot as it stands, and so is an optional one
    obtain rfl := Slot.fallback.inj (List.mem_singleton.mp hq)
    exact .map hkeys hrequired hentries
  | opt hinner =>
    obtain rfl := Slot.fallback.inj (List.mem_singleton.mp hq)
    exact .opt hinner
  -- the slots of a conjunction are those of its items
  | and _ ih =>
    obtain ⟨r, hr, hq⟩ := exists_of_mem_slotsAll hq
    exact ih r hr hq
  -- a disjunction may have fewer: the lowering stops at an item that always matches
  | @or items _ ih =>
    obtain ⟨r, hr, hq⟩ := exists_of_mem_slotsAll ((slotsReached_sublist items).subset hq)
    exact ih r hr hq

/-- What can be constructed is well formed. -/
theorem Constructible.wellFormed {p : Pattern} (hp : p.Constructible) : p.WellFormed := by
  induction hp with
  | literal lit => exact .literal lit
  | any => exact .any
  | named key => exact .named key
  | rest => exact .rest
  | sequence _ _ _ hseq ihHead ihMiddle ihTail =>
    obtain ⟨head', tail', rfl, hparts, hplaced⟩ := exists_of_sequence_eq_ok hseq
    -- a part may have moved from the tail to the head, so the two are treated as one list
    have hboth : ∀ q ∈ head' ++ tail', q.WellFormed := by
      rw [hparts]
      exact List.forall_mem_append.mpr ⟨ihHead, ihTail⟩
    obtain ⟨hhead, htail⟩ := List.forall_mem_append.mp hboth
    exact .seq hplaced hhead ihMiddle htail
  -- a map that is made anew has distinct keys, and its entries are counted
  | mapping exact _ ih => exact .map (Assoc.distinctKeys_ofList _) rfl (Assoc.forall_snd_ofList ih)
  | opt _ ih => exact .opt ih
  | and _ ih => exact .and ih
  | or _ ih => exact .or ih
  -- the slots of the program are those that the lowering fills
  | specialized _ hc ih =>
    obtain ⟨-, rfl⟩ := specialize_eq_ok_iff.mp hc
    exact .compiled ih (fun q hq => ih.of_mem_slots hq) hc

/-- What is well formed can be constructed. -/
theorem WellFormed.constructible {p : Pattern} (hp : p.WellFormed) : p.Constructible := by
  induction hp with
  | literal lit => exact .literal lit
  | any => exact .any
  | named key => exact .named key
  | rest => exact .rest
  | seq hplaced _ _ _ ihHead ihMiddle ihTail =>
    exact .sequence ihHead ihMiddle ihTail hplaced.sequence_eq_ok
  | map hkeys hrequired _ ih =>
    -- made again from its own entries, the map pattern is what it was
    subst hrequired
    rw [← mapping_eq_of_distinctKeys hkeys]
    exact .mapping _ ih
  | opt _ ih => exact .opt ih
  | and _ ih => exact .and ih
  | or _ ih => exact .or ih
  | compiled _ _ hc ih _ => exact .specialized ih hc

/-- **Well-formedness is all there is to know about the way in which a pattern was made.** -/
theorem constructible_iff_wellFormed {p : Pattern} : p.Constructible ↔ p.WellFormed :=
  ⟨Constructible.wellFormed, WellFormed.constructible⟩

end Pattern

/-! ### Patterns mixed into plain data -/

namespace Plain

mutual

/-- The patterns mixed into plain data, at any depth. -/
def patterns : Plain → List Pattern
  | .pattern p => [p]
  | .seq items => patternsOfAll items
  | .map entries => patternsOfEntries entries
  | .value _ => []
  | .literal _ => []
termination_by structural plain => plain

/-- The patterns mixed into several items. -/
def patternsOfAll : List Plain → List Pattern
  | [] => []
  | i :: is => patterns i ++ patternsOfAll is
termination_by structural is => is

/-- The patterns mixed into the entries of a plain map. -/
def patternsOfEntries : List (PlainKey × Plain) → List Pattern
  | [] => []
  | (_, i) :: others => patterns i ++ patternsOfEntries others
termination_by structural es => es

end

/-- The patterns mixed into items, item by item. -/
theorem patternsOfAll_eq_flatMap (is : List Plain) : patternsOfAll is = is.flatMap patterns := by
  induction is with
  | nil => rfl
  | cons i is ih => rw [patternsOfAll, ih, List.flatMap_cons]

/-- The patterns mixed into entries, entry by entry. -/
theorem patternsOfEntries_eq_flatMap (es : List (PlainKey × Plain)) :
    patternsOfEntries es = es.flatMap fun e => e.2.patterns := by
  induction es with
  | nil => rfl
  | cons e es ih => rw [patternsOfEntries, ih, List.flatMap_cons]

/-- Plain data is constructible if the patterns mixed into it are. -/
theorem constructible_of_patterns {plain : Plain} (h : ∀ q ∈ plain.patterns, q.Constructible) :
    plain.Constructible := by
  induction plain with
  | pattern p => exact .pattern (h p (List.mem_singleton_self p))
  -- what is mixed into an item is mixed into the sequence
  | seq items ih =>
    rw [patterns, patternsOfAll_eq_flatMap] at h
    exact .seq fun i hi => ih i hi fun q hq => h q (List.mem_flatMap.mpr ⟨i, hi, hq⟩)
  | map entries ih =>
    rw [patterns, patternsOfEntries_eq_flatMap] at h
    exact .map fun e he => ih e he fun q hq => h q (List.mem_flatMap.mpr ⟨e, he, hq⟩)
  | value v => exact .value v
  | literal lit => exact .literal lit

/-- What several items stand for is constructible, one by one. -/
theorem constructible_of_buildAll {items : List Plain}
    (h : ∀ i ∈ items, ∀ q ∈ i.patterns, q.Constructible) {ps : List Pattern}
    (hps : buildAll items = .ok ps) : ∀ p ∈ ps, p.Constructible := by
  rw [buildAll_eq_mapM] at hps
  exact forall_mem_of_mapM_eq_ok hps fun i hi _ hp => (constructible_of_patterns (h i hi)).build hp

end Plain

namespace Pattern

/-! ### The ways to come by a pattern -/

/-- The patterns that can be obtained. -/
inductive Obtainable : Pattern → Prop
  | literal (lit : Literal) : Obtainable (.literal lit)
  | any : Obtainable .any
  | named (key : Key) : Obtainable (.named key)
  | rest : Obtainable .rest
  | opt {inner : Pattern} : Obtainable inner → Obtainable (.opt inner)
  | and {items : List Pattern} : (∀ q ∈ items, Obtainable q) → Obtainable (.and items)
  | or {items : List Pattern} : (∀ q ∈ items, Obtainable q) → Obtainable (.or items)
  | meet {p q : Pattern} : Obtainable p → Obtainable q → Obtainable (p &&& q)
  | join {p q : Pattern} : Obtainable p → Obtainable q → Obtainable (p ||| q)
  | capturedAs {p : Pattern} (key : Key) : Obtainable p → Obtainable (p.capturedAs key)
  | sequence {head : List Pattern} {middle : Option Pattern} {tail : List Pattern} {p : Pattern} :
    (∀ q ∈ head, Obtainable q) → (∀ q ∈ middle, Obtainable q) → (∀ q ∈ tail, Obtainable q) →
    sequence head middle tail = .ok p → Obtainable p
  | mapping {entries : List (Value × Pattern)} (exact : Bool) :
    (∀ e ∈ entries, Obtainable e.2) → Obtainable (mapping entries exact)
  /-- Plain data with obtainable patterns mixed in is built. -/
  | build {plain : Plain} {p : Pattern} :
    (∀ q ∈ plain.patterns, Obtainable q) → plain.build = .ok p → Obtainable p
  | conjunction {items : List Plain} {p : Pattern} :
    (∀ i ∈ items, ∀ q ∈ i.patterns, Obtainable q) → Plain.conjunction items = .ok p → Obtainable p
  | disjunction {items : List Plain} {p : Pattern} :
    (∀ i ∈ items, ∀ q ∈ i.patterns, Obtainable q) → Plain.disjunction items = .ok p → Obtainable p
  | specialized {p c : Pattern} : Obtainable p → p.specialize = .ok c → Obtainable c
  /-- A pattern is taken out of the table of a program. -/
  | fallback {p origin q : Pattern} {slots : List (Slot Pattern)} {code : Option Code}
    {source : String} : Obtainable p → p.specialize = .ok (.compiled origin slots code source) →
    .fallback q ∈ slots → Obtainable q

/-- What can be constructed can be obtained, by the same operations. -/
theorem Constructible.obtainable {p : Pattern} (hp : p.Constructible) : p.Obtainable := by
  induction hp with
  | literal lit => exact .literal lit
  | any => exact .any
  | named key => exact .named key
  | rest => exact .rest
  | sequence _ _ _ hseq ihHead ihMiddle ihTail => exact .sequence ihHead ihMiddle ihTail hseq
  | mapping exact _ ih => exact .mapping exact ih
  | opt _ ih => exact .opt ih
  | and _ ih => exact .and ih
  | or _ ih => exact .or ih
  | specialized _ hc ih => exact .specialized ih hc

/-- What can be obtained can be constructed. -/
theorem Obtainable.constructible {p : Pattern} (hp : p.Obtainable) : p.Constructible := by
  induction hp with
  | literal lit => exact .literal lit
  | any => exact .any
  | named key => exact .named key
  | rest => exact .rest
  | opt _ ih => exact .opt ih
  | and _ ih => exact .and ih
  | or _ ih => exact .or ih
  -- the operators make conjunctions and disjunctions of two
  | meet _ _ ihp ihq =>
    exact .and (List.forall_mem_cons.mpr ⟨ihp, List.forall_mem_singleton.mpr ihq⟩)
  | join _ _ ihp ihq =>
    exact .or (List.forall_mem_cons.mpr ⟨ihp, List.forall_mem_singleton.mpr ihq⟩)
  | capturedAs key _ ih =>
    exact .and (List.forall_mem_cons.mpr ⟨ih, List.forall_mem_singleton.mpr (.named key)⟩)
  | sequence _ _ _ hseq ihHead ihMiddle ihTail => exact .sequence ihHead ihMiddle ihTail hseq
  | mapping exact _ ih => exact .mapping exact ih
  -- plain data is built to what was mixed into it, put together by the operations above
  | build _ hp ih => exact (Plain.constructible_of_patterns ih).build hp
  -- each item is built, and the results are the items of the pattern
  | conjunction _ hp ih =>
    obtain ⟨ps, hps, heq⟩ := exists_of_bind_eq_ok hp
    obtain rfl := Except.ok.inj heq
    exact .and (Plain.constructible_of_buildAll ih hps)
  | disjunction _ hp ih =>
    obtain ⟨ps, hps, heq⟩ := exists_of_bind_eq_ok hp
    obtain rfl := Except.ok.inj heq
    exact .or (Plain.constructible_of_buildAll ih hps)
  | specialized _ hc ih => exact .specialized ih hc
  | fallback _ hc hq ih =>
    -- the table of the program holds what the lowering of the pattern has put there
    obtain ⟨-, heq⟩ := specialize_eq_ok_iff.mp hc
    obtain ⟨rfl, rfl, -, -⟩ := Pattern.compiled.inj heq
    exact (ih.wellFormed.of_mem_slots hq).constructible

/-- **The patterns that can be obtained are the well-formed ones.** Whatever operations have led to
a pattern, at every depth of it the rest flag of a sequence marks the rest slot and nothing else,
there is no tail without a rest slot, the keys of a map are distinct and the number of its required
entries is right. Conversely every pattern that is so can be obtained. -/
theorem obtainable_iff_wellFormed (p : Pattern) : p.Obtainable ↔ p.WellFormed :=
  ⟨fun h => h.constructible.wellFormed, fun h => h.constructible.obtainable⟩

end Pattern

end StructMatch
