import StructMatch.Proofs.Matching.Equations
import StructMatch.Proofs.Program.Layout

/-!
# Running the code of a pattern

The code that a lowering leaves runs like the pattern it comes from is executed
(`run_codeFrom`). Code sees the table only through the test of a slot, and it only tests the slots
that its own pattern has put there: the assumption on the test, `Serves`, speaks of these alone. So
the statement holds over every table that has them in place, whatever else it holds, and the parts
of a pattern can be treated one by one although they share one table.

The two sides are equal as computations. Nothing has to be known about the state, about faults or
about what the patterns in the slots do: where the lowering drops a part, the part is a
`return true` that the connectives absorb, and where it reorders nothing, nothing needs to be
reordered. The consequence for programs is `execute_specialize`.
-/

namespace StructMatch

/-- Run code if there is any, and succeed if there is none. -/
def Code.runOption (test : Nat → Value → MatchM Bool) : Option Code → Value → MatchM Bool
  | none, _ => pure true
  | some c, v => c.run test v

/-- From position `first` on, the test tests the given slots. -/
def Serves (test : Nat → Value → MatchM Bool) (first : Nat) (slots : List (Slot Pattern)) : Prop :=
  ∀ i slot, slots[i]? = some slot → test (first + i) = slot.execute

namespace Serves

variable {test : Nat → Value → MatchM Bool} {first : Nat} {slots slots' : List (Slot Pattern)}

/-- A test that serves joined slots serves the first ones. -/
theorem left (h : Serves test first (slots ++ slots')) : Serves test first slots := by
  intro i slot hi
  obtain ⟨hlt, -⟩ := List.getElem?_eq_some_iff.mp hi
  exact h i slot (by rw [List.getElem?_append_left hlt, hi])

/-- A test that serves joined slots serves the others, from where they begin. -/
theorem right (h : Serves test first (slots ++ slots')) :
    Serves test (first + slots.length) slots' := by
  intro i slot hi
  rw [Nat.add_assoc]
  refine h (slots.length + i) slot ?_
  rw [List.getElem?_append_right (Nat.le_add_right _ _), Nat.add_sub_cancel_left, hi]

/-- The one slot of a node is tested at its position. -/
theorem singleton {slot : Slot Pattern} (h : Serves test first [slot]) :
    test first = slot.execute :=
  h 0 slot rfl

end Serves

namespace Code

variable {test : Nat → Value → MatchM Bool}

/-! ### Equations of running -/

/-- Parts of a conjunction are run one after another. -/
theorem runAll_cons (c : Code) (cs : List Code) (v : Value) :
    runAll test (c :: cs) v = .both (c.run test v) (runAll test cs v) := rfl

/-- Parts of a disjunction are run one after another. -/
theorem runAny_cons (c : Code) (cs : List Code) (v : Value) :
    runAny test (c :: cs) v = .either (c.run test v) (runAny test cs v) := rfl

/-- Joined lists of items are run one after the other, with the positions of both counted from the
same offset. -/
theorem runItems_append (cs cs' : List (Nat × Code)) (items : List Value) (offset : Nat) :
    runItems test (cs ++ cs') items offset
      = .both (runItems test cs items offset) (runItems test cs' items offset) := by
  induction cs with
  | nil => exact (MatchM.both_true_left _).symm
  | cons c cs ih =>
    rw [List.cons_append, runItems, runItems, ih]
    unfold MatchM.both
    -- taking the item and testing it are the same on both sides; a failed test ends both
    rw [bind_assoc]
    congr 1
    funext v
    rw [bind_assoc]
    congr 1
    funext ok
    cases ok <;> simp

/-- Code for one item is run on the item at its position. -/
theorem runItems_singleton {position offset : Nat} {items : List Value} (c : Code)
    (h : offset + position < items.length) :
    runItems test [(position, c)] items offset = c.run test items[offset + position] := by
  rw [runItems, MatchM.item_of_lt h, pure_bind]
  exact MatchM.both_true_right _

/-- A conjunction that was simplified runs like the parts in a row. -/
theorem runOption_conjunction (cs : List Code) (v : Value) :
    runOption test (conjunction cs) v = runAll test cs v := by
  rcases cs with _ | ⟨c, _ | ⟨d, cs⟩⟩
  · rfl
  · exact (MatchM.both_true_right _).symm
  · rfl

/-- A disjunction that was simplified runs like the parts in a row. -/
theorem runOption_disjunction_false (cs : List Code) (v : Value) :
    runOption test (disjunction false cs) v = runAny test cs v := by
  rcases cs with _ | ⟨c, _ | ⟨d, cs⟩⟩
  · rfl
  · exact (MatchM.either_false_right _).symm
  · rfl

/-- A disjunction that ends in success runs its parts for their effects and succeeds. -/
theorem runOption_disjunction_true (cs : List Code) (v : Value) :
    runOption test (disjunction true cs) v = .either (runAny test cs v) (pure true) := by
  rw [MatchM.either_true_right]
  rcases cs with _ | ⟨c, _ | ⟨d, cs⟩⟩ <;> rfl

/-- A sequence: the positions of the code are in range once the length fits. -/
theorem run_seq {hasRest : Bool} {front back : Nat} {head tail : List (Nat × Code)}
    {middle : Option Code} {items : List Value}
    (hfit : sizeFits hasRest (front + back) items.length) :
    (Code.seq hasRest front back head tail middle).run test (.seq items)
      = .both (runItems test head items 0) (.both (runItems test tail items (items.length - back))
          (runOption test middle (.seq (middleItems front back items)))) := by
  -- the two subtractions and the slice are in range, by the length test
  have hle : front + back ≤ items.length := le_of_sizeFits hfit
  have hmiddle : MatchM.slice items front (items.length - back)
      = pure (middleItems front back items) :=
    MatchM.slice_of_le (by omega) (Nat.sub_le _ _)
  rw [run, if_pos hfit, MatchM.remaining_of_le (by omega)]
  simp only [pure_bind, hmiddle]
  cases middle <;> rfl

end Code

namespace Pattern

variable {test : Nat → Value → MatchM Bool}

/-- The code of the pattern runs like the pattern, over every test that serves its slots. -/
def RunsAsExecuted (test : Nat → Value → MatchM Bool) (p : Pattern) : Prop :=
  ∀ first, Serves test first p.slots →
    ∀ v, Code.runOption test (p.codeFrom first) v = p.execute v

/-! ### Lists of patterns -/

section Lists

variable {ps : List Pattern} (h : ∀ p ∈ ps, p.RunsAsExecuted test)
include h

/-- The parts of a conjunction run like its items. An item without code succeeds and has no part. -/
theorem runAll_codeOfAll {first : Nat} (hs : Serves test first (slotsAll ps)) (v : Value) :
    Code.runAll test (codeOfAll ps first) v = executeAll ps v := by
  induction ps generalizing first with
  | nil => rfl
  | cons p ps ih =>
    obtain ⟨hp, hps⟩ := List.forall_mem_cons.mp h
    rw [codeOfAll, executeAll_cons, ← hp first hs.left v, ← ih hps hs.right]
    -- without code the item is a success that the conjunction absorbs
    cases p.codeFrom first with
    | none => exact (MatchM.both_true_left _).symm
    | some c => exact Code.runAll_cons c _ v

/-- The items are those from `offset + position` on; each code finds its own by position. -/
theorem runItems_codeOfItems {first position offset : Nat} {items : List Value}
    (hs : Serves test first (slotsAll ps)) (hle : offset + position + ps.length ≤ items.length) :
    Code.runItems test (codeOfItems ps position first) items offset
      = executeEach ps (items.drop (offset + position)) := by
  induction ps generalizing first position with
  | nil => exact (executeEach_nil _).symm
  | cons p ps ih =>
    rw [List.length_cons] at hle
    have hlt : offset + position < items.length := by omega
    obtain ⟨hp, hps⟩ := List.forall_mem_cons.mp h
    have hfirst := hp first hs.left items[offset + position]
    have hothers := @ih hps _ (position + 1) hs.right (by omega)
    rw [codeOfItems, Code.runItems_append, hothers, List.drop_eq_getElem_cons hlt,
      executeEach_cons, ← hfirst, ← Nat.add_assoc]
    congr 1
    -- an item without code is not looked at, and its pattern would accept it
    cases p.codeFrom first with
    | none => rfl
    | some c => exact Code.runItems_singleton c hlt

/-- Up to the first item without code, which always succeeds and ends the disjunction. -/
theorem runOption_disjunction (hmet : ∀ p ∈ ps, p.meetsProgram = false) {first : Nat}
    (hs : Serves test first (slotsReached ps)) (v : Value) :
    Code.runOption test (Code.disjunction (ps.any alwaysMatches) (codeOfReached ps first)) v
      = executeAny ps v := by
  induction ps generalizing first with
  | nil => rfl
  | cons p ps ih =>
    obtain ⟨hp, hps⟩ := List.forall_mem_cons.mp h
    obtain ⟨hmetFirst, hmetOthers⟩ := List.forall_mem_cons.mp hmet
    have hcode := codeFrom_eq_none_iff hmetFirst first
    rw [executeAny_cons, List.any_cons]
    cases hc : p.codeFrom first with
    | none =>
      -- here the disjunction ends: the item has no code because it succeeds, and what comes after
      -- it is never reached
      have halways : p.alwaysMatches := hcode.mp hc
      have hslots : Serves test first p.slots := by
        rw [slots_eq_nil_of_alwaysMatches halways]
        exact fun i slot hi => absurd hi (by simp)
      rw [codeOfReached_eq_nil_iff.mpr hc, halways, ← hp first hslots v, hc]
      exact (MatchM.either_true_left _).symm
    | some c =>
      have hnot : p.alwaysMatches = false := by simpa [hc] using hcode
      rw [slotsReached, hnot, if_neg Bool.false_ne_true] at hs
      rw [codeOfReached, hc, hnot, Bool.false_or, ← hp first hs.left v,
        ← ih hps hmetOthers hs.right, hc]
      -- whether a later item always matches only decides what is run behind all of the code
      cases ps.any alwaysMatches with
      | false =>
        rw [Code.runOption_disjunction_false, Code.runOption_disjunction_false]
        exact Code.runAny_cons _ _ _
      | true =>
        rw [Code.runOption_disjunction_true, Code.runOption_disjunction_true, ← MatchM.either_assoc]
        exact congrArg (MatchM.either · _) (Code.runAny_cons _ _ _)

end Lists

/-! ### Patterns -/

/-- **Code runs like its pattern.** -/
theorem run_codeFrom {p : Pattern} (hmet : p.meetsProgram = false) : p.RunsAsExecuted test := by
  induction p with
  | any | rest => exact fun _ _ _ => rfl
  | named key => exact fun _ _ _ => rfl
  -- one slot, which is tested where the code says
  | literal lit => exact fun first hs v => congrFun hs.singleton v
  | map entries exact required => exact fun first hs v => congrFun hs.singleton v
  | opt inner => exact fun first hs v => congrFun hs.singleton v
  | compiled => exact absurd hmet.symm Bool.false_ne_true
  | and items ih =>
    intro first hs v
    have hitems := anyMeetsProgram_eq_false_iff.mp hmet
    rw [codeFrom, Code.runOption_conjunction]
    exact runAll_codeOfAll (fun p hp => ih p hp (hitems p hp)) hs v
  | or items ih =>
    intro first hs v
    have hitems := anyMeetsProgram_eq_false_iff.mp hmet
    rw [codeFrom]
    exact runOption_disjunction (fun p hp => ih p hp (hitems p hp)) hitems hs v
  | seq head middle tail ihHead ihMiddle ihTail =>
    intro first hs v
    rw [meetsProgram_seq, Bool.or_eq_false_iff, Bool.or_eq_false_iff] at hmet
    obtain ⟨hhead, htail, hmiddle⟩ := hmet
    rw [anyMeetsProgram_eq_false_iff] at hhead htail hmiddle
    rw [slots_seq] at hs
    rw [codeFrom_seq]
    -- the table holds the slots of the head, of the tail and of the rest slot, in this order
    cases v with
    | seq items =>
      by_cases hfit : sizeFits middle.isSome (leastLength head tail) items.length
      · -- both sides connect three parts, which are compared one by one
        have hle : head.length + tail.length ≤ items.length := le_of_sizeFits hfit
        rw [execute_seq hfit]
        refine (Code.run_seq hfit).trans ?_
        congr 1
        · exact runItems_codeOfItems (fun p hp => ihHead p hp (hhead p hp)) hs.left.left
            (by omega)
        · congr 1
          · exact runItems_codeOfItems (fun p hp => ihTail p hp (htail p hp)) hs.left.right
              (by omega)
          · cases middle with
            | none => rfl
            | some r =>
              have hright := hs.right
              rw [List.length_append, ← Nat.add_assoc, Option.toList_some, slotsAll] at hright
              exact ihMiddle r rfl (hmiddle r (List.mem_singleton_self r)) _ hright.left _
      · -- both sides make the same length test and fail
        rw [execute_seq_of_not_fits hfit, Code.runOption, Code.run]
        exact if_neg hfit
    | _ => rfl

/-- The table of a program serves its slots from the start. -/
theorem serves_executeSlot (slots : List (Slot Pattern)) :
    Serves (fun i w => executeSlot slots slots.length i i w) 0 slots := by
  intro i slot hi
  funext v
  -- the window of a program is its whole table
  rw [Nat.zero_add]
  exact executeSlot_of_getElem? hi slots.length i v

/-- **A program is executed like the pattern it comes from**, as a computation: with the same
verdict, effects and faults from every state. -/
theorem execute_specialize {p c : Pattern} (hc : p.specialize = .ok c) (v : Value) :
    c.execute v = p.execute v := by
  obtain ⟨hmet, rfl⟩ := specialize_eq_ok_iff.mp hc
  rw [← run_codeFrom hmet 0 (serves_executeSlot p.slots) v]
  cases hcode : p.codeFrom 0 <;> rfl

end Pattern

end StructMatch
