import StructMatch.Proofs.Matching.Runs
import StructMatch.Proofs.Pattern.WellFormed
import StructMatch.Proofs.Program.Wiring

/-!
# Positions in range

A program takes slots from its table, and items and slices from the sequences it is run on, by
position. `Code.InRange` says that all these positions exist: the slots in a table of a given size,
and the items and slices in every sequence whose length has passed the test.

Code that is made for a table is in range of it (`Wired.inRange`): its slots are in the table, as
they hold what the code takes them for, and the items that it tests are among those that a sequence
of fitting length has.

What is in range statically is in range when it is run, and this holds for the patterns in the slots
too: no execution of a pattern that can be obtained runs into a fault
(`executions_never_fault`).
-/

namespace StructMatch

namespace Code

/-- The accesses to a sequence of `length` items are in range: the last `back` items are there, the
first `front` items end before them, and so are the items that are tested, counted from the start
for the head and from the first of the last items for the tail. -/
structure AccessInRange (front back : Nat) (head tail : List (Nat × Code)) (length : Nat) :
    Prop where
  back_le : back ≤ length
  front_le : front ≤ length - back
  head_lt : ∀ e ∈ head, e.1 < length
  tail_lt : ∀ e ∈ tail, length - back + e.1 < length

/-- Positions below the numbers of items that the pattern names are in range once the length has
been tested. -/
theorem accessInRange_of_sizeFits {hasRest : Bool} {front back length : Nat}
    {head tail : List (Nat × Code)} (hfit : sizeFits hasRest (front + back) length)
    (hhead : ∀ e ∈ head, e.1 < front) (htail : ∀ e ∈ tail, e.1 < back) :
    AccessInRange front back head tail length := by
  have hle : front + back ≤ length := le_of_sizeFits hfit
  -- all five bounds are arithmetic once the length is known to reach the number of named items
  refine ⟨by omega, by omega, fun e he => ?_, fun e he => ?_⟩
  · have hfront := hhead e he
    omega
  · have hback := htail e he
    omega

/-- The code reads only slots of a table of the given size, and takes from a sequence of fitting
length only what is there. -/
inductive InRange (size : Nat) : Code → Prop
  | literal {slot : Nat} : slot < size → InRange size (.literal slot)
  | fallback {slot : Nat} : slot < size → InRange size (.fallback slot)
  | bind (key : Key) : InRange size (.bind key)
  | seq {hasRest : Bool} {front back : Nat} {head tail : List (Nat × Code)} {middle : Option Code} :
    (∀ length, sizeFits hasRest (front + back) length →
      AccessInRange front back head tail length) →
    (∀ e ∈ head, InRange size e.2) → (∀ e ∈ tail, InRange size e.2) →
    (∀ c ∈ middle, InRange size c) → InRange size (.seq hasRest front back head tail middle)
  | all {parts : List Code} : (∀ c ∈ parts, InRange size c) → InRange size (.all parts)
  | any {parts : List Code} : (∀ c ∈ parts, InRange size c) → InRange size (.any parts)
  | tryThenTrue {parts : List Code} :
    (∀ c ∈ parts, InRange size c) → InRange size (.tryThenTrue parts)
  | never : InRange size .never

/-- Code that is made for a table is in range of it. -/
theorem Wired.inRange {table : List (Slot Pattern)} {c : Code} (h : c.Wired table) :
    c.InRange table.length := by
  induction h with
  | literal hslot => exact .literal (List.getElem?_eq_some_iff.mp hslot).1
  | fallback hslot => exact .fallback (List.getElem?_eq_some_iff.mp hslot).1
  | bind key => exact .bind key
  | seq hfront hback _ _ _ ihHead ihTail ihMiddle =>
    exact .seq (fun length hfit => accessInRange_of_sizeFits hfit hfront hback) ihHead ihTail
      ihMiddle
  | all _ ih => exact .all ih
  | any _ ih => exact .any ih
  | tryThenTrue _ ih => exact .tryThenTrue ih
  | never => exact .never

end Code

namespace Pattern

/-- The code of a program that was made by specializing is in range of the table it comes with. -/
theorem inRange_of_specialize {p origin : Pattern} {slots : List (Slot Pattern)}
    {code : Option Code} {source : String}
    (h : p.specialize = .ok (.compiled origin slots code source)) :
    ∀ c ∈ code, c.InRange slots.length :=
  fun c hc => (wired_of_specialize h c hc).inRange

/-! ### The result -/

/-- **No execution runs into a fault.** Whatever operations have led to a pattern, a program or not,
executing it on any subject over any captures ends with a verdict: no length is subtracted that is
not there, and every item, slice and slot that is taken exists, in the pattern itself and in the
programs and slots inside it. If the pattern is a program, then all slots that its code refers to
are in its table, whether they are ever read or not, and so are the items and slices that its code
takes from sequences of any length that fits. -/
theorem executions_never_fault {p : Pattern} (hp : p.Obtainable) :
    (∀ v captures, ∃ ok s, p.run v captures = .ok (ok, s)) ∧
    (∀ origin slots code source, p = .compiled origin slots (some code) source →
      code.InRange slots.length) := by
  refine ⟨?_, ?_⟩
  · intro v captures
    -- a constructible pattern has an outcome, and so its run returns a verdict
    have hrun := hp.constructible.run_eq_outcome v captures
    exact ⟨_, _, hrun⟩
  · rintro origin slots code source rfl
    -- a program that can be obtained is the program of a pattern
    cases hp.constructible.wellFormed with
    | compiled _ _ hmade => exact inRange_of_specialize hmade code rfl

/-- The theorem at the program of a pattern with a head, a rest slot and a tail. -/
theorem executions_never_fault_of_program :
    ∃ c, (twoTries ⟨"any", fun _ => true⟩).specialize = .ok c ∧ c.Obtainable ∧
    (∀ v captures, ∃ ok s, c.run v captures = .ok (ok, s)) ∧
    (∀ origin slots code source, c = .compiled origin slots (some code) source →
      code.InRange slots.length) := by
  have hp : (twoTries ⟨"any", fun _ => true⟩).Obtainable := (constructible_twoTries _).obtainable
  exact ⟨_, rfl, .specialized hp rfl, executions_never_fault (.specialized hp rfl)⟩

end Pattern

end StructMatch
