import StructMatch.Matching.State

/-!
# Programs for matching

A specialized pattern is a small program over a table of slots. A slot is referred to by its
position and tested as a whole, so the code itself does not depend on what the slots hold:
`Code.run` takes the test of a slot as an argument.

Steps that would always succeed without an effect do not occur in the code of a program. A sequence
keeps the positions of the items that still have something to do; an alternative that always
succeeds is left out and remembered by `Code.tryThenTrue`.
-/

namespace StructMatch

/-- The code of a specialized pattern. -/
inductive Code where
  /-- The literal in a slot accepts the subject. -/
  | literal (slot : Nat)
  /-- The pattern in a slot matches the subject. -/
  | fallback (slot : Nat)
  /-- Bind the subject and succeed. -/
  | bind (key : Key)
  /-- A sequence with `headLength` items in front and `tailLength` items at the end, between which
  others may stand if it has a rest. Items without code are not listed. -/
  | seq (hasRest : Bool) (headLength tailLength : Nat) (head tail : List (Nat × Code))
    (middle : Option Code)
  /-- Every part succeeds, in order, up to the first failure. -/
  | all (parts : List Code)
  /-- Some part succeeds, in order, up to the first success. -/
  | any (parts : List Code)
  /-- Run like `any` and succeed whatever comes out. -/
  | tryThenTrue (parts : List Code)
  /-- Fail. -/
  | never

namespace Code

mutual

/-- Run code on a subject. -/
def run (test : Nat → Value → MatchM Bool) : Code → Value → MatchM Bool
  | .literal slot, v => test slot v
  | .fallback slot, v => test slot v
  | .bind key, v => do
    MatchM.bindCapture key v
    return true
  | .seq hasRest headLength tailLength head tail middle, v => do
    match v with
    | .seq items =>
      if sizeFits hasRest (headLength + tailLength) items.length then
        let tailStart ← MatchM.remaining items.length tailLength
        if ← runItems test head items 0 then
          if ← runItems test tail items tailStart then
            match middle with
            | none => return true
            | some c => run test c (.seq (← MatchM.slice items headLength tailStart))
          else return false
        else return false
      else return false
    | _ => return false
  | .all parts, v => runAll test parts v
  | .any parts, v => runAny test parts v
  | .tryThenTrue parts, v => do
    let _ ← runAny test parts v
    return true
  | .never, _ => return false
termination_by structural c => c

/-- Run code on items by position, counted from `offset`, up to the first failure. -/
def runItems (test : Nat → Value → MatchM Bool) :
    List (Nat × Code) → List Value → Nat → MatchM Bool
  | [], _, _ => return true
  | (position, c) :: rest, items, offset => do
    let v ← MatchM.item items (offset + position)
    if ← run test c v then runItems test rest items offset else return false
termination_by structural cs => cs

/-- Run parts on one subject up to the first failure. -/
def runAll (test : Nat → Value → MatchM Bool) : List Code → Value → MatchM Bool
  | [], _ => return true
  | c :: rest, v => do
    if ← run test c v then runAll test rest v else return false
termination_by structural cs => cs

/-- Run parts on one subject up to the first success. -/
def runAny (test : Nat → Value → MatchM Bool) : List Code → Value → MatchM Bool
  | [], _ => return false
  | c :: rest, v => do
    if ← run test c v then return true else runAny test rest v
termination_by structural cs => cs

end

end Code

end StructMatch
