import StructMatch.Regex.Nesting
import StructMatch.Text.Blank
import StructMatch.Text.CharSet
import StructMatch.Text.WordChar

/-!
# Classes of characters as they are written

A class escape or a bracket is kept as it is written until the modes in force are known.
`CharClass.toSet?` then gives its set of characters. Ignoring case changes the ranges and the
properties only, wherever they stand, and leaves complements outside, so that a negated class leaves
out every variant of a letter it names. The classes of digits, blanks and word characters are closed
under variants as they are.

Where expressions are read for the basic alphabet alone, a class may not hold any other character.
So properties have no set then, and neither has a complement.
-/

namespace StructMatch

/-- The operations between two sets inside brackets. -/
inductive SetOperation where
  | inter
  | diff
  | symmDiff
deriving DecidableEq, Repr

/-- The set that an operation makes of two. -/
def SetOperation.apply : SetOperation → CharSet → CharSet → CharSet
  | .inter => .inter
  | .diff => .diff
  | .symmDiff => .symmDiff

/-- A class of characters as it is written. -/
inductive CharClass where
  | range (first last : Char)
  | named (negated : Bool) (ranges : List (Char × Char))
  | digit (negated : Bool)
  | blank (negated : Bool)
  | word (negated : Bool)
  | property (negated : Bool) (s : CharSet)
  | union (parts : List CharClass)
  | operation (op : SetOperation) (left right : CharClass)
  | bracket (negated : Bool) (inner : CharClass)
deriving Inhabited

/-- How classes are read: with or without regard to case, for all scripts or for the basic alphabet
alone. -/
structure Reading where
  ignoreCase : Bool
  unicode : Bool
deriving DecidableEq, Repr

namespace Reading

/-- The given characters as they are read, with their variants where case is ignored. -/
def close? (m : Reading) (s : CharSet) : Option CharSet :=
  if m.unicode then some (if m.ignoreCase then s.ignoreCase else s)
  else if s.isBasic then some (if m.ignoreCase then s.ignoreBasicCase else s)
  else none

/-- The characters of a table that may be named. -/
def among (m : Reading) (ranges : List CharRange) : CharSet :=
  if m.unicode then ⟨ranges⟩ else CharSet.basic.inter ⟨ranges⟩

/-- The complement if `negated`, otherwise the set itself. -/
def complementIf? (m : Reading) (negated : Bool) (s : CharSet) : Option CharSet :=
  if negated && !m.unicode then none else some (s.complementIf negated)

end Reading

namespace CharClass

/-- A single character. -/
def single (c : Char) : CharClass := .range c c

mutual

/-- The set of characters of a class, if it has one. -/
def toSet? (m : Reading) : CharClass → Option CharSet
  | .range first last => m.close? (.range first last)
  | .named negated ranges => do
    let s ← m.close? (.unions (ranges.map fun r => .range r.1 r.2))
    m.complementIf? negated s
  | .digit negated => m.complementIf? negated (m.among Text.digitRanges)
  | .blank negated => m.complementIf? negated (m.among Text.blankRanges)
  | .word negated => m.complementIf? negated (m.among Text.wordRanges)
  | .property negated s =>
    if m.unicode then (m.close? s).map (·.complementIf negated) else none
  | .union parts => unionToSet? m parts
  | .operation op left right => do return op.apply (← left.toSet? m) (← right.toSet? m)
  | .bracket negated inner => do m.complementIf? negated (← inner.toSet? m)
termination_by structural c => c

/-- The set of characters of several classes together. -/
def unionToSet? (m : Reading) : List CharClass → Option CharSet
  | [] => some .empty
  | c :: rest => do return (← c.toSet? m).union (← unionToSet? m rest)
termination_by structural cs => cs

end

mutual

/-- How deep a class nests. -/
def height : CharClass → Nat
  | .union parts => Nesting.sideBySide (heights parts)
  | .operation _ left right => max left.height right.height + 1
  | .bracket _ inner => inner.height + 1
  | _ => 0
termination_by structural c => c

/-- How deep each of several classes nests. -/
def heights : List CharClass → List Nat
  | [] => []
  | c :: rest => c.height :: heights rest
termination_by structural cs => cs

end

end CharClass

end StructMatch
