/-!
# Sets of characters as ascending ranges

A property of characters is a table: a list of ranges, ascending and apart from each other.
`CharRange.anyHolds` looks a code point up and stops at the first range that begins beyond it, so a
letter of the basic alphabet is answered from the front of the table.
-/

namespace StructMatch

/-- The characters from code point `first` to code point `last`, both included. -/
structure CharRange where
  first : Nat
  last : Nat
deriving DecidableEq, Repr

namespace CharRange

/-- The code point lies in one of the ranges of an ascending table. -/
def anyHolds (n : Nat) : List CharRange → Bool
  | [] => false
  | r :: rest => r.first ≤ n && (n ≤ r.last || anyHolds n rest)

end CharRange

end StructMatch
