/-!
# How deep an expression nests

The height of a character, a class escape, an anchor or a setting of flags is zero. A group, a
repetition, a bracket and an operation between classes stand one level above what they hold. So do
parts that follow one another and alternatives, unless there is only one of them. An expression may
be no higher than `Nesting.greatestHeight`.
-/

namespace StructMatch.Nesting

/-- The greatest height of an expression. -/
def greatestHeight : Nat := 250

/-- The height of parts side by side: one level above the highest of them, but a part that is alone
is its own height. -/
def sideBySide : List Nat → Nat
  | [] => 0
  | [h] => h
  | h :: hs => hs.foldl max h + 1

end StructMatch.Nesting
