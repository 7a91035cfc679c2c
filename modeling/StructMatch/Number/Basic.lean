import StructMatch.Number.Binary64

/-!
# Numbers: integers and floating-point words on one line

Patterns compare an integer with a floating-point number by value. A `Number` is either of the two,
and `Number.extended?` is its exact place on the extended line. The only numbers without a place are
the words that are not a number, which compare with nothing.

Neither side is rounded to the form of the other. An integer goes through three questions with a
floating-point number (`Number.compareMixed?`): whether the number is beyond the range of integers
on either side, how its whole part compares, and, if that is the same, on which side the fraction
lies that was cut off. The order that comes out is the order of the places.
-/

namespace StructMatch

/-- A 64-bit signed integer or a 64-bit floating-point number. -/
inductive Number where
  | int (n : Int64)
  | float (x : Binary64)
deriving DecidableEq, Repr, Inhabited

namespace Number

/-- The exact place of a number on the extended line. -/
def extended? : Number → Option Extended
  | .int n => some (.ofInt n.toInt)
  | .float x => x.extended?

/-- Two to the power of sixty-three, the least number above all integers. -/
def aboveInt64 : Binary64 := ⟨0x43e0000000000000⟩

/-- Minus two to the power of sixty-three, the least integer. -/
def leastInt64 : Binary64 := ⟨0xc3e0000000000000⟩

/-- The order of an integer and a floating-point number; none when that is not a number. -/
def compareMixed? (n : Int64) (x : Binary64) : Option Ordering :=
  if x.isNaN then none
  else if aboveInt64.le x then some .lt
  else if x.lt leastInt64 then some .gt
  else
    let whole := x.trunc
    let fraction : Ordering := if whole.lt x then .lt else if x.lt whole then .gt else .eq
    some ((Ord.compare n whole.toInt64).then fraction)

/-- The exact order of two numbers; none when a side is not a number. -/
def compare? : Number → Number → Option Ordering
  | .int a, .int b => some (Ord.compare a b)
  | .float x, .float y => x.compare? y
  | .int n, .float x => compareMixed? n x
  | .float x, .int n => (compareMixed? n x).map .swap

/-- The same number, whichever of the two forms each side has. -/
def equal (a b : Number) : Bool :=
  a.compare? b == some .eq

end Number

end StructMatch
