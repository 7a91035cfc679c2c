/-!
# Binary floating-point words, read exactly

A floating-point number is kept as its 64-bit word, so that a value written in an input is the value
written in an output, bit for bit. What the word *denotes* is an exact quantity:

* `Binary64.decode` splits a word into sign, significand and exponent, or recognises an infinity or
  a word that is not a number;
* a finite word denotes a dyadic rational, an integral multiple of the **unit** `2 ^ -1074`, which
  is the smallest positive quantity the format can hold (`Binary64.Decoded.extended?`);
* `Binary64.extended?` places the word on the extended line `Extended`, between the two infinities.
  A word that is not a number has no place there.

Two words are compared by their places on that line, so no comparison rounds. Two operations drop
what is behind the point of a number and so round toward zero: `Binary64.trunc` stays among the
words and clears the bits that stand for the fraction, and `Binary64.toInt64` goes over to the
64-bit integers.
-/

namespace StructMatch

/-- A point of the extended line: a dyadic rational, or one of the two infinities. -/
inductive Extended where
  | negInfinite
  | finite (q : Dyadic)
  | posInfinite
deriving DecidableEq, Inhabited

namespace Extended

/-- The order of the extended line. -/
def compare : Extended → Extended → Ordering
  | .negInfinite, .negInfinite => .eq
  | .negInfinite, _ => .lt
  | _, .negInfinite => .gt
  | .posInfinite, .posInfinite => .eq
  | .posInfinite, _ => .gt
  | _, .posInfinite => .lt
  | .finite a, .finite b => compareOfLessAndEq a b

/-- The point an integer stands at. -/
def ofInt (n : Int) : Extended :=
  .finite n

end Extended

/-- A 64-bit floating-point number, given by its word. Two words are equal only bit for bit; the
numeric comparison is `Binary64.compare?`. -/
structure Binary64 where
  bits : UInt64
deriving DecidableEq, Repr, Inhabited

namespace Binary64

/-- The unit is two to the power of minus this number. -/
def unitPrecision : Nat := 1074

/-- The parts of a word. A finite word denotes `± significand * 2 ^ exponent` units. -/
inductive Decoded where
  | nan
  | infinite (negative : Bool)
  | finite (negative : Bool) (significand exponent : Nat)
deriving DecidableEq, Repr, Inhabited

/-- The top bit of the word. -/
def isNegative (x : Binary64) : Bool :=
  decide (Nat.pow 2 63 ≤ x.bits.toNat)

/-- The eleven exponent bits. -/
def exponentField (x : Binary64) : Nat :=
  x.bits.toNat / Nat.pow 2 52 % Nat.pow 2 11

/-- The fifty-two low bits. -/
def fractionField (x : Binary64) : Nat :=
  x.bits.toNat % Nat.pow 2 52

/-- Read a word. An exponent field of all ones holds the infinities and the words that are no
number, a field of zero holds zeros and the subnormal numbers, and every other field has a hidden
leading bit. -/
def decode (x : Binary64) : Decoded :=
  if x.exponentField = 2047 then
    if x.fractionField = 0 then .infinite x.isNegative else .nan
  else if x.exponentField = 0 then
    .finite x.isNegative x.fractionField 0
  else
    .finite x.isNegative (Nat.pow 2 52 + x.fractionField) (x.exponentField - 1)

/-- A word that is not a number. -/
def isNaN (x : Binary64) : Bool :=
  match x.decode with
  | .nan => true
  | _ => false

/-- The exact place of decoded parts on the extended line. -/
def Decoded.extended? : Decoded → Option Extended
  | .nan => none
  | .infinite negative => some (if negative then .negInfinite else .posInfinite)
  | .finite negative significand exponent =>
    let signed : Int := if negative then -significand else significand
    some (.finite (.ofIntWithPrec signed (unitPrecision - exponent)))

/-- The exact place of a word on the extended line; none for a word that is not a number. -/
def extended? (x : Binary64) : Option Extended :=
  x.decode.extended?

/-- The numeric order of two words; none when a side is not a number. -/
def compare? (x y : Binary64) : Option Ordering :=
  match x.extended?, y.extended? with
  | some a, some b => some (a.compare b)
  | _, _ => none

/-- Numeric equality: the two zeros are equal, and a word that is not a number equals nothing. -/
def equal (x y : Binary64) : Bool :=
  x.compare? y == some .eq

/-- The first number is the smaller one. -/
def lt (x y : Binary64) : Bool :=
  x.compare? y == some .lt

/-- The first number is the smaller one, or the two are equal. -/
def le (x y : Binary64) : Bool :=
  match x.compare? y with
  | some .lt | some .eq => true
  | _ => false

/-! ### Whole numbers -/

/-- How many of the low bits of a word stand for what is behind the point: all but the sign in a
number below one, and none from `2 ^ 52` on. -/
def fractionalBits (x : Binary64) : Nat :=
  if x.exponentField < 1023 then 63 else 1075 - x.exponentField

/-- The number without what is behind the point. The sign stays, on a zero as well, and so do the
infinities and the words that are not a number. -/
def trunc (x : Binary64) : Binary64 :=
  ⟨.ofNat (x.bits.toNat - x.bits.toNat % Nat.pow 2 x.fractionalBits)⟩

/-- The 64-bit integer next to a number on the side of zero. A number beyond the range of integers
gives the last one on its side, and a word that is not a number gives zero. -/
def toInt64 (x : Binary64) : Int64 :=
  match x.decode with
  | .nan => 0
  | .infinite negative => if negative then Int64.minValue else Int64.maxValue
  | .finite negative significand exponent =>
    let whole : Nat := significand * Nat.pow 2 exponent / Nat.pow 2 unitPrecision
    Int64.ofIntClamp (if negative then -whole else whole)

/-- The word written for every value that is not a number. -/
def canonicalNaN : Binary64 := ⟨0x7ff8000000000000⟩

end Binary64

end StructMatch
