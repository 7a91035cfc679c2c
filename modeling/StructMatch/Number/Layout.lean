import StructMatch.Number.Binary64
import StructMatch.Number.Shortest

/-!
# How a floating-point number is written

A floating-point number is written with the fewest digits that read back as the same word. Where the
decimal point goes depends on the size of the number only: from one ten-thousandth up to, and not
including, ten to the sixteenth the digits are written out in full and always with a fractional part
(`1.0`, `0.0001`, `123456.5`); every other size is written in scientific form, with no sign on a
positive exponent and no fractional part after a single digit (`1e16`, `1.5e-7`). Zero keeps its
sign.
-/

namespace StructMatch

namespace Decimal

/-- The decimal digits, most significant first. -/
def digitChars (d : Decimal) : List Char :=
  Nat.toDigits 10 d.digits

/-- The power of ten of the leading digit. -/
def leadingExponent (d : Decimal) : Int :=
  d.exponent + d.digitChars.length - 1

/-- The digits with trailing zeros removed; at least one digit stays. -/
def significantDigits (d : Decimal) : List Char :=
  match (d.digitChars.reverse.dropWhile (· == '0')).reverse with
  | [] => ['0']
  | ds => ds

/-- Digits written out in full, with at least one digit on each side of the point. -/
def positional (digits : List Char) (leading : Int) : String :=
  if leading < 0 then
    String.ofList ("0.".toList ++ List.replicate (-leading - 1).toNat '0' ++ digits)
  else
    let whole := leading.toNat + 1
    let padded := digits ++ List.replicate (whole - digits.length) '0'
    let fraction := padded.drop whole
    String.ofList (padded.take whole ++ '.' :: (if fraction.isEmpty then ['0'] else fraction))

/-- Digits written with a power of ten. -/
def scientific (digits : List Char) (leading : Int) : String :=
  let fraction := digits.drop 1
  String.ofList (digits.take 1 ++ (if fraction.isEmpty then [] else '.' :: fraction) ++ ['e'])
    ++ toString leading

end Decimal

namespace Binary64

/-- Which leading powers of ten are written out in full. -/
structure Layout where
  firstPositional : Int
  firstScientific : Int

/-- Numbers from `10 ^ -4` up to `10 ^ 16` are written out in full. -/
def layout : Layout := ⟨-4, 16⟩

/-- The text of a positive decimal. -/
def Layout.decimal (l : Layout) (d : Decimal) : String :=
  let leading := d.leadingExponent
  if l.firstPositional ≤ leading && leading < l.firstScientific then
    Decimal.positional d.significantDigits leading
  else
    Decimal.scientific d.significantDigits leading

/-- The text of a magnitude of `significand * 2 ^ exponent` units. -/
def Layout.magnitude (l : Layout) (significand exponent : Nat) : String :=
  if significand = 0 then "0.0" else l.decimal (.shortest significand exponent)

/-- The text of a floating-point number. -/
def render (x : Binary64) : String :=
  match x.decode with
  | .nan => "NaN"
  | .infinite negative => if negative then "-inf" else "inf"
  | .finite negative significand exponent =>
    (if negative then "-" else "") ++ layout.magnitude significand exponent

instance : ToString Binary64 := ⟨render⟩

end Binary64

end StructMatch
