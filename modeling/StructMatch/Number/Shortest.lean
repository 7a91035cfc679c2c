/-!
# The shortest decimal that reads back

A positive quantity `significand * 2 ^ exponent` units stands for every real number that rounds to
it: an interval reaching half way to its neighbours, the two ends included exactly when the
significand is even. Of the decimals inside that interval, the one to write has the fewest digits,
and of those it is the nearest to the quantity; when two are equally near, the larger is taken.

The search is exact. For a digit count `n` the quantity lies between two neighbouring points of the
decimal grid with `n` digits; the first grid on which one of these two lies inside the interval
gives the answer. Seventeen digits always suffice.
-/

namespace StructMatch

/-- A decimal `digits * 10 ^ exponent`. -/
structure Decimal where
  digits : Nat
  exponent : Int
deriving DecidableEq, Repr, Inhabited

namespace Shortest

/-- The interval of reals that round to one quantity, in units of `1 / scale`. -/
structure Interval where
  lower : Nat
  value : Nat
  upper : Nat
  closed : Bool
  scale : Nat

/-- The rounding interval of `significand * 2 ^ exponent` units of `2 ^ -1074`, measured in quarters
of a unit. Below a power of two the neighbour is twice as near as above it. -/
def interval (significand exponent : Nat) : Interval where
  lower :=
    let below := if significand = Nat.pow 2 52 ∧ 0 < exponent then 1 else 2
    (4 * significand - below) * Nat.pow 2 exponent
  value := 4 * significand * Nat.pow 2 exponent
  upper := (4 * significand + 2) * Nat.pow 2 exponent
  closed := significand % 2 = 0
  scale := Nat.pow 2 1076

/-- The power of ten of the leading digit of the quantity. -/
def Interval.leadingExponent (i : Interval) : Int :=
  let scaled := i.value * Nat.pow 10 340 / i.scale
  (Nat.toDigits 10 scaled).length - 341

/-- A point of a decimal grid against the interval: the grid has spacing `10 ^ exponent`, and both
sides are multiplied out to integers. -/
structure Grid where
  /-- The factor that brings the ends of the interval to the common denominator. -/
  stretch : Nat
  /-- The length of one grid step over the common denominator. -/
  step : Nat

/-- The grid of spacing `10 ^ exponent` over an interval. -/
def Interval.grid (i : Interval) (exponent : Int) : Grid where
  stretch := Nat.pow 10 (-exponent).toNat
  step := i.scale * Nat.pow 10 exponent.toNat

/-- The point `digits` of the grid rounds to the quantity. -/
def Interval.holds (i : Interval) (g : Grid) (digits : Nat) : Bool :=
  let point := digits * g.step
  let low := i.lower * g.stretch
  let high := i.upper * g.stretch
  if i.closed then low ≤ point && point ≤ high else low < point && point < high

/-- The nearer of the two neighbours of the quantity on the grid with `count` digits, if one of them
rounds to the quantity. -/
def Interval.candidate? (i : Interval) (leading : Int) (count : Nat) : Option Decimal :=
  let exponent := leading - count + 1
  let g := i.grid exponent
  let target := i.value * g.stretch
  let below := target / g.step
  let remainder := target % g.step
  let nearer := if 2 * remainder < g.step then below else below + 1
  let farther := if 2 * remainder < g.step then below + 1 else below
  if i.holds g nearer then some ⟨nearer, exponent⟩
  else if i.holds g farther then some ⟨farther, exponent⟩
  else none

/-- The shortest decimal in the interval. -/
def Interval.decimal (i : Interval) : Decimal :=
  let leading := i.leadingExponent
  match (List.range' 1 17).findSome? (i.candidate? leading) with
  | some d => d
  | none => ⟨0, 0⟩

end Shortest

/-- The shortest decimal that reads back as `significand * 2 ^ exponent` units. -/
def Decimal.shortest (significand exponent : Nat) : Decimal :=
  (Shortest.interval significand exponent).decimal

end StructMatch
