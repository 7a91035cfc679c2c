import Mathlib.Algebra.Field.Rat
import Mathlib.Algebra.Order.Ring.Rat
import Mathlib.Order.Compare
import Mathlib.Tactic.Linarith
import StructMatch.Proofs.Number.Truncation

/-!
# Comparing numbers is comparing places

Two integers and two floating-point words have an order of their own, and it is plain that this is
the order of their places on the extended line. An integer and a word are compared by questions
about the word, its whole part and its fraction (`Number.compareMixed?`), and here the answers have
to be put together:

* a number outside the range of integers is on one side of all of them; at the ends, `2 ^ 63` is
  outside and `-2 ^ 63` is not (`compareMixed?_of_denotes`);
* in the range, the whole part is an integer, and no other integer is nearer to the number than one
  (`Binary64.exists_whole`);
* so an integer that is not the whole part is on the same side of the number as it is of the whole
  part, and the whole part is on the side from which the fraction was cut off, which is a different
  one below zero and above it (`cmp_then_cmp`).

The results are `Number.compareMixed?_eq` and, for all forms of numbers, `Number.compare?_eq`. The
arithmetic is that of the rational numbers that finite words denote (`Binary64.Denotes`).
-/

namespace StructMatch

/-! ### Orders as comparisons -/

/-- Integers of the machine compare as the integers that they are. -/
theorem compare_int64 (a b : Int64) : Ord.compare a b = cmp a.toInt b.toInt := by
  change compareOfLessAndEq a b = cmp a.toInt b.toInt
  rw [cmp_eq_compareOfLessAndEq]
  simp only [compareOfLessAndEq, Int64.lt_iff_toInt_lt, Int64.toInt_inj]

/-- Places between the ends compare as the rational numbers that they are. -/
theorem Extended.compare_finite (a b : Dyadic) :
    (Extended.finite a).compare (.finite b) = cmp a.toRat b.toRat := by
  change compareOfLessAndEq a b = cmp a.toRat b.toRat
  rw [cmp_eq_compareOfLessAndEq]
  simp only [compareOfLessAndEq, Dyadic.toRat_lt_toRat_iff, Dyadic.toRat_inj]

/-- The places of integers compare as the integers do. -/
theorem Extended.compare_ofInt (m n : ℤ) : (ofInt m).compare (ofInt n) = cmp m n := by
  rw [ofInt, ofInt, compare_finite, Dyadic.toRat_intCast, Dyadic.toRat_intCast]
  exact Int.cast_strictMono.cmp_map_eq m n

/-- Places compare the other way round when they change sides. -/
theorem Extended.compare_swap (x y : Extended) : (x.compare y).swap = y.compare x := by
  cases x with
  | finite a =>
    cases y with
    | finite b => rw [compare_finite, compare_finite, cmp_swap]
    | _ => rfl
  | _ => cases y <;> rfl

/-! ### What finite words denote -/

/-- A sign put in front of a number. -/
def signed (negative : Bool) (r : ℚ) : ℚ :=
  if negative then -r else r

namespace Binary64

/-- The word is finite and stands at the place of the rational number. -/
def Denotes (x : Binary64) (r : ℚ) : Prop :=
  ∃ q : Dyadic, x.extended? = some (.finite q) ∧ q.toRat = r

/-- A finite word denotes what its significand and its exponent amount to. -/
theorem denotes_of_decode {x : Binary64} {negative : Bool} {significand exponent : ℕ}
    (h : x.decode = .finite negative significand exponent) :
    x.Denotes (signed negative (significand * 2 ^ exponent / 2 ^ unitPrecision)) := by
  refine ⟨.ofIntWithPrec (if negative then -significand else significand)
    (unitPrecision - exponent), ?_, ?_⟩
  · rw [extended?, h]
    rfl
  · -- the place is given with a precision, which is the negative of a power of two
    have hvalue := Dyadic.toRat_ofIntWithPrec_eq_mul_two_pow
      (n := if negative then -(significand : ℤ) else significand)
      (k := (unitPrecision : ℤ) - exponent)
    rw [hvalue, neg_sub, zpow_sub₀ two_ne_zero, zpow_natCast, zpow_natCast, ← mul_div_assoc]
    cases negative with
    | false => simp [signed]
    | true => simp [signed, neg_div]

section Order

variable {x y : Binary64} {r s : ℚ} (hx : x.Denotes r) (hy : y.Denotes s)
include hx hy

/-- Words compare as the numbers that they denote. -/
theorem compare?_of_denotes : x.compare? y = some (cmp r s) := by
  obtain ⟨a, ha, rfl⟩ := hx
  obtain ⟨b, hb, rfl⟩ := hy
  rw [compare?, ha, hb, ← Extended.compare_finite]

/-- One word is below another if its number is. -/
theorem lt_iff_of_denotes : x.lt y ↔ r < s := by
  rw [lt, compare?_of_denotes hx hy, beq_iff_eq, Option.some.injEq, cmp_eq_lt_iff]

/-- One word is not above another if its number is not. -/
theorem le_iff_of_denotes : x.le y ↔ r ≤ s := by
  rw [le, compare?_of_denotes hx hy]
  cases hcmp : cmp r s with
  | lt => simp [le_of_lt ((cmp_eq_lt_iff r s).mp hcmp)]
  | eq => simp [le_of_eq ((cmp_eq_eq_iff r s).mp hcmp)]
  | gt => simp [(cmp_eq_gt_iff r s).mp hcmp]

end Order

/-! ### The whole part of a finite word -/

/-- A quotient is less than one above its whole part. -/
theorem whole_bounds (m : ℕ) {n : ℕ} (hn : 0 < n) :
    ((m / n : ℕ) : ℚ) ≤ (m : ℚ) / n ∧ (m : ℚ) / n < (m / n : ℕ) + 1 := by
  have hpos : (0 : ℚ) < n := by exact_mod_cast hn
  constructor
  · rw [le_div_iff₀ hpos]
    exact_mod_cast Nat.div_mul_le_self m n
  · rw [div_lt_iff₀ hpos]
    have hlt : m < (m / n + 1) * n := by
      rw [mul_comm]
      exact Nat.lt_mul_div_succ m hn
    exact_mod_cast hlt

/-- An integer in range is not clamped. -/
theorem toInt_ofIntClamp_of_lt {w : ℤ} (hleast : -2 ^ 63 ≤ w) (hgreatest : w < 2 ^ 63) :
    (Int64.ofIntClamp w).toInt = w := by
  have hmin : Int64.minValue.toInt = -2 ^ 63 := by decide
  have hmax : Int64.maxValue.toInt = 2 ^ 63 - 1 := by decide
  exact Int64.toInt_ofIntClamp (by omega) (by omega)

/-- The integer of a word is the whole part of what it amounts to, clamped. -/
theorem toInt64_of_decode {x : Binary64} {negative : Bool} {significand exponent : ℕ}
    (h : x.decode = .finite negative significand exponent) :
    x.toInt64 = Int64.ofIntClamp (if negative then
      -((significand * Nat.pow 2 exponent / Nat.pow 2 unitPrecision : ℕ) : ℤ)
      else (significand * Nat.pow 2 exponent / Nat.pow 2 unitPrecision : ℕ)) := by
  rw [toInt64, h]

section Whole

variable {x : Binary64} {negative : Bool} {significand exponent : ℕ}
  (h : x.decode = .finite negative significand exponent)
include h

/-- Truncation makes the word of the whole part. -/
theorem denotes_trunc :
    x.trunc.Denotes
      (signed negative ((significand * 2 ^ exponent / 2 ^ unitPrecision : ℕ) : ℚ)) := by
  obtain ⟨significand', exponent', hdecode, hwhole⟩ := exists_decode_trunc h
  -- the parts of the truncated word amount to a whole number of units
  have hcast : (significand' : ℚ) * 2 ^ exponent'
      = (significand * 2 ^ exponent / 2 ^ unitPrecision : ℕ) * 2 ^ unitPrecision := by
    exact_mod_cast hwhole
  have hdenotes := denotes_of_decode hdecode
  rwa [hcast, mul_div_cancel_right₀ _ (pow_ne_zero _ two_ne_zero)] at hdenotes

/-- The integer of a truncated word is its whole part, clamped. -/
theorem toInt64_trunc :
    x.trunc.toInt64 = Int64.ofIntClamp (if negative then
      -((significand * 2 ^ exponent / 2 ^ unitPrecision : ℕ) : ℤ)
      else (significand * 2 ^ exponent / 2 ^ unitPrecision : ℕ)) := by
  obtain ⟨significand', exponent', hdecode, hwhole⟩ := exists_decode_trunc h
  have hpow : ∀ n : ℕ, Nat.pow 2 n = 2 ^ n := fun _ => rfl
  rw [toInt64_of_decode hdecode, hpow, hpow, hwhole, Nat.mul_div_cancel _ (Nat.two_pow_pos _)]

/-- A finite word denotes a number that is less than one away from its whole part, and if the number
is in the range of integers then the whole part is the integer of the truncated word. -/
theorem exists_whole :
    ∃ (r : ℚ) (w : ℤ), x.Denotes r ∧ x.trunc.Denotes w ∧ (w : ℚ) - 1 < r ∧ r < w + 1 ∧
      (-2 ^ 63 ≤ r → r < 2 ^ 63 → x.trunc.toInt64.toInt = w) := by
  have hdenotes := denotes_of_decode h
  have htrunc := denotes_trunc h
  have hinteger := toInt64_trunc h
  obtain ⟨hle, hlt⟩ := whole_bounds (significand * 2 ^ exponent) (Nat.two_pow_pos unitPrecision)
  -- the sizes do not matter from here on, only how the quotient and its whole part lie
  generalize significand * 2 ^ exponent / 2 ^ unitPrecision = whole at htrunc hinteger hle hlt
  push_cast at hle hlt
  generalize (significand : ℚ) * 2 ^ exponent / 2 ^ unitPrecision = r at hdenotes hle hlt
  have hnonneg : (0 : ℚ) ≤ whole := Nat.cast_nonneg whole
  cases negative with
  -- the whole part is below the number, or it is the number
  | false =>
    refine ⟨r, whole, hdenotes, htrunc, ?_, hlt, fun _ hgreatest => ?_⟩
    · push_cast
      linarith
    · have hupper : (whole : ℚ) < 2 ^ 63 := lt_of_le_of_lt hle hgreatest
      have hbelow : (whole : ℤ) < 2 ^ 63 := by exact_mod_cast hupper
      rw [hinteger, if_neg Bool.false_ne_true]
      exact toInt_ofIntClamp_of_lt (by omega) hbelow
  -- below zero the whole part is above the number, or it is the number
  | true =>
    refine ⟨-r, -whole, hdenotes, by simpa [signed] using htrunc, ?_, ?_, fun hleast _ => ?_⟩
    · push_cast
      linarith
    · push_cast
      linarith
    · have hlower : (whole : ℚ) ≤ 2 ^ 63 := by linarith
      have hbelow : (whole : ℤ) ≤ 2 ^ 63 := by exact_mod_cast hlower
      rw [hinteger, if_pos rfl]
      exact toInt_ofIntClamp_of_lt (by omega) (by omega)

end Whole

end Binary64

/-! ### The order of numbers -/

/-- An integer is on the same side of a number and of an integer that is less than one away from it,
unless the two integers are the same; then that integer itself decides. -/
theorem cmp_then_cmp {n w : ℤ} {r : ℚ} (hbelow : (w : ℚ) - 1 < r) (habove : r < w + 1) :
    (cmp n w).then (cmp (w : ℚ) r) = cmp (n : ℚ) r := by
  rcases lt_trichotomy n w with hlt | rfl | hgt
  · -- below the whole part is at least one below it, and so below the number
    have hcast : (n : ℚ) + 1 ≤ w := by exact_mod_cast hlt
    have hr : (n : ℚ) < r := by linarith
    rw [(cmp_eq_lt_iff _ _).mpr hlt, (cmp_eq_lt_iff _ _).mpr hr]
    rfl
  · rw [cmp_self_eq_eq]
    rfl
  · -- above it likewise
    have hcast : (w : ℚ) + 1 ≤ n := by exact_mod_cast hgt
    have hr : r < (n : ℚ) := by linarith
    rw [(cmp_eq_gt_iff _ _).mpr hgt, (cmp_eq_gt_iff _ _).mpr hr]
    rfl

namespace Number

/-- The first number above all integers is `2 ^ 63`. -/
theorem denotes_aboveInt64 : aboveInt64.Denotes (2 ^ 63) := by
  have hdecode : aboveInt64.decode = .finite false (2 ^ 52) (11 + Binary64.unitPrecision) := by
    decide
  have hdenotes := Binary64.denotes_of_decode hdecode
  rw [pow_add, ← mul_assoc, mul_div_cancel_right₀ _ (pow_ne_zero _ two_ne_zero)] at hdenotes
  norm_num [signed] at hdenotes ⊢
  exact hdenotes

/-- The least integer has a word of its own, `-2 ^ 63`. -/
theorem denotes_leastInt64 : leastInt64.Denotes (-2 ^ 63) := by
  have hdecode : leastInt64.decode = .finite true (2 ^ 52) (11 + Binary64.unitPrecision) := by
    decide
  have hdenotes := Binary64.denotes_of_decode hdecode
  rw [pow_add, ← mul_assoc, mul_div_cancel_right₀ _ (pow_ne_zero _ two_ne_zero)] at hdenotes
  norm_num [signed] at hdenotes ⊢
  exact hdenotes

/-- The place of an integer and that of a word compare as the numbers. -/
theorem map_compare_of_denotes {x : Binary64} {r : ℚ} (hx : x.Denotes r) (n : ℤ) :
    x.extended?.map (Extended.ofInt n).compare = some (cmp (n : ℚ) r) := by
  obtain ⟨q, hq, rfl⟩ := hx
  rw [hq, Option.map_some, Extended.ofInt, Extended.compare_finite, Dyadic.toRat_intCast]

/-- The comparison with a finite word. The range of integers is half open, which is why one of its
ends belongs to the numbers beyond it and the other does not. -/
theorem compareMixed?_of_denotes {n : Int64} {x : Binary64} {r : ℚ} {w : ℤ}
    (hnan : x.isNaN = false) (hx : x.Denotes r) (htrunc : x.trunc.Denotes w)
    (hbelow : (w : ℚ) - 1 < r) (habove : r < w + 1)
    (hinteger : -2 ^ 63 ≤ r → r < 2 ^ 63 → x.trunc.toInt64.toInt = w) :
    compareMixed? n x = some (cmp (n.toInt : ℚ) r) := by
  have hleast : -2 ^ 63 ≤ (n.toInt : ℚ) := by exact_mod_cast n.le_toInt
  have hgreatest : (n.toInt : ℚ) < 2 ^ 63 := by exact_mod_cast n.toInt_lt
  unfold compareMixed?
  rw [if_neg (Bool.eq_false_iff.mp hnan)]
  by_cases hhigh : 2 ^ 63 ≤ r
  · -- at or above the upper end the number is above all integers
    have hlt : (n.toInt : ℚ) < r := lt_of_lt_of_le hgreatest hhigh
    rw [if_pos ((Binary64.le_iff_of_denotes denotes_aboveInt64 hx).mpr hhigh),
      (cmp_eq_lt_iff _ _).mpr hlt]
  · rw [if_neg (mt (Binary64.le_iff_of_denotes denotes_aboveInt64 hx).mp hhigh)]
    by_cases hlow : r < -2 ^ 63
    · -- below the lower end it is below all of them
      have hgt : r < (n.toInt : ℚ) := lt_of_lt_of_le hlow hleast
      rw [if_pos ((Binary64.lt_iff_of_denotes hx denotes_leastInt64).mpr hlow),
        (cmp_eq_gt_iff _ _).mpr hgt]
    · rw [if_neg (mt (Binary64.lt_iff_of_denotes hx denotes_leastInt64).mp hlow)]
      -- in range: the whole parts are compared, and then the number with its own whole part
      have hfraction : (if x.trunc.lt x then Ordering.lt else if x.lt x.trunc then .gt else .eq)
          = cmp (w : ℚ) r := by
        unfold cmp cmpUsing
        simp only [Binary64.lt_iff_of_denotes htrunc hx, Binary64.lt_iff_of_denotes hx htrunc]
      change some ((Ord.compare n x.trunc.toInt64).then
        (if x.trunc.lt x then .lt else if x.lt x.trunc then .gt else .eq)) = _
      rw [hfraction, compare_int64, hinteger (not_lt.mp hlow) (not_le.mp hhigh),
        cmp_then_cmp hbelow habove]

/-- **An integer and a floating-point number are compared by their places**, although neither is
brought into the form of the other. -/
theorem compareMixed?_eq (n : Int64) (x : Binary64) :
    compareMixed? n x = x.extended?.map (Extended.ofInt n.toInt).compare := by
  cases hdecode : x.decode with
  -- a word that is not a number compares with nothing, and it has no place
  | nan =>
    have hnan : x.isNaN = true := by rw [Binary64.isNaN, hdecode]
    have hplace : x.extended? = none := by rw [Binary64.extended?, hdecode]; rfl
    rw [compareMixed?, if_pos hnan, hplace, Option.map_none]
  | infinite negative =>
    have hnan : x.isNaN = false := by rw [Binary64.isNaN, hdecode]
    have hplace : x.extended? = some (if negative then .negInfinite else .posInfinite) := by
      rw [Binary64.extended?, hdecode]
      rfl
    obtain ⟨above, habove, -⟩ := denotes_aboveInt64
    obtain ⟨least, hleast, -⟩ := denotes_leastInt64
    rw [compareMixed?, if_neg (Bool.eq_false_iff.mp hnan), Binary64.le, Binary64.lt,
      Binary64.compare?, Binary64.compare?, habove, hleast, hplace]
    -- an infinity is beyond the range on its side
    cases negative <;> rfl
  -- the number and its whole part are all that is needed
  | finite negative significand exponent =>
    have hnan : x.isNaN = false := by rw [Binary64.isNaN, hdecode]
    obtain ⟨r, w, hx, htrunc, hbelow, habove, hinteger⟩ := Binary64.exists_whole hdecode
    rw [compareMixed?_of_denotes hnan hx htrunc hbelow habove hinteger, map_compare_of_denotes hx]

/-- **Two numbers are compared by their places**, whichever form each of them has. -/
theorem compare?_eq (a b : Number) :
    a.compare? b = (match a.extended?, b.extended? with
      | some x, some y => some (x.compare y)
      | _, _ => none) := by
  cases a with
  | int n =>
    cases b with
    | int m =>
      change some (Ord.compare n m) = some ((Extended.ofInt n.toInt).compare (.ofInt m.toInt))
      rw [compare_int64, Extended.compare_ofInt]
    | float x =>
      rw [compare?, compareMixed?_eq, extended?, extended?]
      cases x.extended? <;> rfl
  | float x =>
    cases b with
    -- the same comparison with the sides changed
    | int m =>
      rw [compare?, compareMixed?_eq, extended?, extended?]
      cases x.extended? with
      | none => rfl
      | some p => rw [Option.map_some, Option.map_some, Extended.compare_swap]
    | float y => rfl

end Number

end StructMatch
