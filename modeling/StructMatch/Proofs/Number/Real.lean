import Mathlib.Data.EReal.Basic
import StructMatch.Literal.Basic
import StructMatch.Proofs.Number.Place

/-!
# Comparing numbers is comparing extended real numbers

What a floating-point word stands for is said a second time here, by the formula of the format in
real arithmetic: a sign, a fraction out of `2 ^ 52`, and a power of two (`Binary64.real?`). The
places on the extended line that comparisons go by are these numbers (`Binary64.real?_eq`), and
their order is that of the extended real numbers (`Extended.compare_eq_cmp`).

It follows that the comparison of an integer with a word, the comparison of two values that hold
numbers, and the test whether a value is in a range have the outcomes that the extended real numbers
have, with no exception for numbers that are large, small, or at the end of the range of integers
(`Value.numbers_compare_exactly`).
-/

namespace StructMatch

/-! ### The extended line in the extended real numbers -/

namespace Extended

/-- The extended real number that a place is. -/
noncomputable def toEReal : Extended → EReal
  | .negInfinite => ⊥
  | .finite q => ((q.toRat : ℝ) : EReal)
  | .posInfinite => ⊤

/-- Places compare as the extended real numbers that they are. -/
theorem compare_eq_cmp (x y : Extended) : x.compare y = cmp x.toEReal y.toEReal := by
  cases x with
  -- the ends are below and above everything, on the line as in the real numbers
  | negInfinite =>
    cases y with
    | negInfinite => exact (cmp_self_eq_eq _).symm
    | finite b => exact ((cmp_eq_lt_iff _ _).mpr (EReal.bot_lt_coe _)).symm
    | posInfinite => exact ((cmp_eq_lt_iff _ _).mpr bot_lt_top).symm
  | finite a =>
    cases y with
    | negInfinite => exact ((cmp_eq_gt_iff _ _).mpr (EReal.bot_lt_coe _)).symm
    | finite b =>
      -- the rational numbers keep their order in the real numbers, and these in the extended ones
      have hreal : cmp (a.toRat : ℝ) b.toRat = cmp a.toRat b.toRat :=
        Rat.cast_strictMono.cmp_map_eq a.toRat b.toRat
      have hextended := EReal.coe_strictMono.cmp_map_eq (a.toRat : ℝ) b.toRat
      rw [compare_finite, toEReal, toEReal, hextended, hreal]
    | posInfinite => exact ((cmp_eq_lt_iff _ _).mpr (EReal.coe_lt_top _)).symm
  | posInfinite =>
    cases y with
    | negInfinite => exact ((cmp_eq_gt_iff _ _).mpr bot_lt_top).symm
    | finite b => exact ((cmp_eq_gt_iff _ _).mpr (EReal.coe_lt_top _)).symm
    | posInfinite => exact (cmp_self_eq_eq _).symm

/-- The place of an integer is the integer. -/
theorem toEReal_ofInt (n : ℤ) : (ofInt n).toEReal = (n : ℝ) := by
  rw [ofInt, toEReal, Dyadic.toRat_intCast, Rat.cast_intCast]

end Extended

/-! ### What words and numbers stand for -/

namespace Binary64

/-- The number that a word stands for, by its fields. The fraction counts in parts of `2 ^ 52`, a
number whose exponent field is not zero has one added to it, and an exponent field of all ones is
left for the infinities and the words that are not a number. -/
noncomputable def real? (x : Binary64) : Option EReal :=
  let sign : ℝ := if x.isNegative then -1 else 1
  if x.exponentField = 2047 then
    if x.fractionField = 0 then some (if x.isNegative then ⊥ else ⊤) else none
  else if x.exponentField = 0 then
    some (sign * (x.fractionField / 2 ^ 52) * 2 ^ (-1022 : ℤ) : ℝ)
  else
    some (sign * (1 + x.fractionField / 2 ^ 52) * 2 ^ ((x.exponentField : ℤ) - 1023) : ℝ)

/-- The place of a finite word is what its significand and exponent amount to, in units of the least
exponent. -/
theorem map_toEReal_of_decode {x : Binary64} {negative : Bool} {significand exponent : ℕ}
    (h : x.decode = .finite negative significand exponent) :
    x.extended?.map Extended.toEReal
      = some (((if negative then -1 else 1) * significand * 2 ^ ((exponent : ℤ) - 1074) : ℝ)) := by
  obtain ⟨q, hplace, hq⟩ := denotes_of_decode h
  have hpow : (2 : ℝ) ^ ((exponent : ℤ) - 1074) = 2 ^ exponent / 2 ^ 1074 := by
    rw [zpow_sub₀ two_ne_zero]
    rfl
  rw [hplace, Option.map_some, Extended.toEReal, hq, hpow]
  -- the sign is one factor, and the unit is a quotient on the other side
  cases negative with
  | false => simp [signed, unitPrecision, mul_div_assoc]
  | true => simp [signed, unitPrecision, mul_div_assoc]

/-- A fraction counts in parts of `2 ^ 52`, so the unit has that much less of an exponent. -/
theorem two_zpow_sub (e : ℤ) : (2 : ℝ) ^ (e - 1022) = 2 ^ 52 * 2 ^ (e - 1074) := by
  rw [← zpow_natCast, ← zpow_add₀ two_ne_zero]
  congr 1
  push_cast
  ring

/-- **A word stands at the place of its number**, by the formula of the format. -/
theorem real?_eq (x : Binary64) : x.real? = x.extended?.map Extended.toEReal := by
  by_cases hones : x.exponentField = 2047
  · by_cases hzero : x.fractionField = 0
    · -- an exponent field of all ones without a fraction is an infinity
      have hdecode : x.decode = .infinite x.isNegative := by rw [decode, if_pos hones, if_pos hzero]
      rw [real?, if_pos hones, if_pos hzero, extended?, hdecode]
      cases x.isNegative <;> rfl
    · -- with a fraction it is no number
      have hdecode : x.decode = .nan := by rw [decode, if_pos hones, if_neg hzero]
      rw [real?, if_pos hones, if_neg hzero, extended?, hdecode]
      rfl
  · by_cases hzero : x.exponentField = 0
    · have hdecode : x.decode = .finite x.isNegative x.fractionField 0 := by
        rw [decode, if_neg hones, if_pos hzero]
      rw [real?, if_neg hones, if_pos hzero, map_toEReal_of_decode hdecode]
      -- a fraction of the least exponent is as many units
      have hexponent : (-1022 : ℤ) = ((0 : ℕ) : ℤ) - 1022 := rfl
      rw [hexponent, two_zpow_sub]
      congr 2
      ring
    · -- every other word has one more bit in front of its fraction
      have hdecode : x.decode
          = .finite x.isNegative (2 ^ 52 + x.fractionField) (x.exponentField - 1) := by
        rw [decode, if_neg hones, if_neg hzero]
        rfl
      rw [real?, if_neg hones, if_neg hzero, map_toEReal_of_decode hdecode]
      have hexponent : (x.exponentField : ℤ) - 1023 = ((x.exponentField - 1 : ℕ) : ℤ) - 1022 := by
        omega
      rw [hexponent, two_zpow_sub]
      congr 2
      push_cast
      ring

end Binary64

/-- The extended real number that a number is. -/
noncomputable def Number.real? : Number → Option EReal
  | .int n => some (n.toInt : ℝ)
  | .float x => x.real?

/-- A number stands at its place, whichever form it has. -/
theorem Number.real?_eq (a : Number) : a.real? = a.extended?.map Extended.toEReal := by
  cases a with
  | int n => rw [real?, extended?, Option.map_some, Extended.toEReal_ofInt]
  | float x => exact x.real?_eq

/-- Numbers compare as the extended real numbers that they are, if both are. -/
theorem Number.compare?_eq_cmp (a b : Number) : a.compare? b = Option.map₂ cmp a.real? b.real? := by
  rw [compare?_eq, real?_eq, real?_eq]
  cases a.extended? with
  | none => rfl
  | some x =>
    cases b.extended? with
    | none => rfl
    | some y => exact congrArg some (x.compare_eq_cmp y)

/-- An integer and a word compare as the extended real numbers that they are. -/
theorem Number.compareMixed?_eq_cmp (n : Int64) (x : Binary64) :
    compareMixed? n x = x.real?.map (cmp ((n.toInt : ℝ) : EReal)) := by
  -- comparing places is comparing the numbers at them
  have hcompare : (Extended.ofInt n.toInt).compare
      = cmp ((n.toInt : ℝ) : EReal) ∘ Extended.toEReal := by
    funext y
    rw [Extended.compare_eq_cmp, Extended.toEReal_ofInt, Function.comp_apply]
  rw [compareMixed?_eq, Binary64.real?_eq, Option.map_map, hcompare]

namespace Value

/-- The extended real number that a value holds; none if it holds no number, or a word that is not
one. -/
noncomputable def real? (v : Value) : Option EReal :=
  v.number?.bind Number.real?

/-- The value holds no number, or a word that is not one. -/
def HoldsNoNumber : Value → Prop
  | .int _ => False
  | .float x => x.isNaN
  | _ => True

/-- A value holds no extended real number exactly if it holds no number. -/
theorem real?_eq_none_iff {v : Value} : v.real? = none ↔ v.HoldsNoNumber := by
  cases v with
  | float x =>
    change x.real? = none ↔ x.isNaN
    rw [Binary64.real?_eq, Option.map_eq_none_iff, Binary64.extended?_eq_none_iff]
  | int n => exact iff_of_false (Option.some_ne_none _) id
  | _ => exact iff_of_true rfl trivial

/-- A number made into a value is held by it. -/
theorem real?_toValue (a : Number) : a.toValue.real? = a.real? := by
  cases a <;> rfl

/-- Values compare as the extended real numbers that they hold, if both hold one. -/
theorem compareNumbers?_eq_cmp (v w : Value) :
    v.compareNumbers? w = Option.map₂ cmp v.real? w.real? := by
  rw [compareNumbers?, real?, real?]
  cases v.number? with
  | none => rfl
  | some a =>
    cases w.number? with
    | none => exact (Option.map₂_none_right cmp _).symm
    | some b => exact a.compare?_eq_cmp b

end Value

/-! ### Ranges -/

section Ends

variable (x y : Option EReal)

/-- The test of a value against the first end of a range. -/
theorem above_first_iff :
    (match Option.map₂ cmp x y with
      | some .lt | some .eq => true
      | _ => false) = true ↔ ∃ a b, x = some a ∧ y = some b ∧ a ≤ b := by
  cases x with
  | none =>
    rw [Option.map₂_none_left]
    simp
  | some a =>
    cases y with
    | none =>
      rw [Option.map₂_none_right]
      simp
    | some b =>
      rw [Option.map₂_coe_coe]
      rcases lt_trichotomy a b with hlt | rfl | hgt
      · rw [(cmp_eq_lt_iff a b).mpr hlt]
        simp [hlt.le]
      · rw [cmp_self_eq_eq]
        simp
      · rw [(cmp_eq_gt_iff a b).mpr hgt]
        simp [hgt]

/-- The test of a value against the last end of a range. -/
theorem below_last_iff (exclusive : Bool) :
    (match Option.map₂ cmp x y with
      | some .lt => true
      | some .eq => !exclusive
      | _ => false) = true ↔
      ∃ a b, x = some a ∧ y = some b ∧ (if exclusive then a < b else a ≤ b) := by
  cases x with
  | none =>
    rw [Option.map₂_none_left]
    simp
  | some a =>
    cases y with
    | none =>
      rw [Option.map₂_none_right]
      simp
    | some b =>
      rw [Option.map₂_coe_coe]
      rcases lt_trichotomy a b with hlt | rfl | hgt
      · rw [(cmp_eq_lt_iff a b).mpr hlt]
        simp [hlt, hlt.le]
      · rw [cmp_self_eq_eq]
        simp
      · -- above the end the value is outside, whether the end belongs to the range or not
        have hnone : ¬ if exclusive then a < b else a ≤ b := by
          split
          · exact hgt.not_gt
          · exact hgt.not_ge
        rw [(cmp_eq_gt_iff a b).mpr hgt]
        simp [hnone]

end Ends

/-- The values of a range hold a number between its ends. -/
theorem NumRange.contains_iff (r : NumRange) (v : Value) :
    r.contains v ↔ ∃ first y last, r.first.real? = some first ∧ v.real? = some y ∧
      r.last.real? = some last ∧ first ≤ y ∧ (if r.exclusive then y < last else y ≤ last) := by
  have habove := above_first_iff r.first.real? v.real?
  have hbelow := below_last_iff v.real? r.last.real? r.exclusive
  rw [contains, Value.compareNumbers?_eq_cmp, Value.compareNumbers?_eq_cmp, Value.real?_toValue,
    Value.real?_toValue, Bool.and_eq_true]
  -- both tests speak of the value, and they mean the same number
  refine (and_congr habove hbelow).trans ⟨?_, ?_⟩
  · rintro ⟨⟨first, y, hfirst, hy, hle⟩, ⟨y', last, hy', hlast, hlt⟩⟩
    obtain rfl : y = y' := Option.some.inj (hy.symm.trans hy')
    exact ⟨first, y, last, hfirst, hy, hlast, hle, hlt⟩
  · rintro ⟨first, y, last, hfirst, hy, hlast, hle, hlt⟩
    exact ⟨⟨first, y, hfirst, hy, hle⟩, ⟨y, last, hy, hlast, hlt⟩⟩

/-- **Numbers compare exactly.** An integer compares with a word as it does with the extended real
number that the word stands for, and not at all with a word that is not a number. Two values compare
as the extended real numbers that they hold, whichever form either number has, and they do not
compare exactly if a side holds no number. So the values of a range are those that hold a number
which is not below the first end, and is below the last one or, unless that is left out, equal to
it; a range with an end that is not a number is empty. -/
theorem Value.numbers_compare_exactly :
    (∀ (n : Int64) (x : Binary64),
      (Number.compareMixed? n x = none ↔ x.isNaN) ∧
        Number.compareMixed? n x = x.real?.map (cmp ((n.toInt : ℝ) : EReal))) ∧
    (∀ v w : Value,
      (v.compareNumbers? w = none ↔ v.HoldsNoNumber ∨ w.HoldsNoNumber) ∧
        v.compareNumbers? w = Option.map₂ cmp v.real? w.real?) ∧
    ∀ (r : NumRange) (v : Value), r.contains v ↔
      ∃ first y last, r.first.real? = some first ∧ v.real? = some y ∧ r.last.real? = some last ∧
        first ≤ y ∧ (if r.exclusive then y < last else y ≤ last) := by
  refine ⟨fun n x => ⟨?_, Number.compareMixed?_eq_cmp n x⟩,
    fun v w => ⟨?_, compareNumbers?_eq_cmp v w⟩, NumRange.contains_iff⟩
  · rw [Number.compareMixed?_eq, Option.map_eq_none_iff, Binary64.extended?_eq_none_iff]
  · rw [compareNumbers?_eq_cmp, Option.map₂_eq_none_iff, real?_eq_none_iff, real?_eq_none_iff]

/-- The greatest integer is below the next floating-point number, which is `2 ^ 63`. -/
example : Number.compareMixed? Int64.maxValue ⟨0x43e0000000000000⟩ = some .lt := by decide

/-- Minus one is below the greatest number above it, although the whole part of that is zero. -/
example : Number.compareMixed? (-1) ⟨0xbfefffffffffffff⟩ = some .lt := by decide +kernel

end StructMatch
