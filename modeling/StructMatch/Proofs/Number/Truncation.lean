import Mathlib.Algebra.Order.Ring.Nat
import StructMatch.Number.Basic

/-!
# Cutting off what is behind the point

`Binary64.trunc` clears bits of a word, and this module says what that does to the number. Clearing
the low bits of a word leaves the fields above them alone, so the sign and, from one on, the
exponent stay (`isNegative_trunc`, `fields_trunc_of_le`); below one all that is left is the sign
(`fields_trunc_of_lt`).

What is left of the significand is a number of whole multiples of one. In units, where a significand
and an exponent amount to `significand * 2 ^ exponent`, this is division by `2 ^ 1074` without a
remainder and multiplication by it (`exists_decode_trunc`). So a truncated word stands for the whole
part of the number exactly, however large or small the number is, and nothing is rounded on the way.
-/

namespace StructMatch

/-! ### Clearing low bits -/

section LowBits

variable {k j : ℕ} (h : k ≤ j) (b : ℕ)
include h

/-- Clearing low bits leaves the bits above them as they are. -/
theorem sub_mod_two_pow_div : (b - b % 2 ^ k) / 2 ^ j = b / 2 ^ j := by
  have hsplit : 2 ^ j = 2 ^ k * 2 ^ (j - k) := by rw [← pow_add, Nat.add_sub_cancel' h]
  -- what is left is a multiple of the lower power
  have hclear : b - b % 2 ^ k = 2 ^ k * (b / 2 ^ k) := by
    have hb := Nat.div_add_mod b (2 ^ k)
    omega
  rw [hclear, hsplit, Nat.mul_div_mul_left _ _ (Nat.two_pow_pos k), Nat.div_div_eq_div_mul]

/-- Clearing low bits of a number clears the low bits of what is below a higher bit. -/
theorem sub_mod_two_pow_mod :
    (b - b % 2 ^ k) % 2 ^ j = b % 2 ^ j - b % 2 ^ j % 2 ^ k := by
  have hdvd : 2 ^ k ∣ 2 ^ j := pow_dvd_pow 2 h
  have hlow : b % 2 ^ j % 2 ^ k = b % 2 ^ k := Nat.mod_mod_of_dvd b hdvd
  -- the bits above are the same before and after, so it is enough to compare the rests
  have hb := Nat.div_add_mod b (2 ^ j)
  have hcleared := Nat.div_add_mod (b - b % 2 ^ k) (2 ^ j)
  rw [sub_mod_two_pow_div h b] at hcleared
  rw [hlow]
  omega

end LowBits

namespace Binary64

/-! ### The fields of a truncated word -/

/-- The bits of a truncated word, with the low ones cleared. -/
theorem bits_trunc (x : Binary64) :
    x.trunc.bits.toNat = x.bits.toNat - x.bits.toNat % 2 ^ x.fractionalBits := by
  have hlt : x.bits.toNat < 2 ^ 64 := x.bits.toNat_lt
  exact UInt64.toNat_ofNat_of_lt (lt_of_le_of_lt (Nat.sub_le _ _) hlt)

/-- The sign is never among the bits that are cleared. -/
theorem fractionalBits_le (x : Binary64) : x.fractionalBits ≤ 63 := by
  unfold fractionalBits
  split
  · exact Nat.le_refl _
  · omega

/-- A truncated word keeps its sign. -/
theorem isNegative_trunc (x : Binary64) : x.trunc.isNegative = x.isNegative := by
  have hdiv := sub_mod_two_pow_div x.fractionalBits_le x.bits.toNat
  -- the sign is the highest bit
  have htop : ∀ n : ℕ, 2 ^ 63 ≤ n ↔ 1 ≤ n / 2 ^ 63 := fun n => by omega
  change decide (2 ^ 63 ≤ x.trunc.bits.toNat) = decide (2 ^ 63 ≤ x.bits.toNat)
  rw [bits_trunc, decide_eq_decide, htop, htop, hdiv]

/-- A number below one has nothing but its sign left. -/
theorem fields_trunc_of_lt {x : Binary64} (h : x.exponentField < 1023) :
    x.trunc.exponentField = 0 ∧ x.trunc.fractionField = 0 := by
  -- all bits but the highest are cleared
  have hbits : x.trunc.bits.toNat = x.bits.toNat - x.bits.toNat % 2 ^ 63 := by
    rw [bits_trunc, fractionalBits, if_pos h]
  change x.trunc.bits.toNat / 2 ^ 52 % 2 ^ 11 = 0 ∧ x.trunc.bits.toNat % 2 ^ 52 = 0
  rw [hbits]
  omega

/-- From one on, the exponent stays and low bits of the fraction are cleared. -/
theorem fields_trunc_of_le {x : Binary64} (h : 1023 ≤ x.exponentField) :
    x.trunc.exponentField = x.exponentField ∧
      x.trunc.fractionField
        = x.fractionField - x.fractionField % 2 ^ (1075 - x.exponentField) := by
  have hk : x.fractionalBits = 1075 - x.exponentField := if_neg (Nat.not_lt.mpr h)
  -- only bits of the fraction are cleared
  have hle : 1075 - x.exponentField ≤ 52 := by omega
  have hbits := x.bits_trunc
  rw [hk] at hbits
  constructor
  · change x.trunc.bits.toNat / 2 ^ 52 % 2 ^ 11 = x.bits.toNat / 2 ^ 52 % 2 ^ 11
    rw [hbits, sub_mod_two_pow_div hle]
  · change x.trunc.bits.toNat % 2 ^ 52 = _
    rw [hbits, sub_mod_two_pow_mod hle]
    rfl

/-! ### The parts of a truncated word -/

/-- A fraction has 52 bits. -/
theorem fractionField_lt (x : Binary64) : x.fractionField < 2 ^ 52 :=
  Nat.mod_lt _ (Nat.two_pow_pos 52)

/-- The parts of a finite word, read off its fields. -/
theorem decode_eq_finite_iff {x : Binary64} {negative : Bool} {significand exponent : ℕ} :
    x.decode = .finite negative significand exponent ↔
      x.isNegative = negative ∧ x.exponentField ≠ 2047 ∧
        (x.exponentField = 0 ∧ significand = x.fractionField ∧ exponent = 0 ∨
          x.exponentField ≠ 0 ∧ significand = 2 ^ 52 + x.fractionField ∧
            exponent = x.exponentField - 1) := by
  have hpow : Nat.pow 2 52 = 2 ^ 52 := rfl
  unfold decode
  rw [hpow]
  by_cases hones : x.exponentField = 2047
  · rw [if_pos hones]
    split <;> simp [hones]
  · rw [if_neg hones]
    by_cases hzero : x.exponentField = 0
    · simp [hzero, eq_comm]
    · simp [hzero, hones, eq_comm]

/-- Clearing the low bits of a fraction takes what is not a multiple of one from the number. -/
theorem sub_mod_mul_two_pow {exponent : ℕ} (h : 1023 ≤ exponent) (fraction : ℕ) :
    (2 ^ 52 + (fraction - fraction % 2 ^ (1075 - exponent))) * 2 ^ (exponent - 1)
      = (2 ^ 52 + fraction) * 2 ^ (exponent - 1) / 2 ^ unitPrecision * 2 ^ unitPrecision := by
  by_cases hlt : exponent < 1075
  · -- one is as many units as the lowest bit that stays
    have hunit : 2 ^ unitPrecision = 2 ^ (1075 - exponent) * 2 ^ (exponent - 1) := by
      rw [← pow_add, unitPrecision]
      congr 1
      omega
    have hlow : (2 ^ 52 + fraction) % 2 ^ (1075 - exponent) = fraction % 2 ^ (1075 - exponent) := by
      have hdvd : 2 ^ (1075 - exponent) ∣ 2 ^ 52 := pow_dvd_pow 2 (by omega)
      obtain ⟨c, hc⟩ := hdvd
      rw [hc, Nat.mul_add_mod]
    have hsignificand : 2 ^ 52 + (fraction - fraction % 2 ^ (1075 - exponent))
        = (2 ^ 52 + fraction) / 2 ^ (1075 - exponent) * 2 ^ (1075 - exponent) := by
      have hsplit := Nat.div_add_mod' (2 ^ 52 + fraction) (2 ^ (1075 - exponent))
      have hle := Nat.mod_le fraction (2 ^ (1075 - exponent))
      omega
    rw [hsignificand, hunit, Nat.mul_div_mul_right _ _ (Nat.two_pow_pos _), mul_assoc]
  · -- every number of this size is whole
    have hwhole : 2 ^ unitPrecision ∣ (2 ^ 52 + fraction) * 2 ^ (exponent - 1) := by
      refine Dvd.dvd.mul_left (pow_dvd_pow 2 ?_) _
      unfold unitPrecision
      omega
    have hnone : 1075 - exponent = 0 := by omega
    rw [Nat.div_mul_cancel hwhole, hnone, pow_zero, Nat.mod_one, Nat.sub_zero]

/-- **Truncation leaves the whole part.** It keeps the sign, and what the parts amount to is the
greatest whole number of times that the unit goes into one, that is not above what they were. -/
theorem exists_decode_trunc {x : Binary64} {negative : Bool} {significand exponent : ℕ}
    (h : x.decode = .finite negative significand exponent) :
    ∃ significand' exponent', x.trunc.decode = .finite negative significand' exponent' ∧
      significand' * 2 ^ exponent'
        = significand * 2 ^ exponent / 2 ^ unitPrecision * 2 ^ unitPrecision := by
  obtain ⟨hsign, hones, hparts⟩ := decode_eq_finite_iff.mp h
  have hfraction := x.fractionField_lt
  by_cases hone : x.exponentField < 1023
  · -- below one there is no whole part, and all fields but the sign are cleared
    obtain ⟨hexponent', hfraction'⟩ := fields_trunc_of_lt hone
    refine ⟨0, 0, decode_eq_finite_iff.mpr ⟨?_, ?_, .inl ⟨hexponent', hfraction'.symm, rfl⟩⟩, ?_⟩
    · rw [isNegative_trunc, hsign]
    · rw [hexponent']
      decide
    · have hsmall : significand * 2 ^ exponent < 2 ^ unitPrecision := by
        have hsignificand : significand < 2 ^ 53 := by omega
        have hexponent : exponent ≤ 1021 := by omega
        calc significand * 2 ^ exponent
            < 2 ^ 53 * 2 ^ exponent := Nat.mul_lt_mul_of_pos_right hsignificand (Nat.two_pow_pos _)
          _ = 2 ^ (53 + exponent) := (pow_add 2 53 exponent).symm
          _ ≤ 2 ^ unitPrecision := Nat.pow_le_pow_right (by decide) (by unfold unitPrecision; omega)
      rw [Nat.div_eq_of_lt hsmall, zero_mul, zero_mul]
  · -- from one on, the exponent is kept and the significand loses its low bits
    obtain ⟨hexponent', hfraction'⟩ := fields_trunc_of_le (Nat.not_lt.mp hone)
    have hexponent : x.exponentField ≠ 0 := by omega
    obtain ⟨-, rfl, rfl⟩ := hparts.resolve_left fun hzero => hexponent hzero.1
    refine ⟨2 ^ 52 + x.trunc.fractionField, x.exponentField - 1, decode_eq_finite_iff.mpr
      ⟨?_, ?_, .inr ⟨?_, rfl, ?_⟩⟩, ?_⟩
    · rw [isNegative_trunc, hsign]
    · rwa [hexponent']
    · rwa [hexponent']
    · rw [hexponent']
    · rw [hfraction']
      exact sub_mod_mul_two_pow (Nat.not_lt.mp hone) x.fractionField

end Binary64

end StructMatch
