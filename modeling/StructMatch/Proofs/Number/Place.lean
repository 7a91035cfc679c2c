import StructMatch.Proofs.Number.Exactness

/-!
# Equality of numbers is equality of places

Two numbers compare as equal exactly if they have a place on the extended line and it is the same
one (`Number.equal_iff`). Neither the form of a number nor the word that writes it matters beyond
this: the two zeros have one place, and an integer shares its place with the floating-point number
of its value, if there is one. The words that are not a number have no place, so they equal nothing,
not even themselves.
-/

namespace StructMatch

/-- Places compare as equal exactly if they are the same. -/
theorem Extended.compare_eq_iff (x y : Extended) : x.compare y = .eq ↔ x = y := by
  cases x with
  | negInfinite => cases y <;> simp [compare]
  | posInfinite => cases y <;> simp [compare]
  | finite a =>
    cases y with
    | negInfinite => simp [compare]
    | posInfinite => simp [compare]
    | finite b =>
      -- two places between the ends compare as the exact values that they are
      rw [compare, compareOfLessAndEq_eq_eq Dyadic.le_refl Std.not_le]
      exact (finite.injEq a b).symm.to_iff

/-! ### Places that may be missing -/

/-- Both places are there, and they are the same. -/
def SamePlace (x y : Option Extended) : Prop :=
  ∃ place, x = some place ∧ y = some place

namespace SamePlace

variable {x y z : Option Extended}

/-- Having the same place is symmetric. -/
theorem symm (h : SamePlace x y) : SamePlace y x := by
  obtain ⟨place, hx, hy⟩ := h
  exact ⟨place, hy, hx⟩

/-- Having the same place is transitive. -/
theorem trans (hxy : SamePlace x y) (hyz : SamePlace y z) : SamePlace x z := by
  obtain ⟨place, hx, hy⟩ := hxy
  obtain ⟨place', hy', hz⟩ := hyz
  obtain rfl : place = place' := Option.some.inj (hy.symm.trans hy')
  exact ⟨place, hx, hz⟩

/-- What has a place has the same place as itself. -/
theorem refl_iff : SamePlace x x ↔ x ≠ none := by
  simp only [SamePlace, and_self, Option.ne_none_iff_exists']

/-- Comparing places comes out equal where both are there and the same. -/
theorem of_compare_iff :
    (match x, y with
      | some a, some b => some (a.compare b)
      | _, _ => none) = some .eq ↔ SamePlace x y := by
  cases x with
  | none => simp [SamePlace]
  | some a =>
    cases y with
    | none => simp [SamePlace]
    | some b =>
      -- both are there, and they are the same if they compare as equal
      rw [Option.some.injEq, Extended.compare_eq_iff]
      refine ⟨fun h => ⟨a, rfl, congrArg some h.symm⟩, ?_⟩
      rintro ⟨place, ha, hb⟩
      exact Option.some.inj (ha.trans hb.symm)

end SamePlace

/-! ### Words and numbers -/

namespace Binary64

/-- Words are equal if they have the same place. -/
theorem equal_iff {x y : Binary64} : x.equal y ↔ SamePlace x.extended? y.extended? := by
  rw [equal, beq_iff_eq, compare?]
  exact SamePlace.of_compare_iff

/-- The words without a place are those that are not a number. -/
theorem extended?_eq_none_iff {x : Binary64} : x.extended? = none ↔ x.isNaN := by
  rw [extended?, isNaN]
  cases x.decode <;> simp [Decoded.extended?]

/-- A word equals itself unless it is not a number. -/
theorem equal_self_iff {x : Binary64} : x.equal x ↔ x.isNaN = false := by
  rw [equal_iff, SamePlace.refl_iff, ne_eq, extended?_eq_none_iff, Bool.not_eq_true]

end Binary64

/-- **Numbers are equal if they have the same place.** -/
theorem Number.equal_iff {a b : Number} : a.equal b ↔ SamePlace a.extended? b.extended? := by
  rw [equal, beq_iff_eq, compare?_eq]
  exact SamePlace.of_compare_iff

end StructMatch
