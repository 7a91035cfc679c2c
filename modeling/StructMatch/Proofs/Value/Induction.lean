import StructMatch.Value.Basic

/-!
# Induction over values

A value holds other values in a list of items and in the entries of a map, keys and values alike.
`Value.inductionOn` is the induction over this shape in which the hypothesis of a node speaks of
every value found in it. It is the eliminator of `induction` for values.
-/

namespace StructMatch.Value

section Principle

variable {motive : Value → Prop}
  (nil : motive .nil)
  (bool : ∀ b, motive (.bool b))
  (int : ∀ n, motive (.int n))
  (float : ∀ x, motive (.float x))
  (str : ∀ text, motive (.str text))
  (sym : ∀ name, motive (.sym name))
  (seq : ∀ items, (∀ v ∈ items, motive v) → motive (.seq items))
  (map : ∀ entries, (∀ e ∈ entries.entries, motive e.1 ∧ motive e.2) → motive (.map entries))

include nil bool int float str sym seq map

/-- **Induction over values.** A property holds of every value if it holds of each value whose parts
all have it. -/
@[elab_as_elim, induction_eliminator]
theorem inductionOn (v : Value) : motive v := by
  -- as for patterns, the motive of a container says "every value found inside has the property"
  refine @Value.rec motive (fun vs => ∀ v ∈ vs, motive v)
    (fun m => ∀ e ∈ m.entries, motive e.1 ∧ motive e.2)
    (fun es => ∀ e ∈ es, motive e.1 ∧ motive e.2) (fun e => motive e.1 ∧ motive e.2)
    nil bool int float str sym seq map ?_ ?_ ?_ ?_ ?_ ?_ v
  · exact fun _ h => absurd h List.not_mem_nil
  · exact fun _ _ hv hvs => List.forall_mem_cons.mpr ⟨hv, hvs⟩
  · exact fun _ h => h
  · exact fun _ h => absurd h List.not_mem_nil
  · exact fun _ _ he hes => List.forall_mem_cons.mpr ⟨he, hes⟩
  · exact fun _ _ hk hv => ⟨hk, hv⟩

end Principle

end StructMatch.Value
