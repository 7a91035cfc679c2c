import StructMatch.Proofs.Assoc.Distinct
import StructMatch.Proofs.Value.Equality

/-!
# The values that can be built

The type of values has maps that no insertions make, with one key in two entries.
`Value.Constructible` holds of the values in which every map, at whatever depth and in keys as well,
was filled from the empty map by insertions. What is used of it is that keys are distinct, and that
the items and the values found in such a value are such values again.
-/

namespace StructMatch.Value

/-- The values whose maps were filled by insertions. -/
inductive Constructible : Value → Prop
  | nil : Constructible .nil
  | bool (b : Bool) : Constructible (.bool b)
  | int (n : Int64) : Constructible (.int n)
  | float (x : Binary64) : Constructible (.float x)
  | str (text : String) : Constructible (.str text)
  | sym (name : String) : Constructible (.sym name)
  | seq {items : List Value} : (∀ v ∈ items, Constructible v) → Constructible (.seq items)
  | map {entries : List (Value × Value)} : (∀ e ∈ entries, Constructible e.1) →
    (∀ e ∈ entries, Constructible e.2) → Constructible (.map (.ofList entries))

namespace Constructible

/-- The items of a constructible sequence are constructible. -/
theorem of_mem_items {items : List Value} (h : Constructible (.seq items)) :
    ∀ v ∈ items, v.Constructible := by
  cases h with
  | seq hitems => exact hitems

/-- The keys of a constructible map are distinct. -/
theorem distinctKeys {m : ValueMap} (h : Constructible (.map m)) : m.DistinctKeys := by
  cases h with
  | map _ _ => exact Assoc.distinctKeys_ofList _

/-- The values in a constructible map are constructible. -/
theorem value_of_mem {m : ValueMap} (h : Constructible (.map m)) {e : Value × Value}
    (he : e ∈ m.entries) : e.2.Constructible := by
  cases h with
  | map _ hvalues => exact Assoc.forall_snd_ofList hvalues e he

/-- What is found in a constructible map is constructible. -/
theorem of_get? {m : ValueMap} (h : Constructible (.map m)) {key v : Value}
    (hv : m.get? key = some v) : v.Constructible := by
  -- what is found was stored
  obtain ⟨e, he, -, rfl⟩ := Assoc.exists_mem_of_get?_eq_some hv
  exact h.value_of_mem he

/-- Any items of a constructible sequence make a constructible sequence. -/
theorem of_subset {items items' : List Value} (h : Constructible (.seq items))
    (hsubset : items' ⊆ items) : Constructible (.seq items') :=
  .seq fun v hv => h.of_mem_items v (hsubset hv)

end Constructible

end StructMatch.Value
