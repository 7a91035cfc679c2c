import StructMatch.Capture.Bindings

/-!
# Writing captures

Captures are only ever written, one key at a time. `Captures.setAll` makes a list of writes, and
`get?_setAll` reads a key back: the last write of the key decides (`lastWrite?`), and only a key
that was not written at all shows what was bound before.
-/

namespace StructMatch

namespace Captures

/-- Nothing is bound to begin with. -/
@[simp] theorem get?_empty (key : Key) : empty.get? key = none :=
  Std.HashMap.getElem?_empty

/-- The key reads as the new value, and all others as before. -/
theorem get?_set (c : Captures) (key : Key) (v : Value) (k : Key) :
    (c.set key v).get? k = if key = k then some v else c.get? k := by
  unfold get? set
  rw [Std.HashMap.getElem?_insert]
  simp only [beq_iff_eq]

/-- Bind keys one after another, the first one first. -/
def setAll (c : Captures) (writes : List (Key × Value)) : Captures :=
  writes.foldl (fun c w => c.set w.1 w.2) c

@[simp] theorem setAll_nil (c : Captures) : c.setAll [] = c := rfl

/-- Writes made in two parts are made one after another. -/
@[simp] theorem setAll_append (c : Captures) (ws ws' : List (Key × Value)) :
    c.setAll (ws ++ ws') = (c.setAll ws).setAll ws' :=
  List.foldl_append

/-- The value of the last write of a key. -/
def lastWrite? (key : Key) : List (Key × Value) → Option Value
  | [] => none
  | (k, v) :: later => (lastWrite? key later).or (if k = key then some v else none)

/-- **The last write of a key wins**, and a key that is not written keeps its binding. -/
theorem get?_setAll (c : Captures) (writes : List (Key × Value)) (key : Key) :
    (c.setAll writes).get? key = (lastWrite? key writes).or (c.get? key) := by
  induction writes generalizing c with
  | nil => rfl
  | cons w later ih =>
    obtain ⟨k, v⟩ := w
    rw [lastWrite?, Option.or_assoc]
    -- the later writes decide first; behind them stands the binding that the first write left
    refine (ih (c.set k v)).trans (congrArg _ ?_)
    rw [get?_set]
    split <;> rfl

/-- A key has a last write exactly if it was written. -/
theorem lastWrite?_isSome_iff (key : Key) (writes : List (Key × Value)) :
    (lastWrite? key writes).isSome ↔ key ∈ writes.map Prod.fst := by
  induction writes with
  | nil => simp [lastWrite?]
  -- either a later write is of the key, or this one is
  | cons w later ih =>
    obtain ⟨k, v⟩ := w
    rw [lastWrite?, Option.isSome_or, Bool.or_eq_true, ih, List.map_cons, List.mem_cons, or_comm]
    refine or_congr_left ?_
    by_cases h : k = key
    · simp [h]
    · simp [h, Ne.symm h]

/-- A key that is not written keeps its binding. -/
theorem get?_setAll_of_not_mem (c : Captures) {writes : List (Key × Value)} {key : Key}
    (h : key ∉ writes.map Prod.fst) : (c.setAll writes).get? key = c.get? key := by
  have hnone : lastWrite? key writes = none := by
    rw [← Option.not_isSome_iff_eq_none, lastWrite?_isSome_iff]
    exact h
  rw [get?_setAll, hnone, Option.none_or]

/-- A key is bound exactly if something is read under it. -/
theorem contains_eq_isSome_get? (c : Captures) (key : Key) :
    c.contains key = (c.get? key).isSome :=
  Std.HashMap.contains_eq_isSome_getElem?

/-- The bound keys are those that were bound before and those that were written. -/
theorem contains_setAll_iff (c : Captures) (writes : List (Key × Value)) (key : Key) :
    (c.setAll writes).contains key ↔ key ∈ writes.map Prod.fst ∨ c.contains key := by
  rw [contains_eq_isSome_get?, contains_eq_isSome_get?, get?_setAll, Option.isSome_or,
    Bool.or_eq_true, lastWrite?_isSome_iff]

/-- What is read under a written key does not depend on what was bound before the writes. -/
theorem get?_setAll_eq_of_mem (c d : Captures) {writes : List (Key × Value)} {key : Key}
    (h : key ∈ writes.map Prod.fst) : (c.setAll writes).get? key = (d.setAll writes).get? key := by
  obtain ⟨v, hv⟩ := Option.isSome_iff_exists.mp ((lastWrite?_isSome_iff key writes).mpr h)
  -- its last write is read on both sides
  rw [get?_setAll, get?_setAll, hv]
  rfl

end Captures

end StructMatch
