import Mathlib.Data.List.Forall2
import StructMatch.Pattern.Plain

/-!
# Building as traversal

The functions that build several patterns go through a list from left to right and stop at the first
error. They are written out in the mutual recursion of building; here each is `List.mapM` of the
function that builds one. A traversal that succeeds is its steps, one by one
(`forall₂_of_mapM_eq_ok`), so that what is true of every result of it needs one proof
(`forall_mem_of_mapM_eq_ok`).
-/

namespace StructMatch

/-- A result of two steps in a row is a result of the second on a result of the first. -/
theorem exists_of_bind_eq_ok {ε α β : Type} {x : Except ε α} {f : α → Except ε β} {b : β}
    (h : (x >>= f) = .ok b) : ∃ a, x = .ok a ∧ f a = .ok b := by
  cases x with
  | error e => cases h
  | ok a => exact ⟨a, rfl, h⟩

/-- The steps of a traversal that succeeds, with their results. -/
theorem forall₂_of_mapM_eq_ok {ε α β : Type} {f : α → Except ε β} {xs : List α} {ys : List β}
    (h : xs.mapM f = .ok ys) : List.Forall₂ (fun x y => f x = .ok y) xs ys := by
  induction xs generalizing ys with
  | nil =>
    obtain rfl : [] = ys := Except.ok.inj h
    exact .nil
  | cons x xs ih =>
    rw [List.mapM_cons] at h
    -- the first step has succeeded, and so has the traversal of the rest
    obtain ⟨y, hy, hrest⟩ := exists_of_bind_eq_ok h
    obtain ⟨zs, hzs, heq⟩ := exists_of_bind_eq_ok hrest
    obtain rfl : y :: zs = ys := Except.ok.inj heq
    exact .cons hy (ih hzs)

/-- What holds of every result of a traversal. -/
theorem forall_mem_of_mapM_eq_ok {ε α β : Type} {f : α → Except ε β} {P : β → Prop} {xs : List α}
    {ys : List β} (h : xs.mapM f = .ok ys) (hf : ∀ x ∈ xs, ∀ y, f x = .ok y → P y) :
    ∀ y ∈ ys, P y := by
  have hsteps := forall₂_of_mapM_eq_ok h
  clear h
  induction hsteps with
  | nil => exact fun y hy => absurd hy List.not_mem_nil
  | cons hy _ ih =>
    obtain ⟨hfx, hfxs⟩ := List.forall_mem_cons.mp hf
    exact List.forall_mem_cons.mpr ⟨hfx _ hy, ih hfxs⟩

/-- A traversal whose steps all succeed succeeds, with a related result for every item. -/
theorem exists_mapM_eq_ok {ε α β : Type} {f : α → Except ε β} {R : α → β → Prop} {xs : List α}
    (h : ∀ x ∈ xs, ∃ y, f x = .ok y ∧ R x y) :
    ∃ ys, xs.mapM f = .ok ys ∧ List.Forall₂ R xs ys := by
  induction xs with
  | nil => exact ⟨[], rfl, .nil⟩
  | cons x xs ih =>
    obtain ⟨⟨y, hy, hR⟩, hrest⟩ := List.forall_mem_cons.mp h
    obtain ⟨ys, hys, hRs⟩ := ih hrest
    refine ⟨y :: ys, ?_, .cons hR hRs⟩
    -- the traversal runs through the results that the steps have been shown to have
    rw [List.mapM_cons, hy, hys]
    rfl

/-- Make the second part of an entry, and keep its key. -/
def makeEntry {κ α β : Type} (f : α → Except PatternError β) (e : κ × α) :
    Except PatternError (κ × β) := do
  let b ← f e.2
  return (e.1, b)

/-- The second part of what was made is made from the second part. -/
theorem makeEntry_eq_ok {κ α β : Type} {f : α → Except PatternError β} {e : κ × α} {q : κ × β}
    (h : makeEntry f e = .ok q) : f e.2 = .ok q.2 := by
  obtain ⟨b, hb, heq⟩ := exists_of_bind_eq_ok h
  obtain rfl : (e.1, b) = q := Except.ok.inj heq
  exact hb

namespace Value

/-- The items of a value are turned into patterns one after another. -/
theorem toPatterns_eq_mapM (vs : List Value) : toPatterns vs = vs.mapM toPattern := by
  induction vs with
  | nil => rfl
  | cons v vs ih => rw [List.mapM_cons, ← ih]; rfl

/-- The entries of a value are turned into entries of a pattern one after another. -/
theorem toEntries_eq_mapM (es : List (Value × Value)) :
    toEntries es = es.mapM (makeEntry toPattern) := by
  induction es with
  | nil => rfl
  | cons e es ih =>
    rw [List.mapM_cons, ← ih]
    unfold makeEntry
    -- making the entry is itself two steps, which are taken in one row here
    rw [bind_assoc]
    rfl

end Value

namespace Plain

/-- The entry of a plain map that becomes an entry of the pattern; the reserved key makes none. -/
def properEntry? : PlainKey × Plain → Option (Value × Plain)
  | (.value k, i) => some (k, i)
  | (.exact, _) => none

/-- An entry under a proper key keeps what stands under it. -/
theorem snd_eq_of_properEntry? {e : PlainKey × Plain} {e' : Value × Plain}
    (h : properEntry? e = some e') : e'.2 = e.2 := by
  obtain ⟨k, i⟩ := e
  cases k with
  | value k => rw [← Option.some.inj h]
  | exact => cases h

/-- Items are built one after another. -/
theorem buildAll_eq_mapM (is : List Plain) : buildAll is = is.mapM build := by
  induction is with
  | nil => rfl
  | cons i is ih => rw [List.mapM_cons, ← ih]; rfl

/-- Entries are built one after another, those under the reserved key left out. -/
theorem buildEntries_eq_mapM (es : List (PlainKey × Plain)) :
    buildEntries es = (es.filterMap properEntry?).mapM (makeEntry build) := by
  induction es with
  | nil => rfl
  | cons e es ih =>
    obtain ⟨k, i⟩ := e
    cases k with
    -- the reserved key makes no entry and its value is not built
    | exact => exact ih
    | value k =>
      have hproper : properEntry? (.value k, i) = some (k, i) := rfl
      rw [List.filterMap_cons_some hproper, List.mapM_cons, ← ih]
      unfold makeEntry
      rw [bind_assoc]
      rfl

/-- Under the reserved key stands the last word so far. -/
theorem isExact_append_exact (es : List (PlainKey × Plain)) (i : Plain) :
    isExact (es ++ [(.exact, i)]) = i.asExact := by
  rw [isExact, List.foldl_append]
  rfl

/-- Entries under other keys have no say in it. -/
theorem isExact_append_of_forall_ne {others : List (PlainKey × Plain)}
    (h : ∀ e ∈ others, e.1 ≠ .exact) (es : List (PlainKey × Plain)) :
    isExact (es ++ others) = isExact es := by
  induction others generalizing es with
  | nil => rw [List.append_nil]
  | cons e others ih =>
    obtain ⟨he, hothers⟩ := List.forall_mem_cons.mp h
    have hfirst : isExact (es ++ [e]) = isExact es := by
      obtain ⟨k, i⟩ := e
      cases k with
      -- under a proper key nothing is said about exactness
      | value k =>
        rw [isExact, List.foldl_append]
        rfl
      | exact => exact absurd rfl he
    rw [List.append_cons, ih hothers (es ++ [e]), hfirst]

end Plain

end StructMatch
