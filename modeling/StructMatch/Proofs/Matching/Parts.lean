import Mathlib.Data.List.Infix
import StructMatch.Pattern.Basic

/-!
# Nodes of patterns and parts of values

Whatever an execution does, it does at some node of the pattern and to some part of the subject, and
both notions are given here without the execution.

The nodes of a pattern (`Pattern.OccursIn`) are the patterns found in it at any depth, also inside
the values of a map pattern and of an optional one; a program has the nodes of the pattern it comes
from. The parts of a value (`Value.PartOf`) are reached through the items of sequences and the
values of maps. Keys are not parts: they are compared and nothing else.

A rest slot is given a value that need not be a part of the subject, because it is made for the
occasion, out of a run of items of a part. `Value.Within` takes these in. It is closed under taking
items, values and runs again (`Within.of_item`, `of_entry`, `of_run`), so that a run may be taken
apart like any other sequence.
-/

namespace StructMatch

/-- `q.OccursIn p`: the pattern `q` is a node of `p`. -/
inductive Pattern.OccursIn (q : Pattern) : Pattern → Prop
  | self : OccursIn q q
  | head {p : Pattern} {head middle tail} : p ∈ head → OccursIn q p →
    OccursIn q (.seq head middle tail)
  | middle {r : Pattern} {head tail} : OccursIn q r → OccursIn q (.seq head (some r) tail)
  | tail {p : Pattern} {head middle tail} : p ∈ tail → OccursIn q p →
    OccursIn q (.seq head middle tail)
  | entry {e : Value × Pattern} {entries : Assoc Value Pattern} {exact required} :
    e ∈ entries.entries → OccursIn q e.2 → OccursIn q (.map entries exact required)
  | opt {inner : Pattern} : OccursIn q inner → OccursIn q (.opt inner)
  | and {p : Pattern} {items} : p ∈ items → OccursIn q p → OccursIn q (.and items)
  | or {p : Pattern} {items} : p ∈ items → OccursIn q p → OccursIn q (.or items)
  | origin {origin : Pattern} {slots code source} : OccursIn q origin →
    OccursIn q (.compiled origin slots code source)

namespace Value

/-- `w.PartOf v`: the value `w` is reached from `v` through items and values of entries. -/
inductive PartOf (w : Value) : Value → Prop
  | self : PartOf w w
  | item {v : Value} {items : List Value} : v ∈ items → PartOf w v → PartOf w (.seq items)
  | entry {e : Value × Value} {m : ValueMap} : e ∈ m.entries → PartOf w e.2 → PartOf w (.map m)

/-- A part of the value, or the sequence of some consecutive items of a part. -/
def Within (w v : Value) : Prop :=
  w.PartOf v ∨ ∃ run items, w = .seq run ∧ run <:+: items ∧ PartOf (.seq items) v

namespace Within

variable {w : Value}

theorem refl (v : Value) : v.Within v :=
  .inl .self

/-- What lies within an item lies within the sequence. -/
theorem of_item {v : Value} {items : List Value} (hv : v ∈ items) (h : w.Within v) :
    w.Within (.seq items) := by
  rcases h with hpart | ⟨run, items', rfl, hrun, hpart⟩
  · exact .inl (.item hv hpart)
  · exact .inr ⟨run, items', rfl, hrun, .item hv hpart⟩

/-- What lies within the value of an entry lies within the map. -/
theorem of_entry {e : Value × Value} {m : ValueMap} (he : e ∈ m.entries) (h : w.Within e.2) :
    w.Within (.map m) := by
  rcases h with hpart | ⟨run, items, rfl, hrun, hpart⟩
  · exact .inl (.entry he hpart)
  · exact .inr ⟨run, items, rfl, hrun, .entry he hpart⟩

/-- A run of items has nothing in it that the sequence it was taken from has not. -/
theorem of_run {run items : List Value} (hrun : run <:+: items) (h : w.Within (.seq run)) :
    w.Within (.seq items) := by
  -- what lies within the run is the run, or in one of its items, or a run of either
  rcases h with hpart | ⟨run', items', rfl, hrun', hpart⟩
  · cases hpart with
    | self => exact .inr ⟨run, items, rfl, hrun, .self⟩
    | item hv hw => exact .inl (.item (hrun.subset hv) hw)
  · cases hpart with
    | self => exact .inr ⟨run', items, rfl, hrun'.trans hrun, .self⟩
    | item hv hpart => exact .inr ⟨run', items', rfl, hrun', .item (hrun.subset hv) hpart⟩

end Within

end Value

end StructMatch
