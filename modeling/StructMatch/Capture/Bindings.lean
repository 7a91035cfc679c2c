import Std.Data.HashMap
import StructMatch.Capture.Key

/-!
# The captures of a match

Executing a pattern binds keys to parts of the subject. The bindings stand in a hash table; a later
binding of a key replaces the earlier one. Nothing ever removes a binding: what a part of a pattern
has bound before another part failed stays bound.

The table has no order of its own. The bindings are sorted by their keys when they are listed, so
the list does not depend on the order in which the table hands them out.

Two sets of captures are equal when they bind the same keys to structurally equal values, so
captures that hold a word that is not a number do not even equal themselves.
-/

namespace StructMatch

/-- Values bound under keys. -/
structure Captures where
  bindings : Std.HashMap Key Value

namespace Captures

/-- Nothing is bound. -/
def empty : Captures := ⟨∅⟩

instance : Inhabited Captures := ⟨empty⟩

/-- Bind `value` under `key`, replacing an earlier binding. -/
def set (c : Captures) (key : Key) (value : Value) : Captures :=
  ⟨c.bindings.insert key value⟩

/-- The value bound under `key`. -/
def get? (c : Captures) (key : Key) : Option Value :=
  c.bindings[key]?

/-- The value bound under `key`, `nil` when there is none. -/
def getD (c : Captures) (key : Key) : Value :=
  (c.get? key).getD .nil

/-- Something is bound under `key`. -/
def contains (c : Captures) (key : Key) : Bool :=
  c.bindings.contains key

/-- The number of bound keys. -/
def size (c : Captures) : Nat :=
  c.bindings.size

/-- Nothing is bound. -/
def isEmpty (c : Captures) : Bool :=
  c.bindings.isEmpty

/-- The key of the first binding does not come after that of the second. -/
def inOrder (a b : Key × Value) : Bool :=
  (Key.compare a.1 b.1).isLE

/-- The bindings, sorted by their keys. -/
def toList (c : Captures) : List (Key × Value) :=
  c.bindings.toList.mergeSort inOrder

/-- Bind a list of keys one after another, the first one first. -/
def ofList (pairs : List (Key × Value)) : Captures :=
  pairs.foldl (fun c p => c.set p.1 p.2) empty

/-- The same keys are bound, to structurally equal values. -/
def equal (c d : Captures) : Bool :=
  c.size == d.size && c.bindings.all fun key value =>
    match d.get? key with
    | some other => value == other
    | none => false

instance : BEq Captures := ⟨equal⟩

end Captures

end StructMatch
