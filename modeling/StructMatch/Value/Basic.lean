import StructMatch.Assoc
import StructMatch.Number.Basic

/-!
# Plain nested data

The subjects of matching are plain data: scalars, symbols, sequences, and maps from values to
values.

Equality of values is *structural* (`Value.equal`, the `==` of values): an integer never equals a
floating-point number, sequences are compared item by item, and maps entry by entry in order. It is
not reflexive, because a word that is not a number does not equal itself, and it does not tell the
two zeros apart. The looser comparison by numeric value belongs to literals.
-/

namespace StructMatch

/-- A plain data value. -/
inductive Value where
  | nil
  | bool (b : Bool)
  | int (n : Int64)
  | float (x : Binary64)
  | str (text : String)
  | sym (name : String)
  | seq (items : List Value)
  | map (entries : Assoc Value Value)

/-- The forms a value can have. -/
inductive ValueKind where
  | nil
  | bool
  | int
  | float
  | str
  | sym
  | seq
  | map
deriving DecidableEq, Repr, Inhabited

/-- The value that holds a number. -/
def Number.toValue : Number → Value
  | .int n => .int n
  | .float x => .float x

namespace Value

instance : Inhabited Value := ⟨.nil⟩

/-- The form of a value. -/
def kind : Value → ValueKind
  | .nil => .nil
  | .bool _ => .bool
  | .int _ => .int
  | .float _ => .float
  | .str _ => .str
  | .sym _ => .sym
  | .seq _ => .seq
  | .map _ => .map

/-- Everything but `nil` and `false` counts as true. -/
def isTruthy : Value → Bool
  | .nil => false
  | .bool b => b
  | _ => true

/-- The items of a sequence. -/
def items? : Value → Option (List Value)
  | .seq items => some items
  | _ => none

/-- The map held by a value. -/
def map? : Value → Option (Assoc Value Value)
  | .map m => some m
  | _ => none

/-- The number held by a value. -/
def number? : Value → Option Number
  | .int n => some (.int n)
  | .float x => some (.float x)
  | _ => none

/-- The order of the numbers that two values hold; none when a side holds no number, or a word that
is not one. -/
def compareNumbers? (a b : Value) : Option Ordering :=
  match a.number?, b.number? with
  | some x, some y => x.compare? y
  | _, _ => none

/-! ### Structural equality -/

mutual

/-- Structural equality of two values. -/
def equal : Value → Value → Bool
  | .nil, .nil => true
  | .bool a, .bool b => a == b
  | .int a, .int b => a == b
  | .float a, .float b => a.equal b
  | .str a, .str b => a == b
  | .sym a, .sym b => a == b
  | .seq xs, .seq ys => equalAll xs ys
  | .map ⟨xs⟩, .map ⟨ys⟩ => equalEntries xs ys
  | _, _ => false
termination_by structural v => v

/-- Structural equality item by item. -/
def equalAll : List Value → List Value → Bool
  | [], [] => true
  | x :: xs, y :: ys => equal x y && equalAll xs ys
  | _, _ => false
termination_by structural vs => vs

/-- Structural equality entry by entry, keys and values alike. -/
def equalEntries : List (Value × Value) → List (Value × Value) → Bool
  | [], [] => true
  | (k, v) :: xs, (l, w) :: ys => equal k l && equal v w && equalEntries xs ys
  | _, _ => false
termination_by structural es => es

end

instance : BEq Value := ⟨equal⟩

end Value

/-- Maps of plain data. -/
abbrev ValueMap := Assoc Value Value

end StructMatch
