import StructMatch.Value.Basic
import StructMatch.Text.Quoted

/-!
# Capture keys

A capture is kept under a key: a position or a name. Positions come first in the order of keys, by
their signed value, and names follow in the order of their code points, which is also the order of
their UTF-8 bytes.
-/

namespace StructMatch

/-- The key of a capture. -/
inductive Key where
  | index (position : Int64)
  | name (text : String)
deriving DecidableEq, Hashable, Repr, Inhabited

namespace Key

/-- Positions by signed value, then names by code points. -/
def compare : Key → Key → Ordering
  | .index a, .index b => Ord.compare a b
  | .index _, .name _ => .lt
  | .name _, .index _ => .gt
  | .name a, .name b => Ord.compare a b

instance : Ord Key := ⟨compare⟩

/-- The key a value stands for: only integers and symbols name a capture. -/
def ofValue? : Value → Option Key
  | .int n => some (.index n)
  | .sym text => some (.name text)
  | _ => none

/-- The short text of a key; a name follows a colon. -/
def render : Key → String
  | .index position => toString position.toInt
  | .name text => ":" ++ text

/-- The text of a key that names its form. -/
def inspect : Key → String
  | .index position => "Index(" ++ toString position.toInt ++ ")"
  | .name text => "Name(" ++ Text.quote text ++ ")"

instance : ToString Key := ⟨render⟩

end Key

end StructMatch
