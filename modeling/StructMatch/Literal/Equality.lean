import StructMatch.Value.Basic

/-!
# Equality by numeric value

A stored value accepts a subject that is the same *up to the form of its numbers*: an integer
accepts the floating-point number of the same exact value and the other way round. Sequences are
compared item by item. Two maps agree when they have as many entries and every key of the stored map
is found in the subject with a value that agrees; the order of entries does not matter, and keys are
looked up by structural equality. Everything else is compared structurally.
-/

namespace StructMatch.Value

mutual

/-- The stored value accepts the subject. -/
def agrees : Value → Value → Bool
  | .seq xs, .seq ys => agreesAll xs ys
  | .map ⟨xs⟩, .map m => xs.length == m.size && agreesEntries xs m
  | v, w =>
    match v.number?, w.number? with
    | some a, some b => a.equal b
    | _, _ => v == w
termination_by structural v => v

/-- As many items on both sides, each stored one accepting its partner. -/
def agreesAll : List Value → List Value → Bool
  | [], [] => true
  | x :: xs, y :: ys => agrees x y && agreesAll xs ys
  | _, _ => false
termination_by structural vs => vs

/-- Every stored entry is found in the map, with a value that agrees. -/
def agreesEntries : List (Value × Value) → ValueMap → Bool
  | [], _ => true
  | (k, v) :: rest, m =>
    (match m.get? k with
      | some w => agrees v w
      | none => false) && agreesEntries rest m
termination_by structural es => es

end

end StructMatch.Value
