import StructMatch.Pattern.Error

/-!
# Patterns from plain data

Plain data stands for the pattern of its own shape. Items of a sequence become items of a sequence
pattern, the one with the rest flag taking the rest slot; entries of a map become entries of a map
pattern; a scalar becomes a literal. Patterns and literals can be mixed in anywhere.

A map may have the reserved key `exact`. It makes no entry: it says whether the map pattern is
exact, by the truth of a plain value or, with anything else under it, always. What stands under it
is not built, and the last one decides.

Parts are built from left to right, and the first error is the error of the whole
(`Plain.build`).
-/

namespace StructMatch

/-- A key of a plain map. -/
inductive PlainKey where
  | value (key : Value)
  | exact

/-- Plain data with patterns and literals mixed in. -/
inductive Plain where
  | pattern (p : Pattern)
  | seq (items : List Plain)
  | map (entries : List (PlainKey × Plain))
  | value (v : Value)
  | literal (lit : Literal)

instance : Inhabited Plain := ⟨.value .nil⟩

namespace Pattern

/-- The sequence pattern of built items. At most one may have the rest flag; it takes the rest slot,
between the items before it and those after it. -/
def ofItems (items : List Pattern) : Except PatternError Pattern :=
  let count := items.countP isRest
  if 1 < count then
    .error (.multipleRest count)
  else
    match items.dropWhile (fun p => !p.isRest) with
    | [] => sequence items none []
    | r :: tail => sequence (items.takeWhile fun p => !p.isRest) (some r) tail

end Pattern

namespace Value

mutual

/-- The pattern that a value stands for. -/
def toPattern : Value → Except PatternError Pattern
  | .seq items => do Pattern.ofItems (← toPatterns items)
  | .map ⟨entries⟩ => return .mapping (← toEntries entries) false
  | v => .ok (.literal (.value v))
termination_by structural v => v

/-- The patterns that several values stand for. -/
def toPatterns : List Value → Except PatternError (List Pattern)
  | [] => .ok []
  | v :: vs => do
    let p ← toPattern v
    return p :: (← toPatterns vs)
termination_by structural vs => vs

/-- The pattern entries that the entries of a map stand for. -/
def toEntries : List (Value × Value) → Except PatternError (List (Value × Pattern))
  | [] => .ok []
  | (k, v) :: rest => do
    let p ← toPattern v
    return (k, p) :: (← toEntries rest)
termination_by structural es => es

end

end Value

namespace Plain

/-- Whether a map is exact, by what stands under the reserved key. -/
def asExact : Plain → Bool
  | .value v => v.isTruthy
  | _ => true

/-- The last word on whether a map is exact. -/
def isExact (entries : List (PlainKey × Plain)) : Bool :=
  entries.foldl (fun exact e => match e.1 with
    | .exact => e.2.asExact
    | .value _ => exact) false

mutual

/-- The pattern that plain data stands for. -/
def build : Plain → Except PatternError Pattern
  | .pattern p => .ok p
  | .seq items => do Pattern.ofItems (← buildAll items)
  | .map entries => return .mapping (← buildEntries entries) (isExact entries)
  | .value v => v.toPattern
  | .literal lit => .ok (.literal lit)
termination_by structural p => p

/-- The patterns that several items stand for. -/
def buildAll : List Plain → Except PatternError (List Pattern)
  | [] => .ok []
  | p :: ps => do
    let q ← build p
    return q :: (← buildAll ps)
termination_by structural ps => ps

/-- The pattern entries that the entries of a plain map stand for. -/
def buildEntries : List (PlainKey × Plain) → Except PatternError (List (Value × Pattern))
  | [] => .ok []
  | (.exact, _) :: rest => buildEntries rest
  | (.value k, p) :: rest => do
    let q ← build p
    return (k, q) :: (← buildEntries rest)
termination_by structural es => es

end

/-- The conjunction of the patterns that several items stand for. -/
def conjunction (items : List Plain) : Except PatternError Pattern :=
  return .and (← buildAll items)

/-- The disjunction of the patterns that several items stand for. -/
def disjunction (items : List Plain) : Except PatternError Pattern :=
  return .or (← buildAll items)

end Plain

end StructMatch
