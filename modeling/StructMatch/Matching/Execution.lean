import StructMatch.Pattern.Basic

/-!
# Executing patterns

`Pattern.execute` tests a subject and binds captures on the way. The order of its effects is part of
its meaning:

* in a sequence, the head from left to right, then the tail from left to right, then the rest slot
  on the sequence of the items between them; a rest slot with a bare marker is not executed at all;
* in a map, the entries in their own order, whatever the order of the subject;
* in a conjunction, the items up to the first that fails, and in a disjunction up to the first that
  matches.

A failure undoes nothing: what was bound before it stays bound.
-/

namespace StructMatch

namespace Pattern

/-- A subject has enough entries for a map pattern and, if the pattern is exact, no key besides
those of the pattern. -/
def mapFits (entries : Assoc Value Pattern) (exact : Bool) (required : Nat) (m : ValueMap) : Bool :=
  required ≤ m.size && (!exact || m.keys.all entries.contains)

mutual

/-- Test a subject. -/
def execute : Pattern → Value → MatchM Bool
  | .literal lit, v => lit.test v
  | .any, _ => return true
  | .rest, _ => return true
  | .named key, v => do
    MatchM.bindCapture key v
    return true
  | .seq head middle tail, v => do
    match v with
    | .seq items =>
      if sizeFits middle.isSome (leastLength head tail) items.length then
        let tailStart ← MatchM.remaining items.length tail.length
        if ← executeEach head items then
          if ← executeEach tail (← MatchM.slice items tailStart items.length) then
            match middle with
            | none => return true
            | some .any => return true
            | some .rest => return true
            | some r => execute r (.seq (← MatchM.slice items head.length tailStart))
          else return false
        else return false
      else return false
    | _ => return false
  | .map ⟨entries⟩ exact required, v => do
    match v with
    | .map m =>
      if mapFits ⟨entries⟩ exact required m then executeEntries entries m else return false
    | _ => return false
  | .opt inner, v => execute inner v
  | .and items, v => executeAll items v
  | .or items, v => executeAny items v
  | .compiled _ slots code _, v =>
    match code with
    | none => return true
    | some c => c.run (fun i w => executeSlot slots slots.length i i w) v
termination_by structural p => p

/-- Test items against patterns pairwise, up to the first failure. -/
def executeEach : List Pattern → List Value → MatchM Bool
  | p :: ps, v :: vs => do
    if ← execute p v then executeEach ps vs else return false
  | _, _ => return true
termination_by structural ps => ps

/-- Look up the keys of entries and test the values found, up to the first failure. -/
def executeEntries : List (Value × Pattern) → ValueMap → MatchM Bool
  | [], _ => return true
  | (k, p) :: others, m => do
    let ok ← match m.get? k with
      | some v => execute p v
      | none => pure p.isOpt
    if ok then executeEntries others m else return false
termination_by structural es => es

/-- Test one subject against every pattern, up to the first failure. -/
def executeAll : List Pattern → Value → MatchM Bool
  | [], _ => return true
  | p :: ps, v => do
    if ← execute p v then executeAll ps v else return false
termination_by structural ps => ps

/-- Test one subject against patterns, up to the first that matches. -/
def executeAny : List Pattern → Value → MatchM Bool
  | [], _ => return false
  | p :: ps, v => do
    if ← execute p v then return true else executeAny ps v
termination_by structural ps => ps

/-- Test a subject against the slot `left` places further on; `position` and `size` are named by the
fault when there is no such slot. -/
def executeSlot : List (Slot Pattern) → Nat → Nat → Nat → Value → MatchM Bool
  | [], size, position, _, _ => throw (.slot position size)
  | .literal lit :: _, _, _, 0, v => lit.test v
  | .fallback p :: _, _, _, 0, v => execute p v
  | _ :: others, size, position, left + 1, v =>
    executeSlot others size position left v
termination_by structural ss => ss

end

/-- Execute a pattern over given captures. -/
def run (p : Pattern) (v : Value) (captures : Captures) : Except Fault (Bool × MatchState) :=
  (p.execute v).run (.start captures)

/-- The captures of a match from a fresh start; none when the pattern does not match. -/
def matches? (p : Pattern) (v : Value) : Except Fault (Option Captures) := do
  let (ok, s) ← p.run v .empty
  return if ok then some s.captures else none

end Pattern

end StructMatch
