import Std.Data.HashMap
import StructMatch.Rule.Basic

/-!
# Rules by name

A cache keeps one rule for each name. The first request for a name runs the definition that comes
with it, and the rule it makes answers every later request; definitions that come later are not run.
A definition that fails leaves the name without a rule, and the next request for the name tries
again.

A name that has been requested stays known to the cache even while it has no rule. Merely looking a
name up does not make it known.

Which definitions are run is part of what a request does: `CacheM` carries the cache along together
with all runs of definitions in their order, and a request shows the runs that were made for it.
-/

namespace StructMatch

/-- A table of names, each with its rule once there is one. -/
abbrev RuleCells (ρ γ : Type) := Std.HashMap String (Option (Rule ρ γ))

/-- The names that have been requested, with their rules, and the options rules are made with. -/
structure RuleCache (ρ γ : Type) where
  options : Options
  cells : RuleCells ρ γ

/-- The definition that comes with a request. -/
abbrev Definition (ρ γ : Type) := Options → Except PatternError (Rule ρ γ)

/-- One run of a definition: what was run, and the name it was to make a rule for. -/
structure DefinitionRun (ρ γ : Type) where
  name : String
  definition : Definition ρ γ

/-- The outcome of a request: the value asked for or an error, and the definitions run for it. -/
structure Requested (ρ γ α : Type) where
  result : Except PatternError α
  runs : List (DefinitionRun ρ γ)

variable {ρ γ : Type}

namespace RuleCache

/-- A cache that knows no name. -/
def empty (options : Options) : RuleCache ρ γ := ⟨options, ∅⟩

/-- The rule kept under a name. -/
def get? (c : RuleCache ρ γ) (name : String) : Option (Rule ρ γ) :=
  c.cells[name]?.join

/-- A rule is kept under the name. -/
def contains (c : RuleCache ρ γ) (name : String) : Bool :=
  (c.get? name).isSome

/-- The number of rules kept. -/
def size (c : RuleCache ρ γ) : Nat :=
  c.cells.toList.countP (·.2.isSome)

/-- No rule is kept. -/
def isEmpty (c : RuleCache ρ γ) : Bool :=
  c.size == 0

/-- The names that have been requested, sorted. -/
def names (c : RuleCache ρ γ) : List String :=
  c.cells.keys.mergeSort (· ≤ ·)

/-- The text of a cache: its options and the names it knows. -/
def inspect (c : RuleCache ρ γ) : String :=
  "RuleCache \x7b options: " ++ c.options.inspect ++ ", names: "
    ++ Value.bracketed (c.names.map Text.quote) ++ " \x7d"

end RuleCache

/-! ### Requests -/

/-- A cache, and the runs of definitions so far. -/
structure CacheState (ρ γ : Type) where
  cache : RuleCache ρ γ
  runs : List (DefinitionRun ρ γ)

/-- Requests: they change the cache and run definitions. -/
abbrev CacheM (ρ γ : Type) := StateM (CacheState ρ γ)

namespace CacheM

/-- Change the cells of the cache. -/
def modifyCells (f : RuleCells ρ γ → RuleCells ρ γ) : CacheM ρ γ Unit :=
  modify fun s => { s with cache := { s.cache with cells := f s.cache.cells } }

/-- Run a definition for a name. The run is noted whatever comes out of it. -/
def runDefinition (name : String) (definition : Definition ρ γ) :
    CacheM ρ γ (Except PatternError (Rule ρ γ)) :=
  modifyGet fun s =>
    (definition s.cache.options, { s with runs := s.runs ++ [⟨name, definition⟩] })

/-- Run a definition for a name and keep the rule that it has made. -/
def make (name : String) (definition : Definition ρ γ) :
    CacheM ρ γ (Except PatternError (Rule ρ γ)) := do
  let made ← runDefinition name definition
  if let .ok r := made then modifyCells (·.insert name (some r))
  return made

/-- Make a name known, and give the rule that is kept under it. If there is none, it is made. -/
def rule (name : String) (definition : Definition ρ γ) :
    CacheM ρ γ (Except PatternError (Rule ρ γ)) := do
  modifyCells (·.insertIfNew name none)
  match (← get).cache.get? name with
  | some r => return .ok r
  | none => make name definition

/-- Apply the rule under a name. -/
def apply (name : String) (v : Value) (context : γ) (definition : Definition ρ γ) :
    CacheM ρ γ (Except PatternError (Except Fault (Option ρ × List Call))) := do
  let kept ← rule name definition
  return kept.map fun r => r.apply v context

end CacheM

namespace RuleCache

/-- Make one request, and note the definitions run for it. -/
def request {α : Type} (c : RuleCache ρ γ) (m : CacheM ρ γ (Except PatternError α)) :
    Requested ρ γ α × RuleCache ρ γ :=
  let (result, s) := m.run ⟨c, []⟩
  (⟨result, s.runs⟩, s.cache)

/-- Request the rule under a name. -/
def rule (c : RuleCache ρ γ) (name : String) (definition : Definition ρ γ) :
    Requested ρ γ (Rule ρ γ) × RuleCache ρ γ :=
  c.request (CacheM.rule name definition)

/-- Request the rule under a name and apply it. -/
def apply (c : RuleCache ρ γ) (name : String) (v : Value) (context : γ)
    (definition : Definition ρ γ) :
    Requested ρ γ (Except Fault (Option ρ × List Call)) × RuleCache ρ γ :=
  c.request (CacheM.apply name v context definition)

end RuleCache

end StructMatch
