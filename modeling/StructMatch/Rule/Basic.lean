import StructMatch.Matching.Execution
import StructMatch.Options
import StructMatch.Pattern.Plain
import StructMatch.Pattern.Printer
import StructMatch.Program.Lowering

/-!
# Rules

A rule is a list of arms, each a pattern with an action, and perhaps a default. Applied to a subject
it tries the arms in order; the first whose pattern matches runs its action and decides the answer.
When no arm matches the default answers, and without a default there is no answer.

All arms tried in one application share one state: an action sees the captures of its own arm over
what the arms before it have left behind.

A rule is defined by steps. A strict definition fails with the error of its first failing step; a
lenient one passes over the steps that fail.
-/

namespace StructMatch

/-- A pattern and what to do with the captures when it matches. -/
structure Arm (ρ γ : Type) where
  pattern : Pattern
  action : Captures → γ → ρ

/-- Arms in the order in which they are tried, and a default. -/
structure Rule (ρ γ : Type) where
  arms : List (Arm ρ γ)
  fallback : Option (Value → γ → ρ)

/-- A step of a definition. -/
inductive RuleStep (ρ γ : Type) where
  /-- Add an arm. -/
  | register (plain : Plain) (action : Captures → γ → ρ)
  /-- Set the default, replacing an earlier one. -/
  | setDefault (action : Value → γ → ρ)

namespace Rule

variable {ρ γ : Type}

/-- The rule without arms and without a default. -/
def empty : Rule ρ γ := ⟨[], none⟩

instance : Inhabited (Rule ρ γ) := ⟨empty⟩

/-- The number of arms. -/
def size (r : Rule ρ γ) : Nat := r.arms.length

/-- There is no arm. -/
def isEmpty (r : Rule ρ γ) : Bool := r.arms.isEmpty

/-- There is a default. -/
def hasDefault (r : Rule ρ γ) : Bool := r.fallback.isSome

/-- The patterns of the arms. -/
def patterns (r : Rule ρ γ) : List Pattern := r.arms.map (·.pattern)

/-! ### Definitions -/

/-- The pattern that is stored for plain data: built, and specialized if the options say so. -/
def patternOf (options : Options) (plain : Plain) : Except PatternError Pattern := do
  let p ← plain.build
  if options.specialize then p.specialize else return p

/-- Take one step of a definition. -/
def step (options : Options) (r : Rule ρ γ) : RuleStep ρ γ → Except PatternError (Rule ρ γ)
  | .register plain action => do
    let p ← patternOf options plain
    return { r with arms := r.arms ++ [⟨p, action⟩] }
  | .setDefault action => .ok { r with fallback := some action }

/-- The rule of a strict definition: the first failing step fails it. -/
def define (options : Options) (steps : List (RuleStep ρ γ)) : Except PatternError (Rule ρ γ) :=
  steps.foldlM (step options) empty

/-- The rule of a lenient definition: failing steps are passed over. -/
def defineLeniently (options : Options) (steps : List (RuleStep ρ γ)) : Rule ρ γ :=
  steps.foldl (fun r s => match step options r s with
    | .ok r' => r'
    | .error _ => r) empty

/-! ### Application -/

/-- Try arms in order on a shared state; the first that matches answers. -/
def tryArms (v : Value) (context : γ) : List (Arm ρ γ) → MatchM (Option ρ)
  | [] => return none
  | arm :: others => do
    if ← arm.pattern.execute v then
      return some (arm.action (← get).captures context)
    else
      tryArms v context others

/-- Apply a rule to a subject: the answer, if there is one, and the predicate calls made. -/
def apply (r : Rule ρ γ) (v : Value) (context : γ) : Except Fault (Option ρ × List Call) := do
  let (answer, s) ← (tryArms v context r.arms).run (.start .empty)
  return (answer <|> r.fallback.map fun action => action v context, s.calls)

/-! ### Rules as text -/

/-- The text of a rule: its patterns in short, and whether it has a default. -/
def inspect (r : Rule ρ γ) : String :=
  "Rule \x7b patterns: " ++ Value.bracketed (r.patterns.map fun p => Text.quote p.render)
    ++ ", actions: \"<function>\", has_default: " ++ Value.boolText r.hasDefault ++ " \x7d"

end Rule

end StructMatch
