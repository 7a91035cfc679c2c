import StructMatch.Capture.Bindings
import StructMatch.Literal.Basic

/-!
# What an execution carries along

Executing a pattern reads a subject and has two kinds of effect: it binds captures, and it calls the
predicates given by the user. `MatchState` holds the captures as they stand and all effects in the
order in which they came about; `MatchM` is the monad of executions.

Items and slices of a sequence, and the slots of a program, are taken by position. A position out of
range is a `Fault`, which stops the execution; that no pattern that can be built runs into one is a
fact to be proved, not a default to be returned.
-/

namespace StructMatch

/-- A position that does not exist. -/
inductive Fault where
  | length (whole part : Nat)
  | item (position length : Nat)
  | slice (start stop length : Nat)
  | slot (position size : Nat)
deriving DecidableEq, Repr, Inhabited

/-- One call of a predicate: the predicate and the value it was given. -/
structure Call where
  predicate : Predicate
  subject : Value

/-- The label of the predicate that was called. -/
def Call.label (c : Call) : String :=
  c.predicate.label

/-- An effect of an execution: a capture bound, or a predicate called. -/
inductive Effect where
  | bound (key : Key) (value : Value)
  | called (call : Call)

/-- The call that an effect is. -/
def Effect.call? : Effect → Option Call
  | .bound _ _ => none
  | .called call => some call

/-- The captures as they stand, and the effects so far. -/
structure MatchState where
  captures : Captures
  effects : List Effect

namespace MatchState

/-- The predicate calls made so far. -/
def calls (s : MatchState) : List Call :=
  s.effects.filterMap Effect.call?

/-- The state before any effect, over the given captures. -/
def start (captures : Captures) : MatchState := ⟨captures, []⟩

instance : Inhabited MatchState := ⟨start .empty⟩

end MatchState

/-- Executions: they change the state and may run into a fault. -/
abbrev MatchM := StateT MatchState (Except Fault)

namespace MatchM

/-- Bind a capture. -/
def bindCapture (key : Key) (value : Value) : MatchM Unit :=
  modify fun s => ⟨s.captures.set key value, s.effects ++ [.bound key value]⟩

/-- Note a call of a predicate. -/
def noteCall (call : Call) : MatchM Unit :=
  modify fun s => { s with effects := s.effects ++ [.called call] }

/-- The item at a position. -/
def item (items : List Value) (position : Nat) : MatchM Value :=
  match items[position]? with
  | some v => return v
  | none => throw (.item position items.length)

/-- The items from `start` up to, and not including, `stop`. -/
def slice (items : List Value) (start stop : Nat) : MatchM (List Value) :=
  if start ≤ stop ∧ stop ≤ items.length then
    return (items.take stop).drop start
  else
    throw (.slice start stop items.length)

/-- What is left of a length when a part of it is taken away. -/
def remaining (whole part : Nat) : MatchM Nat :=
  if part ≤ whole then return whole - part else throw (.length whole part)

end MatchM

/-- A sequence of `length` items fits a pattern that names `named` of them: exactly as many without
a rest slot, at least as many with one. -/
def sizeFits (hasRest : Bool) (named length : Nat) : Bool :=
  if hasRest then named ≤ length else named == length

/-- Test a literal. Calling a predicate leaves a note. -/
def Literal.test (lit : Literal) (v : Value) : MatchM Bool := do
  match lit with
  | .predicate p => MatchM.noteCall ⟨p, v⟩
  | _ => pure ()
  return lit.accepts v

end StructMatch
