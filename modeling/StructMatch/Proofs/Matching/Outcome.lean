import StructMatch.Matching.State
import StructMatch.Proofs.Capture.Writes

/-!
# Outcomes of executions

An execution threads a state through a pattern, but it only ever *adds* to the state: it appends
effects, and the captures are those it found with the bindings among these effects made on top. An
`Outcome` is what is left when the state is taken away, a verdict and a list of effects, and
`Yields x a effects` says that the execution `x` returns `a` and has these effects from every state
it is started in. In particular it runs into no fault.

The executions of patterns are put together by two connectives, `MatchM.both` and `MatchM.either`,
which run their second part only if the first leaves the verdict open. They obey the laws of a
monoid each, and `Yields` takes them to `Outcome.andThen` and `Outcome.orElse`.
-/

namespace StructMatch

/-- The binding that an effect is. -/
def Effect.write? : Effect → Option (Key × Value)
  | .bound key value => some (key, value)
  | .called _ => none

namespace MatchState

/-- The state after further effects. -/
def after (s : MatchState) (effects : List Effect) : MatchState :=
  ⟨s.captures.setAll (effects.filterMap Effect.write?), s.effects ++ effects⟩

@[simp] theorem after_nil (s : MatchState) : s.after [] = s := by
  unfold after
  rw [List.filterMap_nil, Captures.setAll_nil, List.append_nil]

/-- Effects in two lots change the state as in one. A later binding of a key overwrites an earlier
one either way. -/
@[simp] theorem after_append (s : MatchState) (es es' : List Effect) :
    s.after (es ++ es') = (s.after es).after es' := by
  unfold after
  rw [List.filterMap_append, Captures.setAll_append, List.append_assoc]

/-- The captures of a run are the initial ones with its bindings made on top. -/
theorem after_start_captures (c : Captures) (es : List Effect) :
    ((start c).after es).captures = c.setAll (es.filterMap Effect.write?) := rfl

/-- A run starts without effects, so the calls of its state are its own. -/
theorem after_start_calls (c : Captures) (es : List Effect) :
    ((start c).after es).calls = es.filterMap Effect.call? := rfl

end MatchState

/-! ### The two connectives of executions -/

namespace MatchM

/-- Run the second part if the first succeeds, and fail otherwise. -/
def both (x y : MatchM Bool) : MatchM Bool := do
  if ← x then y else return false

/-- Run the second part if the first fails, and succeed otherwise. -/
def either (x y : MatchM Bool) : MatchM Bool := do
  if ← x then return true else y

/-- Branching on a verdict to return the same verdict is returning it. -/
private theorem ite_pure_eq_pure :
    (fun ok : Bool => if ok = true then (pure true : MatchM Bool) else pure false) = pure := by
  funext ok
  cases ok <;> rfl

@[simp] theorem both_true_left (y : MatchM Bool) : both (pure true) y = y := by
  simp [both]

@[simp] theorem both_false_left (y : MatchM Bool) : both (pure false) y = pure false := by
  simp [both]

/-- A part that succeeds without effects may stand last. -/
@[simp] theorem both_true_right (x : MatchM Bool) : both x (pure true) = x := by
  unfold both
  rw [ite_pure_eq_pure, bind_pure]

/-- Conjunctions may be nested either way: what comes last runs only if all before it succeeded. -/
theorem both_assoc (x y z : MatchM Bool) : both (both x y) z = both x (both y z) := by
  unfold both
  rw [bind_assoc]
  congr 1
  -- both sides run the first part; what is left depends on its verdict only
  funext ok
  cases ok <;> simp

@[simp] theorem either_true_left (y : MatchM Bool) : either (pure true) y = pure true := by
  simp [either]

@[simp] theorem either_false_left (y : MatchM Bool) : either (pure false) y = y := by
  simp [either]

/-- A part that fails without effects may stand last. -/
@[simp] theorem either_false_right (x : MatchM Bool) : either x (pure false) = x := by
  unfold either
  rw [ite_pure_eq_pure, bind_pure]

/-- Disjunctions may be nested either way: what comes last runs only if all before it failed. -/
theorem either_assoc (x y z : MatchM Bool) : either (either x y) z = either x (either y z) := by
  unfold either
  rw [bind_assoc]
  congr 1
  -- as for conjunctions
  funext ok
  cases ok <;> simp

/-- An execution whose verdict is thrown away for success. -/
theorem either_true_right (x : MatchM Bool) :
    either x (pure true) = (do let _ ← x; return true) := by
  unfold either
  congr 1
  funext ok
  cases ok <;> rfl

end MatchM

/-! ### Outcomes -/

/-- What an execution comes to, whatever state it is started in. -/
structure Outcome where
  ok : Bool
  effects : List Effect

namespace Outcome

/-- Succeed without an effect. -/
def success : Outcome := ⟨true, []⟩

/-- Fail without an effect. -/
def failure : Outcome := ⟨false, []⟩

/-- Both outcomes if the first succeeds, else the first alone. -/
def andThen (a b : Outcome) : Outcome :=
  if a.ok then ⟨b.ok, a.effects ++ b.effects⟩ else a

/-- Both outcomes if the first fails, else the first alone. -/
def orElse (a b : Outcome) : Outcome :=
  if a.ok then a else ⟨b.ok, a.effects ++ b.effects⟩

/-- The bindings made. -/
def writes (o : Outcome) : List (Key × Value) :=
  o.effects.filterMap Effect.write?

/-- The predicate calls made. -/
def calls (o : Outcome) : List Call :=
  o.effects.filterMap Effect.call?

end Outcome

/-- The effects of testing a literal: only a predicate has one, its call. -/
def Literal.effects : Literal → Value → List Effect
  | .predicate p, v => [.called ⟨p, v⟩]
  | _, _ => []

/-- The outcome of testing a literal. -/
def Literal.outcome (lit : Literal) (v : Value) : Outcome :=
  ⟨lit.accepts v, lit.effects v⟩

/-! ### Executions that yield an outcome -/

/-- From every state the execution returns `a` and has exactly the given effects. -/
def Yields {α : Type} (x : MatchM α) (a : α) (effects : List Effect) : Prop :=
  ∀ s, x.run s = .ok (a, s.after effects)

/-- From every state the execution comes to the given outcome. -/
def Realizes (x : MatchM Bool) (o : Outcome) : Prop :=
  Yields x o.ok o.effects

/-- Returning a value has no effects. -/
theorem yields_pure {α : Type} (a : α) : Yields (pure a) a [] := by
  intro s
  rw [StateT.run_pure, MatchState.after_nil]
  rfl

/-- The effects of two executions in a row follow one another. -/
theorem Yields.bind {α β : Type} {x : MatchM α} {f : α → MatchM β} {a : α} {b : β}
    {es es' : List Effect} (hx : Yields x a es) (hf : Yields (f a) b es') :
    Yields (x >>= f) b (es ++ es') := by
  intro s
  rw [StateT.run_bind, hx s, MatchState.after_append]
  -- the second execution starts where the first one ended
  exact hf (s.after es)

/-- A traversal has the effects of its steps, one after another. -/
theorem yields_mapM {α β : Type} {f : α → MatchM β} {g : α → β} {effects : α → List Effect}
    {xs : List α} (h : ∀ x ∈ xs, Yields (f x) (g x) (effects x)) :
    Yields (xs.mapM f) (xs.map g) (xs.flatMap effects) := by
  -- from every state: the hypothesis about the rest is used in the state that the first step leaves
  induction xs with
  | nil => exact yields_pure []
  | cons x xs ih =>
    obtain ⟨hx, hxs⟩ := List.forall_mem_cons.mp h
    have hall : Yields (do let y ← f x; let ys ← xs.mapM f; return y :: ys)
        (g x :: xs.map g) (effects x ++ (xs.flatMap effects ++ [])) :=
      hx.bind ((ih hxs).bind (yields_pure (g x :: xs.map g)))
    rw [List.append_nil] at hall
    rw [List.mapM_cons, List.map_cons, List.flatMap_cons]
    exact hall

/-- Binding a capture has one effect, which is the binding. -/
theorem yields_bindCapture (key : Key) (v : Value) :
    Yields (MatchM.bindCapture key v) () [.bound key v] :=
  fun _ => rfl

/-- Noting a call has one effect, which is the call. -/
theorem yields_noteCall (call : Call) : Yields (MatchM.noteCall call) () [.called call] :=
  fun _ => rfl

theorem realizes_success : Realizes (pure true) .success :=
  yields_pure true

theorem realizes_failure : Realizes (pure false) .failure :=
  yields_pure false

/-- Binding a capture always succeeds. -/
theorem realizes_bind (key : Key) (v : Value) :
    Realizes (do MatchM.bindCapture key v; return true) ⟨true, [.bound key v]⟩ :=
  (yields_bindCapture key v).bind (yields_pure true)

/-- Testing a literal comes to its outcome; a predicate is called exactly once. -/
theorem realizes_literal (lit : Literal) (v : Value) : Realizes (lit.test v) (lit.outcome v) := by
  cases lit with
  -- a predicate is noted before its verdict is returned; the others only return one
  | predicate p => exact (yields_noteCall ⟨p, v⟩).bind (yields_pure (p.test v))
  | value _ | kind _ | range _ | regex _ =>
    exact Yields.bind (f := fun _ => pure (Literal.accepts _ v)) (yields_pure ()) (yields_pure _)

/-- Outcomes follow one another as the executions do: behind a failure nothing runs. -/
theorem Realizes.both {x y : MatchM Bool} {a b : Outcome} (hx : Realizes x a) (hy : Realizes y b) :
    Realizes (.both x y) (a.andThen b) := by
  obtain ⟨ok, es⟩ := a
  cases ok with
  | true => exact Yields.bind hx hy
  | false =>
    -- the second part is not run, and what stands in its place has no effects
    have h :=
      Yields.bind (f := fun ok => if ok = true then y else pure false) hx (yields_pure false)
    rwa [List.append_nil] at h

/-- Outcomes follow one another as the executions do: behind a success nothing runs, and the effects
of a failed first part stay. -/
theorem Realizes.either {x y : MatchM Bool} {a b : Outcome} (hx : Realizes x a)
    (hy : Realizes y b) : Realizes (.either x y) (a.orElse b) := by
  obtain ⟨ok, es⟩ := a
  cases ok with
  | true =>
    -- here it is the success of the first part that leaves the second one out
    have h := Yields.bind (f := fun ok => if ok = true then pure true else y) hx (yields_pure true)
    rwa [List.append_nil] at h
  | false => exact Yields.bind hx hy

end StructMatch
