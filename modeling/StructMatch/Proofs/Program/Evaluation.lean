import Mathlib.Logic.Function.Basic
import StructMatch.Matching.Execution
import StructMatch.Program.Listing
import StructMatch.Proofs.Matching.Outcome
import StructMatch.Proofs.Pattern.Building

/-!
# Evaluating listings

A listing is meant to be read as an expression of an ordinary language, with mutable variables,
assignments, and conjunctions and disjunctions that stop early. `Listing.eval` is this reading. It
knows nothing of code: positions are counted from either end of whatever sequence is in a variable,
and an expression that makes no sense, such as the length of something that is no sequence, gets
stuck.

The variables are those of a store that goes by *names*, as in the text of a listing. There are not
many names, and each is used over and over: all items of one sequence are read into the same
variable. What keeps them apart is that the name of a part is longer than the name of the whole
(`Variable.render_injective`), so that whatever is read out of a value leaves the value in place.

An evaluation `Follows` an execution on the value of a variable if it comes to the same verdict and
state and leaves all variables alone that are not parts of this one, that is, those up to its depth.
The last condition is what makes the connectives work (`Follows.andAlso`, `Follows.orElse`): the
second expression still finds the value there. Reading a part goes one level down
(`Follows.ofPart`).
-/

namespace StructMatch

namespace Listing

/-! ### Variables -/

/-- How many steps a variable is away from the subject. -/
def Variable.depth : Variable → Nat
  | .subject => 0
  | .item whole => whole.depth + 1
  | .middle whole => whole.depth + 1

/-- The last letter of the name of a variable. -/
def Variable.lastLetter : Variable → Char
  | .subject => 'j'
  | .item _ => 'm'
  | .middle _ => 'r'

/-- The name of a variable ends in the letter of its kind. -/
theorem Variable.getLast?_render (v : Variable) : v.render.toList.getLast? = some v.lastLetter := by
  cases v with
  | subject => rfl
  | item whole =>
    rw [render, renderOver, Lowered.elementName, String.toList_append, List.getLast?_append]
    rfl
  | middle whole =>
    rw [render, renderOver, Lowered.runName, String.toList_append, List.getLast?_append]
    rfl

/-- Variables of the same name are of the same kind. -/
theorem Variable.lastLetter_eq {v w : Variable} (h : v.render = w.render) :
    v.lastLetter = w.lastLetter := by
  rw [← Option.some_inj, ← getLast?_render, ← getLast?_render, h]

/-- **Different variables have different names.** -/
theorem Variable.render_injective : Function.Injective Variable.render := by
  intro v w h
  induction v generalizing w with
  | subject =>
    cases w with
    | subject => rfl
    | _ => exact absurd (Variable.lastLetter_eq h) (by simp [Variable.lastLetter])
  -- the kinds are told apart by the last letter, and the endings are cut off
  | item whole ih =>
    cases w with
    | item whole' => exact congrArg Variable.item (ih ((String.append_left_inj "_elm").mp h))
    | _ => exact absurd (Variable.lastLetter_eq h) (by simp [Variable.lastLetter])
  | middle whole ih =>
    cases w with
    | middle whole' => exact congrArg Variable.middle (ih ((String.append_left_inj "_r").mp h))
    | _ => exact absurd (Variable.lastLetter_eq h) (by simp [Variable.lastLetter])

/-- Variables by name, with the values they hold; a variable that was never assigned holds none. -/
abbrev Store := String → Option Value

/-- The variables up to a depth hold the same in both stores. -/
def Store.AgreeUpTo (depth : Nat) (s t : Store) : Prop :=
  ∀ v : Variable, v.depth ≤ depth → t v.render = s v.render

namespace Store.AgreeUpTo

variable {depth depth' : Nat} {s t u : Store}

/-- Nothing has changed in a store that was left alone. -/
theorem refl (s : Store) : AgreeUpTo depth s s :=
  fun _ _ => rfl

/-- What two changes in a row leave alone, both of them leave alone. -/
theorem trans (h : AgreeUpTo depth s t) (h' : AgreeUpTo depth t u) : AgreeUpTo depth s u :=
  fun v hv => (h' v hv).trans (h v hv)

/-- Fewer variables are left alone as well. -/
theorem mono (h : AgreeUpTo depth s t) (hle : depth' ≤ depth) : AgreeUpTo depth' s t :=
  fun v hv => h v (Nat.le_trans hv hle)

/-- A variable that is assigned is not among those that are less deep. -/
theorem update {v : Variable} (hlt : depth < v.depth) (s : Store) (w : Option Value) :
    AgreeUpTo depth s (Function.update s v.render w) := by
  intro u hu
  have hne : u.render ≠ v.render := by
    intro hname
    obtain rfl := Variable.render_injective hname
    exact absurd hlt (Nat.not_lt.mpr hu)
  show Function.update s v.render w u.render = s u.render
  rw [Function.update_of_ne hne]

end Store.AgreeUpTo

/-! ### Evaluation -/

/-- What an expression works on: variables, and the captures with the effects so far. -/
structure State where
  store : Store
  matching : MatchState

/-- Evaluations change the state, and get stuck where an expression makes no sense. -/
abbrev Evaluation := StateT State Option

namespace Evaluation

/-- The value in a variable. -/
def read (v : Variable) : Evaluation Value :=
  fun s => (s.store v.render).map fun w => (w, s)

/-- Put a value into a variable. -/
def write (v : Variable) (w : Value) : Evaluation Unit :=
  modify fun s => { s with store := Function.update s.store v.render (some w) }

/-- Change captures and effects as an execution does. -/
def perform {α : Type} (x : MatchM α) : Evaluation α := fun s =>
  match x.run s.matching with
  | .ok (a, t) => some (a, ⟨s.store, t⟩)
  | .error _ => none

/-- Both of two conditions, the second only if the first is true. -/
def andAlso (x y : Evaluation Bool) : Evaluation Bool := do
  if ← x then y else return false

/-- One of two conditions, the second only if the first is false. -/
def orElse (x y : Evaluation Bool) : Evaluation Bool := do
  if ← x then return true else y

end Evaluation

open Evaluation

/-- What is read out of a sequence. The last item is the first one from the end, and a run includes
both of its ends; it may be empty, and end just before it begins. -/
def Access.take? (items : List Value) : Access → Option Value
  | .front position => items[position]?
  | .back position =>
    if 1 ≤ position ∧ position ≤ items.length then items[items.length - position]? else none
  | .run first last =>
    if 1 ≤ last ∧ first + last ≤ items.length + 1 then
      some (.seq ((items.take (items.length + 1 - last)).drop first))
    else none

/-- Perform a step. -/
def Step.eval : Step → Evaluation Unit
  | .bind key source => do
    let w ← read source
    perform (MatchM.bindCapture key w)
  | .assign target source access => do
    match ← read source with
    | .seq items =>
      let w ← (access.take? items : Option Value)
      write target w
    | _ => failure

mutual

/-- Evaluate an expression over a table of slots. -/
def eval (table : List (Slot Pattern)) : Listing → Evaluation Bool
  | .truth => return true
  | .falsity => return false
  | .isSeq v => do
    match ← read v with
    | .seq _ => return true
    | _ => return false
  | .hasLength v orMore length => do
    match ← read v with
    | .seq items => return if orMore then length ≤ items.length else items.length = length
    | _ => failure
  | .accepts slot v => do
    match table[slot]? with
    | some (.literal lit) => do
      let w ← read v
      perform (lit.test w)
    | _ => failure
  | .executes slot v => do
    match table[slot]? with
    | some (.fallback p) => do
      let w ← read v
      perform (p.execute w)
    | _ => failure
  | .after s e => do
    s.eval
    eval table e
  | .group e => eval table e
  | .all parts => evalAll table parts
  | .any parts => evalAny table parts
  | .orTrue e => orElse (eval table e) (pure true)
termination_by structural e => e

/-- Evaluate conditions up to the first that is false. -/
def evalAll (table : List (Slot Pattern)) : List Listing → Evaluation Bool
  | [] => return true
  | e :: es => andAlso (eval table e) (evalAll table es)
termination_by structural es => es

/-- Evaluate conditions up to the first that is true. -/
def evalAny (table : List (Slot Pattern)) : List Listing → Evaluation Bool
  | [] => return false
  | e :: es => orElse (eval table e) (evalAny table es)
termination_by structural es => es

end

/-! ### Runs -/

section Runs

variable {α β : Type} {s s' : State}

/-- A run of two evaluations in a row, when that of the first is known. -/
theorem run_bind_of_run {x : Evaluation α} {a : α} (h : x.run s = some (a, s'))
    (f : α → Evaluation β) : (x >>= f).run s = (f a).run s' := by
  rw [StateT.run_bind, h]
  rfl

/-- Reading a variable that holds a value. -/
theorem run_read {v : Variable} {w : Value} (h : s.store v.render = some w) :
    (read v).run s = some (w, s) := by
  show (s.store v.render).map (fun w => (w, s)) = some (w, s)
  rw [h]
  rfl

/-- Performing an execution that comes to an end changes captures and effects, and no variables. -/
theorem run_perform {x : MatchM α} {a : α} {t : MatchState} (h : x.run s.matching = .ok (a, t)) :
    (perform x).run s = some (a, ⟨s.store, t⟩) := by
  show (match x.run s.matching with
    | .ok (a, t) => some (a, (⟨s.store, t⟩ : State))
    | .error _ => none) = some (a, ⟨s.store, t⟩)
  rw [h]

end Runs

/-! ### Executions that evaluations follow -/

/-- Started where the variable holds the value, the evaluation comes to what the execution comes to,
and it leaves alone all variables that are no deeper than this one. -/
def Follows (v : Variable) (w : Value) (x : Evaluation Bool) (m : MatchM Bool) : Prop :=
  ∀ s : State, s.store v.render = some w → ∀ ok t, m.run s.matching = .ok (ok, t) →
    ∃ store, x.run s = some (ok, ⟨store, t⟩) ∧ s.store.AgreeUpTo v.depth store

namespace Follows

variable {v : Variable} {w : Value} {x y : Evaluation Bool} {m n : MatchM Bool}

/-- A verdict without any work follows itself. -/
theorem pure (ok : Bool) : Follows v w (Pure.pure ok) (Pure.pure ok) := by
  rintro s - ok' t h
  obtain ⟨rfl, rfl⟩ := Prod.mk.inj (Except.ok.inj h)
  exact ⟨s.store, rfl, .refl _⟩

/-- Work done on the value of the variable. -/
theorem perform (f : Value → MatchM Bool) :
    Follows v w (do let u ← read v; Evaluation.perform (f u)) (f w) := by
  intro s hs ok t h
  refine ⟨s.store, ?_, .refl _⟩
  rw [run_bind_of_run (run_read hs)]
  exact run_perform h

/-- Conjunctions follow conjunctions: the first evaluation leaves the value in place for the second.
-/
theorem andAlso (hx : Follows v w x m) (hy : Follows v w y n) :
    Follows v w (Evaluation.andAlso x y) (.both m n) := by
  intro s hs ok t h
  obtain ⟨⟨ok₁, t₁⟩, hm, hn⟩ := exists_of_bind_eq_ok h
  obtain ⟨store₁, hrun, hagree⟩ := hx s hs ok₁ t₁ hm
  unfold Evaluation.andAlso
  rw [run_bind_of_run hrun]
  cases ok₁ with
  | false =>
    -- neither side looks at its second part
    obtain ⟨rfl, rfl⟩ := Prod.mk.inj (Except.ok.inj hn)
    exact ⟨store₁, rfl, hagree⟩
  | true =>
    -- the value is still where it was, so the second part finds it there
    have hs₁ : store₁ v.render = some w := (hagree v (Nat.le_refl _)).trans hs
    obtain ⟨store₂, hrun₂, hagree₂⟩ := hy ⟨store₁, t₁⟩ hs₁ ok t hn
    exact ⟨store₂, hrun₂, hagree.trans hagree₂⟩

/-- Disjunctions follow disjunctions, for the same reason. -/
theorem orElse (hx : Follows v w x m) (hy : Follows v w y n) :
    Follows v w (Evaluation.orElse x y) (.either m n) := by
  intro s hs ok t h
  obtain ⟨⟨ok₁, t₁⟩, hm, hn⟩ := exists_of_bind_eq_ok h
  obtain ⟨store₁, hrun, hagree⟩ := hx s hs ok₁ t₁ hm
  unfold Evaluation.orElse
  rw [run_bind_of_run hrun]
  cases ok₁ with
  -- the second part is not looked at
  | true =>
    obtain ⟨rfl, rfl⟩ := Prod.mk.inj (Except.ok.inj hn)
    exact ⟨store₁, rfl, hagree⟩
  -- the first part has left the value where it was
  | false =>
    have hs₁ : store₁ v.render = some w := (hagree v (Nat.le_refl _)).trans hs
    obtain ⟨store₂, hrun₂, hagree₂⟩ := hy ⟨store₁, t₁⟩ hs₁ ok t hn
    exact ⟨store₂, hrun₂, hagree.trans hagree₂⟩

/-- A condition that fails keeps the next one from being looked at. -/
theorem andAlso_of_fails (hx : Follows v w x (Pure.pure false)) (y : Evaluation Bool) :
    Follows v w (Evaluation.andAlso x y) (Pure.pure false) := by
  intro s hs ok t h
  obtain ⟨rfl, rfl⟩ := Prod.mk.inj (Except.ok.inj h)
  obtain ⟨store, hrun, hagree⟩ := hx s hs false s.matching rfl
  refine ⟨store, ?_, hagree⟩
  unfold Evaluation.andAlso
  rw [run_bind_of_run hrun]
  rfl

/-- **Reading a part.** What follows an execution on a part of a sequence follows it on the sequence
once the part has been read into a variable further down. -/
theorem ofPart {part : Variable} {items : List Value} {u : Value} {access : Access}
    (hpart : access.take? items = some u) (hdepth : v.depth < part.depth)
    (hx : Follows part u x m) :
    Follows v (.seq items) (do (Step.assign part v access).eval; x) m := by
  intro s hs ok t h
  -- the assignment finds the sequence in its variable and writes the part to another
  have hassign : (Step.assign part v access).eval.run s
      = some ((), ⟨Function.update s.store part.render (some u), s.matching⟩) := by
    rw [Step.eval, run_bind_of_run (run_read hs)]
    show (do
      let u' ← (access.take? items : Option Value)
      write part u' : Evaluation Unit).run s = _
    rw [hpart]
    rfl
  rw [run_bind_of_run hassign]
  obtain ⟨store, hrun, hagree⟩ := hx ⟨Function.update s.store part.render (some u), s.matching⟩
    (Function.update_self ..) ok t h
  -- what is done to the part happens further down, and so does reading it
  refine ⟨store, hrun, ?_⟩
  exact (Store.AgreeUpTo.update hdepth s.store (some u)).trans (hagree.mono (Nat.le_of_lt hdepth))

end Follows

end Listing

end StructMatch
