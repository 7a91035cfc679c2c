import StructMatch.Proofs.Matching.Denotation
import StructMatch.Rule.Basic

/-!
# Which arm answers

Applying a rule does two things: it finds the first arm whose pattern matches, on a state that all
arms tried share, and it lets the action of that arm, or else the default, answer.
`Rule.dispatch` is the first half alone. It says which arm was found and what state it left, so it
holds what an answer is made of: the captures handed to the action and the predicate calls. The
second half is pure (`apply_eq_dispatch`).

When every arm has an outcome, so has the search (`exists_yields_select`): it ends without a fault,
and it ends the same way from every state.
-/

namespace StructMatch.Rule

variable {ρ γ : Type}

/-- Try arms in order on a shared state: the position of the first that matches. -/
def select (v : Value) : List (Arm ρ γ) → MatchM (Option Nat)
  | [] => return none
  | arm :: others => do
    if ← arm.pattern.execute v then return some 0
    else return (← select v others).map (· + 1)

/-- The arm of a rule that a subject selects, and the state in which it is selected. -/
def dispatch (r : Rule ρ γ) (v : Value) : Except Fault (Option Nat × MatchState) :=
  (select v r.arms).run (.start .empty)

/-- What the action of the selected arm answers. -/
def answerOf (arms : List (Arm ρ γ)) (context : γ) (selected : Option Nat) (captures : Captures) :
    Option ρ :=
  (selected.bind (arms[·]?)).map fun arm => arm.action captures context

/-! ### Application by selection -/

/-- Positions that were found among the other arms count from the second on. -/
theorem answerOf_cons_succ (arm : Arm ρ γ) (arms : List (Arm ρ γ)) (context : γ)
    (selected : Option Nat) (captures : Captures) :
    answerOf (arm :: arms) context (selected.map (· + 1)) captures
      = answerOf arms context selected captures := by
  cases selected <;> rfl

/-- Trying the arms of a rule is to search for the one that matches, and then to let it answer. -/
theorem tryArms_eq_select (v : Value) (context : γ) (arms : List (Arm ρ γ)) :
    tryArms v context arms
      = (do let i ← select v arms; return answerOf arms context i (← get).captures) := by
  induction arms with
  | nil =>
    funext s
    rfl
  | cons arm others ih =>
    unfold tryArms select
    rw [bind_assoc, ih]
    -- the first arm is executed on both sides, so only what follows its verdict has to agree
    congr 1
    funext ok
    cases ok with
    -- the first arm is selected, and its action answers
    | true => simp [answerOf]
    -- its answer is that of the other arms
    | false => simp [answerOf_cons_succ]

/-- **A rule answers by selection**: the action of the selected arm answers on the captures of that
moment, and when no arm is selected the default answers, if there is one. -/
theorem apply_eq_dispatch (r : Rule ρ γ) (v : Value) (context : γ) :
    r.apply v context = (do
      let (i, s) ← r.dispatch v
      return (answerOf r.arms context i s.captures
        <|> r.fallback.map fun action => action v context, s.calls)) := by
  unfold apply dispatch
  rw [tryArms_eq_select, StateT.run_bind, bind_assoc]
  rfl

/-! ### The search as an outcome -/

/-- The search through arms whose patterns have outcomes ends without a fault, and it ends the same
way from every state. -/
theorem exists_yields_select {arms : List (Arm ρ γ)} (h : ∀ arm ∈ arms, arm.pattern.HasOutcome)
    (v : Value) : ∃ i es, Yields (select v arms) i es := by
  induction arms with
  | nil => exact ⟨none, [], yields_pure none⟩
  | cons arm others ih =>
    obtain ⟨harm, hothers⟩ := List.forall_mem_cons.mp h
    have hfirst : Realizes (arm.pattern.execute v) (arm.pattern.outcome v) := harm v
    obtain ⟨i, es, hrest⟩ := ih hothers
    generalize arm.pattern.outcome v = o at hfirst
    obtain ⟨ok, es'⟩ := o
    -- the search goes on exactly if the first arm fails
    cases ok with
    | true => exact ⟨some 0, es' ++ [], Yields.bind hfirst (yields_pure (some 0))⟩
    | false =>
      exact ⟨i.map (· + 1), es' ++ (es ++ []),
        Yields.bind hfirst (hrest.bind (yields_pure (i.map (· + 1))))⟩

end StructMatch.Rule
