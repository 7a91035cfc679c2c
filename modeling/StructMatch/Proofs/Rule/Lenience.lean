import StructMatch.Proofs.Pattern.Crowded
import StructMatch.Rule.Basic

/-!
# Definitions with failing steps

A definition works on one rule from its first step to its last, and what a failing step leaves of
this rule matters as soon as somebody goes on after the failure. `Rule.perform` takes a step on the
rule itself, as a change of state that may fail on the way, so that there is something to say about
the state after a failure. Taking back is not part of it: a step that failed half-way through would
leave its half behind.

There is no such half. Whether a step fails is settled by the step and the options
(`Rule.failure?`), and it is settled before anything is added to the rule (`run_perform`). So what
one attempt makes of a rule can be given without mentioning failure, as adding the arm and the
default that the step stands for, if there are any (`Rule.after`). A definition that passes over
failures repeats this for all of its steps, and a strict one does the same until the first failure
(`defineLeniently_eq`, `define_eq`). Both are what the steps taken on one rule make of it
(`ofDefinition_attempt`, `ofDefinition_perform`). The comparison of the two in
`lenient_definitions_pass_over_failing_steps` rests on these descriptions.
-/

namespace StructMatch

/-- Definitions in progress: they change a rule and may fail, and a failure leaves the rule as it is
at that moment. -/
abbrev Defining (ρ γ : Type) := ExceptT PatternError (StateM (Rule ρ γ))

namespace Rule

variable {ρ γ : Type}

/-! ### Steps -/

/-- Take a step on the rule that is being defined. -/
def perform (options : Options) : RuleStep ρ γ → Defining ρ γ Unit
  | .register plain action => do
    let built ← MonadExcept.ofExcept plain.build
    let p ← if options.specialize then MonadExcept.ofExcept built.specialize else pure built
    modify fun r => { r with arms := r.arms ++ [⟨p, action⟩] }
  | .setDefault action => modify fun r => { r with fallback := some action }

/-- The error of a step: its plain data cannot be built, or what was built is to be specialized and
cannot be. Setting the default never fails. -/
def failure? (options : Options) : RuleStep ρ γ → Option PatternError
  | .register plain _ =>
    match plain.build with
    | .error e => some e
    | .ok p => if options.specialize then errorOf? p.specialize else none
  | .setDefault _ => none

/-- The arm that a step adds; none if it fails. -/
def armOf? (options : Options) : RuleStep ρ γ → Option (Arm ρ γ)
  | .register plain action => (patternOf options plain).toOption.map fun p => ⟨p, action⟩
  | .setDefault _ => none

/-- The default that a step sets. -/
def defaultOf? : RuleStep ρ γ → Option (Value → γ → ρ)
  | .register _ _ => none
  | .setDefault action => some action

/-- The rule after a step has been attempted on it. -/
def after (options : Options) (r : Rule ρ γ) (s : RuleStep ρ γ) : Rule ρ γ :=
  ⟨r.arms ++ (armOf? options s).toList, (defaultOf? s).or r.fallback⟩

/-- Registering fails exactly if there is no pattern to store. -/
theorem failure?_register (options : Options) (plain : Plain) (action : Captures → γ → ρ) :
    failure? options (.register plain action) = errorOf? (patternOf options plain) := by
  rw [failure?, patternOf]
  cases plain.build with
  -- plain data that cannot be built never come to be specialized
  | error e => rfl
  | ok p =>
    -- what was built is stored as it is, or it has one more chance to fail
    change _ = errorOf? (if options.specialize then p.specialize else pure p)
    cases options.specialize <;> rfl

/-- A step that fails adds nothing. -/
theorem after_of_failure {options : Options} {s : RuleStep ρ γ} {e : PatternError}
    (h : failure? options s = some e) (r : Rule ρ γ) : after options r s = r := by
  cases s with
  | setDefault action => cases h
  | register plain action =>
    rw [failure?_register, errorOf?_eq_some_iff] at h
    rw [after, armOf?, defaultOf?, h]
    exact congrArg (Rule.mk · r.fallback) (List.append_nil r.arms)

/-- What becomes of a step does not depend on the rule so far. -/
theorem step_eq (options : Options) (r : Rule ρ γ) (s : RuleStep ρ γ) :
    step options r s
      = match failure? options s with
        | some e => .error e
        | none => .ok (after options r s) := by
  cases s with
  | setDefault action =>
    -- no arm is added, which `after` spells as adding the empty list
    rw [step, failure?, after, armOf?, defaultOf?]
    exact congrArg (fun arms => Except.ok (Rule.mk arms _)) (List.append_nil r.arms).symm
  -- either there is a pattern, which makes the arm, or there is the error of its making
  | register plain action =>
    rw [failure?_register, step, after, armOf?, defaultOf?]
    cases patternOf options plain <;> rfl

/-- An arm is added once its pattern is there. -/
theorem perform_register (options : Options) (plain : Plain) (action : Captures → γ → ρ) :
    perform options (.register plain action) =
      (do let p ← MonadExcept.ofExcept (patternOf options plain)
          modify fun r => { r with arms := r.arms ++ [⟨p, action⟩] } : Defining ρ γ Unit) := by
  rw [perform, patternOf]
  cases plain.build with
  -- nothing is stored in this case, and so both sides end in it
  | error e => rfl
  | ok p => cases options.specialize <;> rfl

/-- **A step that fails leaves the rule exactly as it was**, and whether it fails does not depend on
the rule. -/
theorem run_perform (options : Options) (r : Rule ρ γ) (s : RuleStep ρ γ) :
    (perform options s).run.run r
      = match failure? options s with
        | some e => (.error e, r)
        | none => (.ok (), after options r s) := by
  cases s with
  | setDefault action =>
    rw [perform, failure?, after, armOf?, defaultOf?]
    exact congrArg (fun arms => (Except.ok (), Rule.mk arms _)) (List.append_nil r.arms).symm
  | register plain action =>
    rw [perform_register, failure?_register, after, armOf?, defaultOf?]
    cases patternOf options plain <;> rfl

/-! ### Runs of steps -/

/-- Attempts at several steps add the arms and set the defaults that these stand for. -/
theorem foldl_after (options : Options) (steps : List (RuleStep ρ γ)) (r : Rule ρ γ) :
    steps.foldl (after options) r
      = ⟨r.arms ++ steps.filterMap (armOf? options),
          (steps.filterMap defaultOf?).getLast?.or r.fallback⟩ := by
  induction steps generalizing r with
  | nil => exact congrArg (Rule.mk · r.fallback) (List.append_nil r.arms).symm
  | cons s steps ih =>
    rw [List.foldl_cons, ih, after]
    -- arms and default are looked at one by one
    congr 1
    · rw [List.append_assoc, List.filterMap_cons]
      cases armOf? options s <;> rfl
    · -- a default set by a later step comes first, then that of this step, then the one before
      rw [← Option.or_assoc, List.filterMap_cons]
      congr 1
      cases defaultOf? s with
      | none => exact Option.or_none
      | some action => rw [List.getLast?_cons]; cases (steps.filterMap defaultOf?).getLast? <;> rfl

/-- Leaving out steps that fail makes no difference to a run of attempts. -/
theorem foldl_after_filter (options : Options) (steps : List (RuleStep ρ γ)) (r : Rule ρ γ) :
    (steps.filter fun s => (failure? options s).isNone).foldl (after options) r
      = steps.foldl (after options) r := by
  induction steps generalizing r with
  | nil => rfl
  | cons s steps ih =>
    rw [List.filter_cons, List.foldl_cons]
    cases hs : failure? options s with
    -- this step stays, and is attempted on both sides
    | none => exact ih (after options r s)
    -- this step goes, and attempting it has done nothing
    | some e =>
      rw [after_of_failure hs]
      exact ih r

/-- A strict definition attempts its steps until one of them fails. -/
theorem foldlM_step (options : Options) (steps : List (RuleStep ρ γ)) (r : Rule ρ γ) :
    steps.foldlM (step options) r
      = match steps.findSome? (failure? options) with
        | some e => .error e
        | none => .ok (steps.foldl (after options) r) := by
  induction steps generalizing r with
  | nil => rfl
  | cons s steps ih =>
    rw [List.foldlM_cons, List.foldl_cons, List.findSome?_cons, step_eq]
    cases failure? options s with
    -- the first failure ends the definition with its error
    | some e => rfl
    -- the other steps start from what this one has made
    | none => exact ih (after options r s)

/-- A strict definition has the error of the first step that fails, and without one it is a run of
attempts. -/
theorem define_eq (options : Options) (steps : List (RuleStep ρ γ)) :
    define options steps
      = match steps.findSome? (failure? options) with
        | some e => .error e
        | none => .ok (steps.foldl (after options) empty) :=
  foldlM_step options steps empty

/-- A lenient definition attempts all of its steps. -/
theorem defineLeniently_eq (options : Options) (steps : List (RuleStep ρ γ)) :
    defineLeniently options steps = steps.foldl (after options) empty := by
  unfold defineLeniently
  congr 1
  funext r s
  rw [step_eq]
  cases hs : failure? options s with
  -- a step that does not fail is kept
  | none => rfl
  -- after a failure the rule is the one before the step, and so it is after the attempt
  | some e => exact (after_of_failure hs r).symm

/-! ### Runs on one rule -/

/-- The rule that a definition makes, starting from the empty one; none if the definition fails. -/
def ofDefinition (d : Defining ρ γ Unit) : Except PatternError (Rule ρ γ) :=
  match d.run.run empty with
  | (.ok (), r) => .ok r
  | (.error e, _) => .error e

/-- Take a step, and go on if it fails. -/
def attempt (options : Options) (s : RuleStep ρ γ) : Defining ρ γ Unit :=
  tryCatch (perform options s) fun _ => pure ()

/-- An attempt never fails. -/
theorem run_attempt (options : Options) (r : Rule ρ γ) (s : RuleStep ρ γ) :
    (attempt options s).run.run r = (.ok (), after options r s) := by
  have hrun := run_perform options r s
  cases hs : failure? options s with
  | none =>
    rw [hs] at hrun
    rw [attempt, ExceptT.run_tryCatch, StateT.run_bind, hrun]
    rfl
  -- the failure is caught, and the rule it is caught with is the one before the step
  | some e =>
    rw [hs] at hrun
    rw [attempt, ExceptT.run_tryCatch, StateT.run_bind, hrun, after_of_failure hs]
    rfl

/-- Steps taken one after another on a rule, until one of them fails. -/
theorem run_forM_perform (options : Options) (steps : List (RuleStep ρ γ)) (r : Rule ρ γ) :
    (forM steps (perform options)).run.run r
      = match steps.findSome? (failure? options) with
        | some e => (.error e, (steps.takeWhile fun s => (failure? options s).isNone).foldl
            (after options) r)
        | none => (.ok (), steps.foldl (after options) r) := by
  induction steps generalizing r with
  | nil => rfl
  | cons s steps ih =>
    rw [List.forM_cons, ExceptT.run_bind, StateT.run_bind, run_perform, List.findSome?_cons,
      List.takeWhile_cons]
    cases failure? options s with
    -- the other steps are not taken, and the rule is as it was before this one
    | some e => rfl
    | none => exact ih (after options r s)

/-- Attempts taken one after another never fail. -/
theorem run_forM_attempt (options : Options) (steps : List (RuleStep ρ γ)) (r : Rule ρ γ) :
    (forM steps (attempt options)).run.run r = (.ok (), steps.foldl (after options) r) := by
  induction steps generalizing r with
  | nil => rfl
  | cons s steps ih =>
    rw [List.forM_cons, ExceptT.run_bind, StateT.run_bind, run_attempt]
    exact ih (after options r s)

/-- A strict definition is the definition that takes the steps in order. -/
theorem ofDefinition_perform (options : Options) (steps : List (RuleStep ρ γ)) :
    ofDefinition (forM steps (perform options)) = define options steps := by
  rw [ofDefinition, run_forM_perform, define_eq]
  cases steps.findSome? (failure? options) <;> rfl

/-- A lenient definition is the definition that takes the steps in order and goes on after each
failure. -/
theorem ofDefinition_attempt (options : Options) (steps : List (RuleStep ρ γ)) :
    ofDefinition (forM steps (attempt options)) = .ok (defineLeniently options steps) := by
  rw [ofDefinition, run_forM_attempt, defineLeniently_eq]

/-! ### Strict and lenient definitions -/

/-- The arms are those of the steps that do not fail, in order. -/
theorem arms_defineLeniently (options : Options) (steps : List (RuleStep ρ γ)) :
    (defineLeniently options steps).arms = steps.filterMap (armOf? options) := by
  rw [defineLeniently_eq, foldl_after]
  exact List.nil_append _

/-- The default is the one that was set last. -/
theorem fallback_defineLeniently (options : Options) (steps : List (RuleStep ρ γ)) :
    (defineLeniently options steps).fallback = (steps.filterMap defaultOf?).getLast? := by
  rw [defineLeniently_eq, foldl_after]
  exact Option.or_none

/-- Strict definitions succeed exactly if no step fails. -/
theorem define_eq_ok_iff {options : Options} {steps : List (RuleStep ρ γ)} {r : Rule ρ γ} :
    define options steps = .ok r
      ↔ (∀ s ∈ steps, failure? options s = none) ∧ defineLeniently options steps = r := by
  rw [define_eq, defineLeniently_eq, ← List.findSome?_eq_none_iff]
  cases steps.findSome? (failure? options) with
  | none => simp
  | some e => simp

/-- Strict definitions fail with the error of the first step that fails. -/
theorem define_eq_error_iff {options : Options} {steps : List (RuleStep ρ γ)} {e : PatternError} :
    define options steps = .error e
      ↔ ∃ before s others, steps = before ++ s :: others ∧ failure? options s = some e ∧
        ∀ t ∈ before, failure? options t = none := by
  rw [define_eq, ← List.findSome?_eq_some_iff]
  cases steps.findSome? (failure? options) with
  | none => simp
  | some e' => simp

/-- Without the steps that fail, a strict definition makes what a lenient one makes with them. -/
theorem define_filter (options : Options) (steps : List (RuleStep ρ γ)) :
    define options (steps.filter fun s => (failure? options s).isNone)
      = .ok (defineLeniently options steps) := by
  refine define_eq_ok_iff.mpr ⟨?_, ?_⟩
  · intro s hs
    exact Option.isNone_iff_eq_none.mp (List.mem_filter.mp hs).2
  · rw [defineLeniently_eq, defineLeniently_eq, foldl_after_filter]

/-- **A lenient definition passes over the steps that fail, and over nothing else.** It always makes
a rule, and this is the rule that a strict definition makes from the steps that do not fail. A
strict definition of all the steps makes the same rule if no step fails, and has the error of the
first failing step otherwise. Whether a step fails is a matter of the step alone, and one that fails
leaves the rule that is being defined as it was. The arms of the rule are those of its steps, in
order, and its default is the last that was set. -/
theorem lenient_definitions_pass_over_failing_steps (options : Options)
    (steps : List (RuleStep ρ γ)) :
    ofDefinition (forM steps (attempt options)) = .ok (defineLeniently options steps) ∧
    ofDefinition (forM steps (perform options)) = define options steps ∧
    define options (steps.filter fun s => (failure? options s).isNone)
      = .ok (defineLeniently options steps) ∧
    (∀ r, define options steps = .ok r ↔
      (∀ s ∈ steps, failure? options s = none) ∧ defineLeniently options steps = r) ∧
    (∀ e, define options steps = .error e ↔
      ∃ before s others, steps = before ++ s :: others ∧ failure? options s = some e ∧
        ∀ t ∈ before, failure? options t = none) ∧
    (∀ s, ∀ r : Rule ρ γ, (perform options s).run.run r
      = match failure? options s with
        | some e => (.error e, r)
        | none => (.ok (), after options r s)) ∧
    (defineLeniently options steps).arms = steps.filterMap (armOf? options) ∧
    (defineLeniently options steps).fallback = (steps.filterMap defaultOf?).getLast? :=
  ⟨ofDefinition_attempt options steps, ofDefinition_perform options steps,
    define_filter options steps, fun _ => define_eq_ok_iff, fun _ => define_eq_error_iff,
    fun s r => run_perform options r s, arms_defineLeniently options steps,
    fallback_defineLeniently options steps⟩

/-- A step that is built and then refused, because a program stands in what it builds, adds no arm,
and the steps around it do. -/
example (action : Captures → Unit → Value) (answer : Value → Unit → Value) :
    defineLeniently ⟨true⟩ [.register (.pattern (.and [])) action, .setDefault answer,
        .register (.seq [.pattern (.compiled .any [] none "true")]) action,
        .register (.pattern (.or [])) action]
      = ⟨[⟨.compiled (.and []) [] none "true", action⟩,
          ⟨.compiled (.or []) [] (some .never) "false", action⟩], some answer⟩ := rfl

end Rule

end StructMatch
