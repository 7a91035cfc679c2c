import StructMatch.Proofs.Program.Refusal
import StructMatch.Proofs.Rule.Selection

/-!
# Rules that specialize and rules that do not

The same steps define two rules, one that keeps the patterns as they are built and one that keeps
their programs. The two are compared step by step: their arms have the same actions, and their
patterns are executed alike (`Alike`). Alike rules answer alike, since an application uses nothing
else of an arm (`Alike.answersLike`).

The two definitions can come apart in one way only. Specializing refuses a pattern with a program in
the way, and then the definition that specializes fails with an error of its own (`FollowedBy`).
-/

namespace StructMatch

/-! ### Results that follow one another -/

/-- The second result follows the first: it is related to it when the first is a success, and the
same error otherwise, unless the first had a reason of its own to fail. -/
def FollowedBy {ε α β : Type} (own : Prop) (R : α → β → Prop) : Except ε α → Except ε β → Prop
  | .ok a, .ok b => R a b
  | .error e, .error e' => own ∨ e = e'
  | .error _, .ok _ => own
  | .ok _, .error _ => False

namespace FollowedBy

variable {ε α β : Type} {own : Prop} {R : α → β → Prop} {x : Except ε α} {y : Except ε β}

/-- With a reason of its own the first may fail whatever the second does. -/
theorem of_own (h : own) (e : ε) (y : Except ε β) : FollowedBy own R (.error e) y := by
  cases y with
  | error e' => exact .inl h
  | ok b => exact h

/-- Related continuations of results that follow one another follow one another. -/
theorem bind {α' β' : Type} {S : α' → β' → Prop} {f : α → Except ε α'} {g : β → Except ε β'}
    (h : FollowedBy own R x y) (hfg : ∀ a b, R a b → FollowedBy own S (f a) (g b)) :
    FollowedBy own S (x >>= f) (y >>= g) := by
  cases x with
  | ok a =>
    cases y with
    | ok b => exact hfg a b h
    | error e => exact h.elim
  | error e =>
    cases y with
    -- whatever the second goes on to do, the first has its reason
    | ok b => exact of_own h e (g b)
    | error e' => exact h

/-- Runs through a list follow one another if each of their steps does. -/
theorem foldlM {σ : Type} {f : α → σ → Except ε α} {g : β → σ → Except ε β} {steps : List σ}
    (hstep : ∀ s ∈ steps, ∀ a b, R a b → FollowedBy own R (f a s) (g b s)) {a : α} {b : β}
    (h : R a b) : FollowedBy own R (steps.foldlM f a) (steps.foldlM g b) := by
  induction steps generalizing a b with
  | nil => exact h
  | cons s steps ih =>
    -- the first steps end in related results, from which the other steps start
    rw [List.foldlM_cons, List.foldlM_cons]
    obtain ⟨hfirst, hothers⟩ := List.forall_mem_cons.mp hstep
    exact (hfirst a b h).bind fun a' b' h' => ih hothers h'

/-- If the first succeeds, so does the second. -/
theorem exists_of_eq_ok (h : FollowedBy own R x y) {a : α} (hx : x = .ok a) :
    ∃ b, y = .ok b ∧ R a b := by
  subst hx
  cases y with
  | ok b => exact ⟨b, rfl, h⟩
  | error e => exact h.elim

/-- Without a reason of its own the first succeeds exactly when the second does. -/
theorem eq_ok_iff (h : FollowedBy own R x y) (hown : ¬ own) :
    (∃ a, x = .ok a) ↔ ∃ b, y = .ok b := by
  cases x with
  | ok a =>
    obtain ⟨b, hb, -⟩ := h.exists_of_eq_ok rfl
    exact ⟨fun _ => ⟨b, hb⟩, fun _ => ⟨a, rfl⟩⟩
  -- the first has failed without a reason of its own, so the second has failed too
  | error e =>
    cases y with
    | ok b => exact absurd h hown
    | error e' => exact ⟨nofun, nofun⟩

/-- Without a reason of its own the first has the error of the second. -/
theorem eq_error_iff (h : FollowedBy own R x y) (hown : ¬ own) (e : ε) :
    x = .error e ↔ y = .error e := by
  cases x with
  | ok a =>
    obtain ⟨b, rfl, -⟩ := h.exists_of_eq_ok rfl
    exact ⟨nofun, nofun⟩
  | error e₁ =>
    cases y with
    | ok b => exact absurd h hown
    | error e₂ =>
      obtain rfl := h.resolve_left hown
      exact ⟨fun he => congrArg _ (Except.error.inj he), fun he => congrArg _ (Except.error.inj he)⟩

end FollowedBy

/-! ### Rules that are alike -/

/-- What an application uses of an arm: how its pattern is executed, and its action. -/
def Arm.behaviour {ρ γ : Type} (arm : Arm ρ γ) : (Value → MatchM Bool) × (Captures → γ → ρ) :=
  (arm.pattern.execute, arm.action)

namespace Rule

variable {ρ γ : Type}

/-- The arms of both rules behave alike, one by one, and have outcomes; the defaults are the same.
-/
structure Alike (r r' : Rule ρ γ) : Prop where
  behaviours : r.arms.map Arm.behaviour = r'.arms.map Arm.behaviour
  outcomes : ∀ arm ∈ r.arms, arm.pattern.HasOutcome
  fallbacks : r.fallback = r'.fallback

/-- Two rules give the same answers in the same way: they have as many arms, with the same actions,
and the same default; every subject selects the same arm of both in the same state, so with the same
captures and after the same predicate calls; and applied to it they give the same answer. -/
structure AnswersLike (r r' : Rule ρ γ) : Prop where
  size : r.size = r'.size
  hasDefault : r.hasDefault = r'.hasDefault
  actions : r.arms.map (·.action) = r'.arms.map (·.action)
  fallback : r.fallback = r'.fallback
  dispatch : ∀ v, ∃ i s, r.dispatch v = .ok (i, s) ∧ r'.dispatch v = .ok (i, s)
  apply : ∀ v context, ∃ answer calls,
    r.apply v context = .ok (answer, calls) ∧ r'.apply v context = .ok (answer, calls)

/-- Arms that behave alike have the same actions. -/
theorem actions_eq {arms arms' : List (Arm ρ γ)}
    (h : arms.map Arm.behaviour = arms'.map Arm.behaviour) :
    arms.map (·.action) = arms'.map (·.action) := by
  have hsnd := congrArg (List.map Prod.snd) h
  rwa [List.map_map, List.map_map] at hsnd

/-- The search through the arms uses nothing of them but how their patterns are executed. -/
theorem select_eq {arms arms' : List (Arm ρ γ)}
    (h : arms.map Arm.behaviour = arms'.map Arm.behaviour) (v : Value) :
    select v arms = select v arms' := by
  induction arms generalizing arms' with
  | nil =>
    obtain rfl : arms' = [] := List.map_eq_nil_iff.mp h.symm
    rfl
  | cons arm others ih =>
    -- the other list starts with an arm of the same behaviour
    obtain ⟨arm', others', rfl, harm, hothers⟩ := List.map_eq_cons_iff.mp h.symm
    have hexecute : arm'.pattern.execute = arm.pattern.execute := congrArg Prod.fst harm
    rw [select, select, hexecute, ih hothers.symm]

/-- Nothing but its action is used of the arm that has been selected. -/
theorem answerOf_eq {arms arms' : List (Arm ρ γ)} (h : arms.map (·.action) = arms'.map (·.action))
    (context : γ) (selected : Option Nat) (captures : Captures) :
    answerOf arms context selected captures = answerOf arms' context selected captures := by
  cases selected with
  | none => rfl
  | some i =>
    -- the actions at this position agree
    have hi := congrArg (fun actions => actions[i]?.map (· captures context)) h
    simp only [List.getElem?_map, Option.map_map] at hi
    exact hi

/-- Rules that are alike answer alike. -/
theorem Alike.answersLike {r r' : Rule ρ γ} (h : r.Alike r') : r.AnswersLike r' := by
  have hactions := actions_eq h.behaviours
  -- the two searches are one computation, and it comes to an end
  have hdispatch : r.dispatch = r'.dispatch := by
    funext v
    rw [Rule.dispatch, Rule.dispatch, select_eq h.behaviours]
  have hselects : ∀ v, ∃ i s, r.dispatch v = .ok (i, s) := by
    intro v
    obtain ⟨i, es, hyields⟩ := exists_yields_select h.outcomes v
    exact ⟨i, _, hyields (.start .empty)⟩
  -- the answer is made of the state that the search ends in, so it is compared last
  refine ⟨?_, ?_, hactions, h.fallbacks, ?_, ?_⟩
  · have hlength := congrArg List.length h.behaviours
    rwa [List.length_map, List.length_map] at hlength
  · rw [hasDefault, hasDefault, h.fallbacks]
  · intro v
    obtain ⟨i, s, hi⟩ := hselects v
    exact ⟨i, s, hi, hdispatch ▸ hi⟩
  · intro v context
    obtain ⟨i, s, hi⟩ := hselects v
    have hi' : r'.dispatch v = .ok (i, s) := hdispatch ▸ hi
    rw [apply_eq_dispatch, apply_eq_dispatch, hi, hi', h.fallbacks]
    refine ⟨_, _, rfl, ?_⟩
    change Except.ok (answerOf r'.arms context i s.captures <|> _, s.calls) = _
    rw [← answerOf_eq hactions]

/-- Rules without arms are alike. -/
theorem alike_empty : Alike (empty : Rule ρ γ) empty :=
  ⟨rfl, nofun, rfl⟩

/-- Adding arms that behave alike. -/
theorem Alike.append {r r' : Rule ρ γ} (h : r.Alike r') {arm arm' : Arm ρ γ}
    (harm : arm.behaviour = arm'.behaviour) (houtcome : arm.pattern.HasOutcome) :
    Alike { r with arms := r.arms ++ [arm] } { r' with arms := r'.arms ++ [arm'] } := by
  refine ⟨?_, ?_, h.fallbacks⟩
  · rw [List.map_append, List.map_append, h.behaviours, List.map_singleton, List.map_singleton,
      harm]
  · intro a ha
    rcases List.mem_append.mp ha with ha | ha
    · exact h.outcomes a ha
    · obtain rfl := List.mem_singleton.mp ha
      exact houtcome

/-! ### Definitions that specialize and definitions that do not -/

/-- Some plain data of the steps are built to a pattern with a program in the way. -/
def RegistersProgramInTheWay (steps : List (RuleStep ρ γ)) : Prop :=
  ∃ plain action p, RuleStep.register plain action ∈ steps ∧ plain.build = .ok p ∧
    p.HasProgramInTheWay

/-- The pattern that is stored without specializing follows the one that is stored with it. -/
theorem patternOf_followedBy {own : Prop} {plain : Plain} (hplain : plain.Constructible)
    (hown : ∀ p, plain.build = .ok p → p.HasProgramInTheWay → own) :
    FollowedBy own (fun c p => c.execute = p.execute ∧ c.HasOutcome)
      (patternOf ⟨true⟩ plain) (patternOf ⟨false⟩ plain) := by
  unfold patternOf
  cases hbuild : plain.build with
  -- what cannot be built fails for both, with one error
  | error e => exact .inr rfl
  | ok p =>
    change FollowedBy own _ p.specialize (.ok p)
    have hp : p.Constructible := hplain.build hbuild
    -- specializing is the one thing that can go wrong on one side only
    cases hc : p.specialize with
    -- the program is executed like the pattern it is made from
    | ok c => exact ⟨funext (Pattern.execute_specialize hc), (hp.specialized hc).realizes⟩
    | error e => exact hown p hbuild (Pattern.specialize_eq_error_iff.mp hc).1

/-- One step keeps rules alike. -/
theorem step_followedBy {own : Prop} {r r' : Rule ρ γ} (h : r.Alike r') {s : RuleStep ρ γ}
    (hs : ∀ plain action, s = .register plain action → plain.Constructible ∧
      ∀ p, plain.build = .ok p → p.HasProgramInTheWay → own) :
    FollowedBy own Alike (step ⟨true⟩ r s) (step ⟨false⟩ r' s) := by
  cases s with
  -- the patterns are made first, and then each rule gets its arm
  | register plain action =>
    obtain ⟨hplain, hown⟩ := hs plain action rfl
    refine (patternOf_followedBy hplain hown).bind fun c p ⟨hexecute, houtcome⟩ => ?_
    exact h.append (Prod.ext hexecute rfl) houtcome
  -- both rules get the same default
  | setDefault action => exact ⟨h.behaviours, h.outcomes, rfl⟩

/-- The definition without specializing follows the definition with it. -/
theorem define_followedBy {steps : List (RuleStep ρ γ)}
    (h : ∀ plain action, .register plain action ∈ steps → plain.Constructible) :
    FollowedBy (RegistersProgramInTheWay steps) Alike (define ⟨true⟩ steps)
      (define ⟨false⟩ steps) := by
  -- the invariant of the steps is that the rules defined so far are alike
  refine FollowedBy.foldlM ?_ alike_empty
  rintro s hs r r' halike
  refine step_followedBy halike ?_
  rintro plain action rfl
  exact ⟨h plain action hs, fun p hp hway => ⟨plain, action, p, hs, hp, hway⟩⟩

/-- **Specializing a rule changes no answer.** If the steps define a rule that specializes, they
define one that does not, and the two give the same answers in the same way. If no registered
pattern has a program in the way, the two definitions also succeed together and fail with the same
error. -/
theorem specializing_changes_no_answer (steps : List (RuleStep ρ γ))
    (h : ∀ plain action, .register plain action ∈ steps → plain.Constructible) :
    (∀ r, define ⟨true⟩ steps = .ok r → ∃ r', define ⟨false⟩ steps = .ok r' ∧ r.AnswersLike r') ∧
    ((∀ plain action p, .register plain action ∈ steps → plain.build = .ok p →
        ¬ p.HasProgramInTheWay) →
      ((∃ r, define ⟨true⟩ steps = .ok r) ↔ ∃ r', define ⟨false⟩ steps = .ok r') ∧
      ∀ e, define ⟨true⟩ steps = .error e ↔ define ⟨false⟩ steps = .error e) := by
  have hfollowed := define_followedBy h
  refine ⟨?_, ?_⟩
  · intro r hr
    obtain ⟨r', hr', halike⟩ := hfollowed.exists_of_eq_ok hr
    exact ⟨r', hr', halike.answersLike⟩
  · intro hclear
    -- the only reason of its own is excluded here
    have hown : ¬ RegistersProgramInTheWay steps := by
      rintro ⟨plain, action, p, hmem, hp, hway⟩
      exact hclear plain action p hmem hp hway
    exact ⟨hfollowed.eq_ok_iff hown, hfollowed.eq_error_iff hown⟩

/-- Steps for two arms, the second tried on what the first has left behind, and a default. -/
def twoArms : List (RuleStep Value Unit) :=
  [.register (.seq [.pattern (.named (.index 1)), .value (.int 0)]) fun m _ => m.getD (.index 1),
    .register (.seq [.pattern .any, .pattern .rest]) fun m _ => m.getD (.index 1),
    .setDefault fun v _ => v]

theorem eq_of_register_mem_twoArms {plain : Plain} {action : Captures → Unit → Value}
    (h : .register plain action ∈ twoArms) :
    plain = .seq [.pattern (.named (.index 1)), .value (.int 0)] ∨
      plain = .seq [.pattern .any, .pattern .rest] := by
  rcases List.mem_cons.mp h with h | h
  · exact .inl (RuleStep.register.inj h).1
  · rcases List.mem_cons.mp h with h | h
    · exact .inr (RuleStep.register.inj h).1
    · exact absurd (List.mem_singleton.mp h) nofun

theorem constructible_of_register_mem_twoArms (plain : Plain) (action : Captures → Unit → Value)
    (h : .register plain action ∈ twoArms) : plain.Constructible := by
  rcases eq_of_register_mem_twoArms h with rfl | rfl
  · exact .seq (List.forall_mem_cons.mpr
      ⟨.pattern (.named _), List.forall_mem_singleton.mpr (.value _)⟩)
  · exact .seq (List.forall_mem_cons.mpr
      ⟨.pattern .any, List.forall_mem_singleton.mpr (.pattern .rest)⟩)

/-- The theorem at two arms and a default. -/
theorem specializing_changes_no_answer_of_twoArms :
    (∃ r r', define ⟨true⟩ twoArms = .ok r ∧ define ⟨false⟩ twoArms = .ok r' ∧ r.AnswersLike r') ∧
    ∀ e, define ⟨true⟩ twoArms = .error e ↔ define ⟨false⟩ twoArms = .error e := by
  obtain ⟨hok, herror⟩ :=
    specializing_changes_no_answer twoArms constructible_of_register_mem_twoArms
  obtain ⟨r', hr', halike⟩ := hok _ rfl
  refine ⟨⟨_, r', rfl, hr', halike⟩, (herror ?_).2⟩
  intro plain action p h hp hway
  rw [← Pattern.meetsProgram_iff] at hway
  rcases eq_of_register_mem_twoArms h with rfl | rfl
  · obtain rfl := Except.ok.inj hp
    exact absurd hway Bool.false_ne_true
  · obtain rfl := Except.ok.inj hp
    exact absurd hway Bool.false_ne_true

end Rule

end StructMatch
