import StructMatch.Proofs.Matching.Runs
import StructMatch.Proofs.Rule.Specializing

/-!
# The arm that answers

A rule tries its arms on one state, so an arm is executed on whatever the arms before it have left
behind. Which arm answers can be said without that state: it is the first arm whose pattern matches
on a fresh start. The two accounts agree because the captures a pattern is given never influence
whether it matches, and this is the only thing that has to be known about patterns.

The rest is about the search. One arm that fails hands its state on, and one that succeeds ends the
search (`tryArms_of_fails`, `tryArms_of_succeeds`); a run of failing arms hands on the state that
executing their patterns in order ends in (`tryArms_append`). The theorem
`first_fresh_match_answers` splits the arms of a rule at the first that matches and says what the
answer is made of.

The patterns of a rule are constructible if those mixed into its definition are, whether the
definition is strict or lenient (`constructible_of_define`, `constructible_of_defineLeniently`).
-/

namespace StructMatch

namespace Pattern

/-- Execute patterns on one subject, one after another on one state, whatever they return. -/
def executeInTurn (ps : List Pattern) (v : Value) : MatchM (List Bool) :=
  ps.mapM fun p => p.execute v

/-- Patterns that all fail, executed in turn, add their effects to the state. -/
theorem run_executeInTurn_of_fail {ps : List Pattern} {v : Value}
    (h : ∀ p ∈ ps, p.Constructible) (hfail : ∀ p ∈ ps, (p.outcome v).ok = false) (s : MatchState) :
    (executeInTurn ps v).run s
      = .ok (List.replicate ps.length false,
          s.after (ps.flatMap fun p => (p.outcome v).effects)) := by
  -- each of them does what its outcome says, on the state that it is given
  have hyields : Yields (executeInTurn ps v) (ps.map fun p => (p.outcome v).ok)
      (ps.flatMap fun p => (p.outcome v).effects) :=
    yields_mapM fun p hp => (h p hp).realizes v
  have hverdicts : ps.map (fun p => (p.outcome v).ok) = List.replicate ps.length false :=
    List.map_eq_replicate_iff.mpr hfail
  rw [hyields s, hverdicts]

end Pattern

namespace Rule

variable {ρ γ : Type}

/-! ### The search -/

section Search

variable {v : Value} (context : γ) {arm : Arm ρ γ} {s s' : MatchState}

/-- An arm that fails hands its state on. -/
theorem tryArms_of_fails (h : (arm.pattern.execute v).run s = .ok (false, s'))
    (others : List (Arm ρ γ)) :
    (tryArms v context (arm :: others)).run s = (tryArms v context others).run s' := by
  rw [tryArms, StateT.run_bind, h]
  rfl

/-- An arm that succeeds answers. -/
theorem tryArms_of_succeeds (h : (arm.pattern.execute v).run s = .ok (true, s'))
    (others : List (Arm ρ γ)) :
    (tryArms v context (arm :: others)).run s
      = .ok (some (arm.action s'.captures context), s') := by
  rw [tryArms, StateT.run_bind, h]
  rfl

/-- Arms that fail, executed in order, hand on the state in which they end. -/
theorem tryArms_append {failed : List (Arm ρ γ)}
    (h : (Pattern.executeInTurn (failed.map Arm.pattern) v).run s
      = .ok (List.replicate failed.length false, s')) (others : List (Arm ρ γ)) :
    (tryArms v context (failed ++ others)).run s = (tryArms v context others).run s' := by
  induction failed generalizing s with
  | nil =>
    obtain ⟨-, rfl⟩ := Prod.mk.inj (Except.ok.inj h)
    rfl
  | cons arm failed ih =>
    -- the first arm has failed, and its state is the one the others start from
    rw [List.map_cons, Pattern.executeInTurn, List.mapM_cons, StateT.run_bind] at h
    obtain ⟨⟨ok, s₁⟩, hfirst, hrest⟩ := exists_of_bind_eq_ok h
    rw [StateT.run_bind] at hrest
    obtain ⟨⟨oks, s₂⟩, hothers, heq⟩ := exists_of_bind_eq_ok hrest
    obtain ⟨hverdicts, rfl⟩ := Prod.mk.inj (Except.ok.inj heq)
    obtain ⟨rfl, rfl⟩ := List.cons.inj hverdicts
    rw [List.cons_append, tryArms_of_fails context hfirst]
    exact ih hothers

end Search

/-! ### Patterns of defined rules -/

/-- The pattern that is stored for constructible plain data is constructible. -/
theorem constructible_of_patternOf {options : Options} {plain : Plain} {p : Pattern}
    (hplain : plain.Constructible) (hp : patternOf options plain = .ok p) : p.Constructible := by
  obtain ⟨q, hq, hstored⟩ := exists_of_bind_eq_ok hp
  have hbuilt : q.Constructible := hplain.build hq
  cases hoption : options.specialize with
  -- the program of a constructible pattern is constructible
  | true =>
    rw [hoption] at hstored
    exact hbuilt.specialized hstored
  | false =>
    rw [hoption] at hstored
    obtain rfl := Except.ok.inj hstored
    exact hbuilt

/-- A step keeps the patterns of a rule constructible. -/
theorem constructible_of_step {options : Options} {r r' : Rule ρ γ} {s : RuleStep ρ γ}
    (hr : ∀ p ∈ r.patterns, p.Constructible)
    (hs : ∀ plain action, s = .register plain action → plain.Constructible)
    (h : step options r s = .ok r') : ∀ p ∈ r'.patterns, p.Constructible := by
  cases s with
  -- one pattern is added behind the ones the rule had
  | register plain action =>
    obtain ⟨p, hp, heq⟩ := exists_of_bind_eq_ok h
    obtain rfl := Except.ok.inj heq
    have hstored : p.Constructible := constructible_of_patternOf (hs plain action rfl) hp
    rw [patterns, List.map_append]
    exact List.forall_mem_append.mpr ⟨hr, List.forall_mem_singleton.mpr hstored⟩
  | setDefault action =>
    obtain rfl := Except.ok.inj h
    exact hr

section Definitions

variable {options : Options} {steps : List (RuleStep ρ γ)}
  (h : ∀ plain action, .register plain action ∈ steps → plain.Constructible)
include h

/-- The patterns of a rule with a strict definition are constructible. -/
theorem constructible_of_define {r : Rule ρ γ} (hr : define options steps = .ok r) :
    ∀ p ∈ r.patterns, p.Constructible := by
  -- the invariant is about any rule that the steps start from
  suffices hrun : ∀ r₀ : Rule ρ γ, (∀ p ∈ r₀.patterns, p.Constructible) →
      steps.foldlM (step options) r₀ = .ok r → ∀ p ∈ r.patterns, p.Constructible from
    hrun empty nofun hr
  clear hr
  induction steps with
  | nil =>
    intro r₀ hr₀ heq
    obtain rfl := Except.ok.inj heq
    exact hr₀
  | cons s steps ih =>
    intro r₀ hr₀ heq
    rw [List.foldlM_cons] at heq
    obtain ⟨r₁, hstep, hrest⟩ := exists_of_bind_eq_ok heq
    have hr₁ : ∀ p ∈ r₁.patterns, p.Constructible := by
      refine constructible_of_step hr₀ ?_ hstep
      rintro plain action rfl
      exact h plain action List.mem_cons_self
    exact ih (fun plain action hmem => h plain action (List.mem_cons_of_mem s hmem)) r₁ hr₁ hrest

/-- The patterns of a rule with a lenient definition are constructible. -/
theorem constructible_of_defineLeniently :
    ∀ p ∈ (defineLeniently options steps).patterns, p.Constructible := by
  have hempty : ∀ p ∈ (empty : Rule ρ γ).patterns, p.Constructible := nofun
  refine List.foldlRecOn steps _ (motive := fun r : Rule ρ γ => ∀ p ∈ r.patterns, p.Constructible)
    hempty ?_
  intro r hr s hs
  -- a step that fails leaves the rule as it is
  split
  · next r' hstep =>
    refine constructible_of_step hr ?_ hstep
    rintro plain action rfl
    exact h plain action hs
  · exact hr

end Definitions

/-! ### The answer -/

/-- The arm at position `i` answers. It is the first whose pattern matches on a fresh start; the
patterns of the arms before it are executed in order on one state that starts out empty, and fail;
its own pattern is executed on what they have left, and succeeds; and its action is given the
captures of that state. -/
structure AnsweredBy (r : Rule ρ γ) (v : Value) (context : γ) (i : Nat) (arm : Arm ρ γ)
    (fresh : Captures) (before after : MatchState) : Prop where
  arm_eq : r.arms[i]? = some arm
  fresh_eq : arm.pattern.matches? v = .ok (some fresh)
  least : ∀ j < i, ∀ p, r.patterns[j]? = some p → p.matches? v = .ok none
  before_eq : (Pattern.executeInTurn (r.patterns.take i) v).run (.start .empty)
    = .ok (List.replicate i false, before)
  after_eq : (arm.pattern.execute v).run before = .ok (true, after)
  /-- What the failed arms have written shows where the arm that answers has written nothing. -/
  captures_eq : ∀ key,
    after.captures.get? key = (fresh.get? key).or (before.captures.get? key)
  apply_eq : r.apply v context = .ok (some (arm.action after.captures context), after.calls)

/-- An arm that succeeds behind arms that fail answers. -/
theorem answeredBy_of_split {r : Rule ρ γ} (hr : ∀ p ∈ r.patterns, p.Constructible) {v : Value}
    {failed others : List (Arm ρ γ)} {arm : Arm ρ γ} (hsplit : r.arms = failed ++ arm :: others)
    (hfail : ∀ a ∈ failed, (a.pattern.outcome v).ok = false)
    (hok : (arm.pattern.outcome v).ok = true) (context : γ) :
    ∃ fresh before after, r.AnsweredBy v context failed.length arm fresh before after := by
  have hpatterns :
      r.patterns = failed.map Arm.pattern ++ arm.pattern :: others.map Arm.pattern := by
    rw [patterns, hsplit, List.map_append, List.map_cons]
  -- the patterns are split like the arms
  rw [hpatterns] at hr
  obtain ⟨hfailed, harms⟩ := List.forall_mem_append.mp hr
  have harm : arm.pattern.Constructible := (List.forall_mem_cons.mp harms).1
  have hverdicts : ∀ p ∈ failed.map Arm.pattern, (p.outcome v).ok = false :=
    List.forall_mem_map.mpr hfail
  -- the arms before this one leave their effects, and its own come on top of them
  have hbefore := Pattern.run_executeInTurn_of_fail hfailed hverdicts (.start .empty)
  rw [List.length_map] at hbefore
  generalize (MatchState.start .empty).after _ = before at hbefore
  have hafter : (arm.pattern.execute v).run before
      = .ok (true, before.after (arm.pattern.outcome v).effects) := by
    rw [← hok]
    exact harm.realizes v before
  refine ⟨Captures.empty.setAll (arm.pattern.outcome v).writes, before,
    before.after (arm.pattern.outcome v).effects, ?_⟩
  exact {
    arm_eq := by rw [hsplit, List.getElem?_append_right (Nat.le_refl _), Nat.sub_self]; rfl
    fresh_eq := harm.matches?_of_ok hok
    least := by
      intro j hj p hp
      rw [hpatterns, List.getElem?_append_left (by rwa [List.length_map])] at hp
      have hmem : p ∈ failed.map Arm.pattern := List.mem_of_getElem? hp
      exact (hfailed p hmem).matches?_of_not_ok (hverdicts p hmem)
    before_eq := by
      rw [hpatterns, List.take_left' (List.length_map _)]
      exact hbefore
    after_eq := hafter
    captures_eq := by
      -- a fresh start has the writes of this arm, and here they lie over those before them
      intro key
      rw [MatchState.after, Captures.get?_setAll, Captures.get?_setAll, Captures.get?_empty,
        Option.or_none]
      rfl
    apply_eq := by
      rw [apply, hsplit, tryArms_append context hbefore, tryArms_of_succeeds context hafter]
      rfl }

/-- **The first arm that matches on a fresh start answers.** If there is one, its action is run on
the captures that executing the arms up to it in order leaves behind, and the predicate calls are
those of these executions. If there is none, all arms are executed in this way, and the default
answers, if there is one. -/
theorem first_fresh_match_answers {r : Rule ρ γ} (hr : ∀ p ∈ r.patterns, p.Constructible)
    (v : Value) (context : γ) :
    ((∃ p ∈ r.patterns, p.MatchesFreshly v) →
      ∃ i arm fresh before after, r.AnsweredBy v context i arm fresh before after) ∧
    ((∀ p ∈ r.patterns, ¬ p.MatchesFreshly v) →
      ∃ after, (Pattern.executeInTurn r.patterns v).run (.start .empty)
          = .ok (List.replicate r.size false, after) ∧
        r.apply v context = .ok (r.fallback.map fun action => action v context, after.calls)) := by
  refine ⟨?_, ?_⟩
  · rintro ⟨p, hp, hfresh⟩
    obtain ⟨a, ha, rfl⟩ := List.mem_map.mp hp
    have hok : (a.pattern.outcome v).ok = true := ((hr _ hp).matchesFreshly_iff v).mp hfresh
    -- the first arm with an outcome that is a success is the one that answers
    have hfound : (r.arms.find? fun arm => (arm.pattern.outcome v).ok).isSome :=
      List.find?_isSome.mpr ⟨a, ha, hok⟩
    obtain ⟨arm, harm⟩ := Option.isSome_iff_exists.mp hfound
    obtain ⟨hsucceeds, failed, others, hsplit, hfail⟩ := List.find?_eq_some_iff_append.mp harm
    refine ⟨failed.length, arm, answeredBy_of_split hr hsplit ?_ hsucceeds context⟩
    intro b hb
    simpa using hfail b hb
  · intro hnone
    have hfail : ∀ p ∈ r.patterns, (p.outcome v).ok = false := by
      intro p hp
      have hnot := hnone p hp
      rw [(hr p hp).matchesFreshly_iff v] at hnot
      exact Bool.eq_false_iff.mpr hnot
    have hrun := Pattern.run_executeInTurn_of_fail hr hfail (.start .empty)
    have hsize : r.patterns.length = r.size := List.length_map _
    rw [hsize] at hrun
    -- the arms are a list of failing arms with nothing behind it
    have hsearch := tryArms_append context hrun []
    rw [List.append_nil] at hsearch
    refine ⟨_, hrun, ?_⟩
    rw [apply, hsearch]
    rfl

/-- The theorem at a rule that specializes, on a subject that leaves a capture in the first arm and
is answered by the second, and on one that no arm matches. -/
theorem first_fresh_match_answers_of_twoArms : ∃ r, define ⟨true⟩ twoArms = .ok r ∧
    (∃ i arm fresh before after,
      r.AnsweredBy (.seq [.int 7, .int 5]) () i arm fresh before after) ∧
    ∃ after, (Pattern.executeInTurn r.patterns .nil).run (.start .empty)
        = .ok (List.replicate r.size false, after) ∧
      r.apply .nil () = .ok (r.fallback.map fun action => action .nil (), after.calls) := by
  have hdefined : define ⟨true⟩ twoArms = .ok _ := rfl
  have hr := constructible_of_define constructible_of_register_mem_twoArms hdefined
  refine ⟨_, hdefined, ?_, ?_⟩
  · refine (first_fresh_match_answers hr _ ()).1 ?_
    exact ⟨_, List.mem_cons_of_mem _ List.mem_cons_self, _, rfl⟩
  · refine (first_fresh_match_answers hr _ ()).2 ?_
    -- both patterns are sequences, and the subject is none
    rintro p hp ⟨found, hfound⟩
    rcases List.mem_cons.mp hp with rfl | hp
    · exact absurd (Except.ok.inj hfound) nofun
    · obtain rfl := List.mem_singleton.mp hp
      exact absurd (Except.ok.inj hfound) nofun

end Rule

end StructMatch
