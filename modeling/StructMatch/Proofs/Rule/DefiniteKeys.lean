import StructMatch.Proofs.Matching.DefiniteKeys
import StructMatch.Proofs.Rule.Answering

/-!
# What an action may rely on

The captures handed to an action hold what the selected arm has bound and, under the keys it has
left alone, whatever the arms before it have left behind. Under the definite keys of its pattern
an action sees nothing of those: a run that matches binds each of them to a value that the subject
settles, so they look as they do after a match from a fresh start.

Only the selected arm has to be constructible for this. The search gives away just so much that the
pattern of the arm was executed with success on some state (`exists_execute_of_select`), and the
last write of a definite key does not depend on that state.
-/

namespace StructMatch

namespace Pattern

/-- Where an execution has succeeded, the outcome is a success and its effects have been added. -/
theorem Constructible.ok_and_eq_after {p : Pattern} (hp : p.Constructible) {v : Value}
    {s s' : MatchState} (h : (p.execute v).run s = .ok (true, s')) :
    (p.outcome v).ok = true ∧ s' = s.after (p.outcome v).effects := by
  have hyields := hp.realizes v s
  rw [h] at hyields
  obtain ⟨hok, hafter⟩ := Prod.mk.inj (Except.ok.inj hyields)
  exact ⟨hok.symm, hafter⟩

end Pattern

namespace Rule

variable {ρ γ : Type}

/-- An arm that is selected has been executed with success on the state that the arms before it have
handed on. -/
theorem exists_execute_of_select {v : Value} {arms : List (Arm ρ γ)} {s s' : MatchState} {i : Nat}
    (h : (select v arms).run s = .ok (some i, s')) :
    ∃ arm before, arms[i]? = some arm ∧ (arm.pattern.execute v).run before = .ok (true, s') := by
  induction arms generalizing s i with
  | nil => cases h
  | cons arm others ih =>
    rw [select, StateT.run_bind] at h
    obtain ⟨⟨ok, s₁⟩, hfirst, hrest⟩ := exists_of_bind_eq_ok h
    cases ok with
    -- the first arm was selected, on the state that the search started from
    | true =>
      obtain ⟨hi, rfl⟩ := Prod.mk.inj (Except.ok.inj hrest)
      obtain rfl := Option.some.inj hi
      exact ⟨arm, s, rfl, hfirst⟩
    | false =>
      -- the first arm failed, and the arm in question is among the others
      rw [if_neg Bool.false_ne_true, StateT.run_bind] at hrest
      obtain ⟨⟨j, s₂⟩, hothers, heq⟩ := exists_of_bind_eq_ok hrest
      obtain ⟨hj, rfl⟩ := Prod.mk.inj (Except.ok.inj heq)
      obtain ⟨k, rfl, rfl⟩ := Option.map_eq_some_iff.mp hj
      obtain ⟨selected, before, hselected, hexecute⟩ := ih hothers
      exact ⟨selected, before, hselected, hexecute⟩

/-- **Definite keys are settled by the match.** Whatever captures a constructible pattern is run
over, it comes to the same verdict; if it matches, there is one value for each of its definite keys
that the key is bound to afterwards in every such run. So whenever a rule selects an arm with this
pattern, the action that answers sees under the definite keys what a match of the pattern from a
fresh start finds there, and nothing that the arms before it have left behind. -/
theorem definite_keys_are_settled {p : Pattern} (hp : p.Constructible) (v : Value) :
    (∃ ok, (∀ captures, ∃ s, p.run v captures = .ok (ok, s)) ∧
      (ok = true → ∀ key, p.DefinitelyBinds key →
        ∃ w, ∀ captures s, p.run v captures = .ok (true, s) → s.captures.get? key = some w)) ∧
    ∀ {ρ γ : Type} (r : Rule ρ γ) (context : γ) (i : Nat) (s : MatchState),
      r.patterns[i]? = some p → r.dispatch v = .ok (some i, s) →
      ∃ arm fresh, r.arms[i]? = some arm ∧ arm.pattern = p ∧
        r.apply v context = .ok (some (arm.action s.captures context), s.calls) ∧
        p.matches? v = .ok (some fresh) ∧
        ∀ key, p.DefinitelyBinds key →
          ∃ w, fresh.get? key = some w ∧ s.captures.get? key = some w := by
  refine ⟨?_, ?_⟩
  · -- the verdict is that of the outcome, over any captures
    refine ⟨(p.outcome v).ok, fun captures => ⟨_, hp.run_eq_outcome v captures⟩, ?_⟩
    intro hok key hkey
    obtain ⟨w, hw⟩ := hkey.exists_get?_setAll hok
    refine ⟨w, fun captures s hs => ?_⟩
    obtain ⟨-, rfl⟩ := hp.ok_and_eq_after hs
    exact hw captures
  · intro ρ γ r context i s hi hdispatch
    -- the selected arm has been executed with success on what the others left
    obtain ⟨arm, before, harm, hexecute⟩ := exists_execute_of_select hdispatch
    obtain rfl : arm.pattern = p := by
      rw [patterns, List.getElem?_map, harm] at hi
      exact Option.some.inj hi
    obtain ⟨hok, rfl⟩ := hp.ok_and_eq_after hexecute
    refine ⟨arm, _, harm, rfl, ?_, hp.matches?_of_ok hok, fun key hkey => ?_⟩
    · rw [apply_eq_dispatch, hdispatch]
      change Except.ok (answerOf r.arms context (some i) _ <|> _, _) = _
      rw [answerOf, Option.bind_some, harm]
      rfl
    · -- both sides are the writes of the outcome, once over nothing and once over the leavings
      obtain ⟨w, hw⟩ := hkey.exists_get?_setAll hok
      exact ⟨w, hw .empty, hw before.captures⟩

/-- Two arms that bind the same key, the first of which may fail after binding it. -/
def rebindingArms : Rule Value Unit :=
  defineLeniently ⟨true⟩
    [.register (.seq [.pattern (.named (.index 1)), .value (.int 0)]) fun m _ => m.getD (.index 1),
      .register (.seq [.pattern .any, .pattern (.named (.index 1))]) fun m _ => m.getD (.index 1)]

/-- The theorem at a rule that specializes. On this subject the first arm fails and leaves a capture
behind; the second is selected, and its action sees under the same key what it has bound itself. -/
theorem definite_keys_are_settled_of_rebindingArms :
    ∃ p s, rebindingArms.patterns[1]? = some p ∧ p.DefinitelyBinds (.index 1) ∧
      rebindingArms.dispatch (.seq [.int 7, .int 5]) = .ok (some 1, s) ∧
      ∃ arm fresh, rebindingArms.arms[1]? = some arm ∧ arm.pattern = p ∧
        rebindingArms.apply (.seq [.int 7, .int 5]) ()
          = .ok (some (arm.action s.captures ()), s.calls) ∧
        p.matches? (.seq [.int 7, .int 5]) = .ok (some fresh) ∧
        ∃ w, fresh.get? (.index 1) = some w ∧ s.captures.get? (.index 1) = some w := by
  have hplain : Plain.Constructible (.seq [.pattern .any, .pattern (.named (.index 1))]) :=
    .seq (List.forall_mem_cons.mpr
      ⟨.pattern .any, List.forall_mem_singleton.mpr (.pattern (.named _))⟩)
  have hp := (hplain.build rfl).specialized rfl
  have hdefinite : (Pattern.seq [.any, .named (.index 1)] none []).DefinitelyBinds (.index 1) :=
    .head (List.mem_cons_of_mem _ List.mem_cons_self) .named
  have hdispatch : rebindingArms.dispatch (.seq [.int 7, .int 5]) = .ok (some 1, _) := rfl
  obtain ⟨arm, fresh, harm, hpattern, happly, hfresh, hkeys⟩ :=
    (definite_keys_are_settled hp _).2 rebindingArms () 1 _ rfl hdispatch
  exact ⟨_, _, rfl, hdefinite.origin, hdispatch, arm, fresh, harm, hpattern, happly, hfresh,
    hkeys _ hdefinite.origin⟩

end Rule

end StructMatch
