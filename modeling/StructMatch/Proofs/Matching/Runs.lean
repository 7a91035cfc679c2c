import StructMatch.Proofs.Matching.Denotation

/-!
# Runs of patterns

A run executes a pattern over given captures. By its outcome, a run of a constructible pattern is
settled before it starts (`run_eq_outcome`): the captures it is given are extended and never read.

Two comparisons of runs follow. Runs of one pattern from different captures do the same things and
end up with the same values under the keys that were written. A run of a pattern and a run of its
program from the same captures end in the very same state, whatever their verdict.
-/

namespace StructMatch.Pattern

/-- A run returns the verdict of the outcome and adds its effects to the captures given. -/
theorem Constructible.run_eq_outcome {p : Pattern} (hp : p.Constructible) (v : Value)
    (captures : Captures) :
    p.run v captures
      = .ok ((p.outcome v).ok, (MatchState.start captures).after (p.outcome v).effects) :=
  hp.realizes v (.start captures)

/-- A match finds the writes of the outcome if its verdict is a success, and nothing otherwise. -/
theorem Constructible.matches?_eq_outcome {p : Pattern} (hp : p.Constructible) (v : Value) :
    p.matches? v = .ok (if (p.outcome v).ok then
      some (Captures.empty.setAll (p.outcome v).writes) else none) := by
  rw [matches?, hp.run_eq_outcome]
  rfl

/-- A match from a fresh start succeeds. -/
def MatchesFreshly (p : Pattern) (v : Value) : Prop :=
  ∃ found, p.matches? v = .ok (some found)

/-- A subject that is matched is matched with the writes of the outcome. -/
theorem Constructible.matches?_of_ok {p : Pattern} (hp : p.Constructible) {v : Value}
    (h : (p.outcome v).ok = true) :
    p.matches? v = .ok (some (Captures.empty.setAll (p.outcome v).writes)) := by
  rw [hp.matches?_eq_outcome, h]
  rfl

/-- A subject that is not matched gives no captures, although there may have been effects. -/
theorem Constructible.matches?_of_not_ok {p : Pattern} (hp : p.Constructible) {v : Value}
    (h : (p.outcome v).ok = false) : p.matches? v = .ok none := by
  rw [hp.matches?_eq_outcome, h]
  rfl

/-- The verdict of the outcome is that of a match from a fresh start. -/
theorem Constructible.matchesFreshly_iff {p : Pattern} (hp : p.Constructible) (v : Value) :
    p.MatchesFreshly v ↔ (p.outcome v).ok = true := by
  by_cases hok : (p.outcome v).ok = true
  · exact ⟨fun _ => hok, fun _ => ⟨_, hp.matches?_of_ok hok⟩⟩
  · have hnone : p.matches? v = .ok none := hp.matches?_of_not_ok (Bool.eq_false_iff.mpr hok)
    refine ⟨fun ⟨found, hfound⟩ => ?_, fun h => absurd h hok⟩
    rw [hnone] at hfound
    cases hfound

/-- A pattern whose first alternative binds captures and calls a predicate even where it fails, so
that the second starts from what it left behind. -/
def twoTries (p : Predicate) : Pattern :=
  .or [.seq [.and [.named (.index 1), .literal (.predicate p)]]
      (some (.and [.rest, .named (.name "between")])) [.literal (.value (.int 0))],
    .named (.index 1)]

theorem constructible_twoTries (p : Predicate) : (twoTries p).Constructible := by
  have hfirst : ∀ q ∈ [Pattern.named (.index 1), .literal (.predicate p)], q.Constructible :=
    List.forall_mem_cons.mpr ⟨.named _, List.forall_mem_singleton.mpr (.literal _)⟩
  have hbetween : ∀ q ∈ [Pattern.rest, .named (.name "between")], q.Constructible :=
    List.forall_mem_cons.mpr ⟨.rest, List.forall_mem_singleton.mpr (.named _)⟩
  refine .or (List.forall_mem_cons.mpr ⟨?_, List.forall_mem_singleton.mpr (.named _)⟩)
  -- the rest slot holds the one item with the rest flag, which is what a sequence asks for
  refine @Constructible.sequence _ (some (.and [.rest, .named (.name "between")])) _ _
    (List.forall_mem_singleton.mpr (.and hfirst)) ?_
    (List.forall_mem_singleton.mpr (.literal _)) rfl
  intro q hq
  obtain rfl := Option.mem_some.mp hq
  exact .and hbetween

/-! ### Two runs of one pattern -/

/-- **Captures never influence matching.** The pattern and the subject settle a verdict, a list of
writes and a list of predicate calls, and every run has these: it returns the verdict, makes the
calls, and ends in the captures it was given with the writes made in order, so that the last write
of a key wins. Two runs therefore agree on the verdict, the calls and every key written. -/
theorem captures_never_influence_matching {p : Pattern} (hp : p.Constructible) (v : Value) :
    ∃ ok writes calls,
      (∀ captures, ∃ s, p.run v captures = .ok (ok, s) ∧ s.calls = calls ∧
        s.captures = captures.setAll writes ∧
        ∀ key, s.captures.get? key
          = (Captures.lastWrite? key writes).or (captures.get? key)) ∧
      ∀ captures₁ captures₂ ok₁ ok₂ s₁ s₂,
        p.run v captures₁ = .ok (ok₁, s₁) → p.run v captures₂ = .ok (ok₂, s₂) →
        ok₁ = ok₂ ∧ s₁.calls = s₂.calls ∧
        ∀ key ∈ writes.map Prod.fst, s₁.captures.get? key = s₂.captures.get? key := by
  refine ⟨(p.outcome v).ok, (p.outcome v).writes, (p.outcome v).calls, ?_, ?_⟩
  · -- one run: the outcome over the captures given
    intro captures
    refine ⟨_, hp.run_eq_outcome v captures, MatchState.after_start_calls _ _,
      MatchState.after_start_captures _ _, ?_⟩
    exact Captures.get?_setAll captures (p.outcome v).writes
  · intro captures₁ captures₂ ok₁ ok₂ s₁ s₂ h₁ h₂
    -- both runs are the outcome over captures of their own
    rw [hp.run_eq_outcome] at h₁ h₂
    obtain ⟨rfl, rfl⟩ := Prod.mk.inj (Except.ok.inj h₁)
    obtain ⟨rfl, rfl⟩ := Prod.mk.inj (Except.ok.inj h₂)
    exact ⟨rfl, rfl, fun key hkey => Captures.get?_setAll_eq_of_mem captures₁ captures₂ hkey⟩

/-- The theorem at a pattern that holds a program, on a subject that fails the first try. -/
theorem captures_never_influence_matching_of_program :
    ∃ c, (twoTries ⟨"any", fun _ => true⟩).specialize = .ok c ∧
    ∃ ok writes calls,
      (∀ captures, ∃ s, (opt c).run (.seq [.int 2, .int 5, .int 7]) captures = .ok (ok, s) ∧
        s.calls = calls ∧ s.captures = captures.setAll writes ∧
        ∀ key, s.captures.get? key
          = (Captures.lastWrite? key writes).or (captures.get? key)) ∧
      ∀ captures₁ captures₂ ok₁ ok₂ s₁ s₂,
        (opt c).run (.seq [.int 2, .int 5, .int 7]) captures₁ = .ok (ok₁, s₁) →
        (opt c).run (.seq [.int 2, .int 5, .int 7]) captures₂ = .ok (ok₂, s₂) →
        ok₁ = ok₂ ∧ s₁.calls = s₂.calls ∧
        ∀ key ∈ writes.map Prod.fst, s₁.captures.get? key = s₂.captures.get? key :=
  ⟨_, rfl, captures_never_influence_matching
    (.opt (.specialized (constructible_twoTries ⟨"any", fun _ => true⟩) rfl)) _⟩

/-! ### A pattern and its program -/

/-- A program is executed as its pattern is, so their runs are the same computation. -/
theorem run_specialize {p c : Pattern} (hc : p.specialize = .ok c) (v : Value)
    (captures : Captures) : c.run v captures = p.run v captures := by
  rw [run, run, execute_specialize hc]

/-- **A program runs like the pattern it comes from.** From the same captures, both return the same
verdict and end in the same state, with the same captures and the same predicate calls. -/
theorem specialize_preserves_runs {p c : Pattern} (hp : p.Constructible)
    (hc : p.specialize = .ok c) (captures : Captures) (v : Value) :
    ∃ ok s, p.run v captures = .ok (ok, s) ∧ c.run v captures = .ok (ok, s) := by
  have hrun := hp.run_eq_outcome v captures
  exact ⟨_, _, hrun, (run_specialize hc v captures).trans hrun⟩

/-- The theorem at a pattern with both kinds of effects, over captures that are not empty. -/
theorem specialize_preserves_runs_of_twoTries :
    ∃ c, (twoTries ⟨"any", fun _ => true⟩).specialize = .ok c ∧
    ∃ ok s, (twoTries ⟨"any", fun _ => true⟩).run (.seq [.int 2, .int 5, .int 7])
        (Captures.empty.set (.name "between") .nil) = .ok (ok, s) ∧
      c.run (.seq [.int 2, .int 5, .int 7])
        (Captures.empty.set (.name "between") .nil) = .ok (ok, s) :=
  ⟨_, rfl, specialize_preserves_runs (constructible_twoTries ⟨"any", fun _ => true⟩) rfl _ _⟩

end StructMatch.Pattern
