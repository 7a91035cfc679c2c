import StructMatch.Proofs.Pattern.WellFormed
import StructMatch.Proofs.Program.Running

/-!
# The outcome of a pattern

`Pattern.outcome` says what the execution of a pattern on a subject comes to, as a function of these
two alone: it has no state, it cannot fail to give a result, and a program has the outcome of the
pattern it comes from. `Constructible.realizes` is the statement that makes it the meaning of the
executable semantics: the execution of a constructible pattern yields its outcome, from every state
and without a fault.

The proof is an induction over the form of the pattern, which is well formed. A program is the one
case in which executable code and outcome are about different things, and there `execute_specialize`
leads back to the pattern.
-/

namespace StructMatch

namespace Pattern

mutual

/-- What the execution of a pattern comes to. -/
def outcome : Pattern → Value → Outcome
  | .literal lit, v => lit.outcome v
  | .any, _ => .success
  | .rest, _ => .success
  | .named key, v => ⟨true, [.bound key v]⟩
  | .seq head middle tail, v =>
    match v with
    | .seq items =>
      if sizeFits middle.isSome (leastLength head tail) items.length then
        (outcomeEach head items).andThen ((outcomeEach tail (lastItems tail.length items)).andThen
          (match middle with
            | none => .success
            | some r => outcome r (.seq (middleItems head.length tail.length items))))
      else .failure
    | _ => .failure
  | .map ⟨entries⟩ exact required, v =>
    match v with
    | .map m => if mapFits ⟨entries⟩ exact required m then outcomeEntries entries m else .failure
    | _ => .failure
  | .opt inner, v => outcome inner v
  | .and items, v => outcomeAll items v
  | .or items, v => outcomeAny items v
  | .compiled origin _ _ _, v => outcome origin v
termination_by structural p => p

/-- The outcome of testing items against patterns pairwise. -/
def outcomeEach : List Pattern → List Value → Outcome
  | p :: ps, v :: vs => (outcome p v).andThen (outcomeEach ps vs)
  | _, _ => .success
termination_by structural ps => ps

/-- The outcome of testing the values that a map holds under the keys of entries. -/
def outcomeEntries : List (Value × Pattern) → ValueMap → Outcome
  | [], _ => .success
  | (k, p) :: others, m =>
    (match m.get? k with
      | some v => outcome p v
      | none => ⟨p.isOpt, []⟩).andThen (outcomeEntries others m)
termination_by structural es => es

/-- The outcome of testing one subject against every pattern. -/
def outcomeAll : List Pattern → Value → Outcome
  | [], _ => .success
  | p :: ps, v => (outcome p v).andThen (outcomeAll ps v)
termination_by structural ps => ps

/-- The outcome of testing one subject against patterns up to the first that matches. -/
def outcomeAny : List Pattern → Value → Outcome
  | [], _ => .failure
  | p :: ps, v => (outcome p v).orElse (outcomeAny ps v)
termination_by structural ps => ps

end

/-! ### Equations -/

/-- The outcome of testing what a map holds under the key of an entry. -/
def outcomeEntry (p : Pattern) : Option Value → Outcome
  | some v => p.outcome v
  | none => ⟨p.isOpt, []⟩

/-- The outcome of testing the run of items between head and tail. -/
def outcomeMiddle : Option Pattern → Value → Outcome
  | none, _ => .success
  | some r, v => r.outcome v

/-- The first entry apart: its outcome comes before those of the entries behind it. -/
theorem outcomeEntries_cons (k : Value) (p : Pattern) (es : List (Value × Pattern))
    (m : ValueMap) :
    outcomeEntries ((k, p) :: es) m
      = (outcomeEntry p (m.get? k)).andThen (outcomeEntries es m) := by
  rw [outcomeEntries]
  cases m.get? k <;> rfl

/-- A sequence of the right length: head, then tail, then the run between them. -/
theorem outcome_seq {head tail : List Pattern} {middle : Option Pattern} {items : List Value}
    (hfit : sizeFits middle.isSome (leastLength head tail) items.length) :
    (Pattern.seq head middle tail).outcome (.seq items)
      = (outcomeEach head items).andThen ((outcomeEach tail (lastItems tail.length items)).andThen
          (outcomeMiddle middle (.seq (middleItems head.length tail.length items)))) := by
  cases middle with
  | none => rw [outcome, if_pos hfit]; rfl
  | some r => rw [outcome, if_pos hfit]; rfl

/-- A sequence of the wrong length fails without an effect. -/
theorem outcome_seq_of_not_fits {head tail : List Pattern} {middle : Option Pattern}
    {items : List Value} (hfit : ¬ sizeFits middle.isSome (leastLength head tail) items.length) :
    (Pattern.seq head middle tail).outcome (.seq items) = .failure := by
  cases middle with
  | none => rw [outcome, if_neg hfit]
  | some r => rw [outcome, if_neg hfit]

/-- A map whose keys are accepted has the outcome of its entries. -/
theorem outcome_map (entries : Assoc Value Pattern) (exact : Bool) (required : Nat)
    (m : ValueMap) :
    (Pattern.map entries exact required).outcome (.map m)
      = if mapFits entries exact required m then outcomeEntries entries.entries m
        else .failure := rfl

/-- A program has the outcome of the pattern that was specialized. -/
theorem outcome_specialize {p c : Pattern} (hc : p.specialize = .ok c) : c.outcome = p.outcome := by
  obtain ⟨-, rfl⟩ := specialize_eq_ok_iff.mp hc
  funext v
  rfl

/-- The execution of the pattern yields its outcome, whatever the subject. -/
def HasOutcome (p : Pattern) : Prop :=
  ∀ v, Realizes (p.execute v) (p.outcome v)

/-! ### One case for each kind of node -/

section Nodes

variable {ps : List Pattern} (h : ∀ p ∈ ps, p.HasOutcome)
include h

/-- Items tested pairwise. Where one of the lists ends early, both sides succeed without an effect.
-/
theorem realizes_executeEach (vs : List Value) :
    Realizes (executeEach ps vs) (outcomeEach ps vs) := by
  induction ps generalizing vs with
  | nil => exact realizes_success
  | cons p ps ih =>
    cases vs with
    | nil => exact realizes_success
    | cons v vs =>
      obtain ⟨hp, hps⟩ := List.forall_mem_cons.mp h
      exact (hp v).both (ih hps vs)

/-- Patterns tested in turn against one subject, up to the first that fails. -/
theorem realizes_executeAll (v : Value) : Realizes (executeAll ps v) (outcomeAll ps v) := by
  induction ps with
  | nil => exact realizes_success
  | cons p ps ih =>
    obtain ⟨hp, hps⟩ := List.forall_mem_cons.mp h
    exact (hp v).both (ih hps)

/-- Patterns tested in turn against one subject, up to the first that matches. -/
theorem realizes_executeAny (v : Value) : Realizes (executeAny ps v) (outcomeAny ps v) := by
  induction ps with
  | nil => exact realizes_failure
  | cons p ps ih =>
    obtain ⟨hp, hps⟩ := List.forall_mem_cons.mp h
    exact (hp v).either (ih hps)

/-- A conjunction of patterns that have their outcomes has its own. -/
theorem HasOutcome.and : (Pattern.and ps).HasOutcome :=
  realizes_executeAll h

/-- A disjunction of patterns that have their outcomes has its own. -/
theorem HasOutcome.or : (Pattern.or ps).HasOutcome :=
  realizes_executeAny h

end Nodes

/-- Entries tested in turn. Under a key that the map lacks nothing is executed. -/
theorem realizes_executeEntries {es : List (Value × Pattern)} (h : ∀ e ∈ es, e.2.HasOutcome)
    (m : ValueMap) : Realizes (executeEntries es m) (outcomeEntries es m) := by
  induction es with
  | nil => exact realizes_success
  | cons e es ih =>
    obtain ⟨k, p⟩ := e
    obtain ⟨hp, hes⟩ := List.forall_mem_cons.mp h
    rw [executeEntries_cons, outcomeEntries_cons]
    refine Realizes.both ?_ (ih hes)
    -- an absent value has the verdict that the flag of the pattern gives, and no effect
    cases m.get? k with
    | none => exact yields_pure p.isOpt
    | some v => exact hp v

/-- A sequence whose parts have their outcomes has its own. The length test comes first on both
sides, and behind it each part is met once. -/
theorem HasOutcome.seq {head tail : List Pattern} {middle : Option Pattern}
    (hhead : ∀ p ∈ head, p.HasOutcome) (hmiddle : ∀ p ∈ middle, p.HasOutcome)
    (htail : ∀ p ∈ tail, p.HasOutcome) : (Pattern.seq head middle tail).HasOutcome := by
  intro v
  cases v with
  | seq items =>
    -- no subtraction is left once the length fits, so the two sides have the same form
    by_cases hfit : sizeFits middle.isSome (leastLength head tail) items.length
    · rw [execute_seq hfit, outcome_seq hfit]
      refine (realizes_executeEach hhead _).both ((realizes_executeEach htail _).both ?_)
      cases middle with
      | none => exact realizes_success
      | some r => exact hmiddle r rfl _
    · rw [execute_seq_of_not_fits hfit, outcome_seq_of_not_fits hfit]
      exact realizes_failure
  | _ => exact realizes_failure

/-- A map whose entries have their outcomes has its own. -/
theorem HasOutcome.map {entries : Assoc Value Pattern} {exact : Bool} {required : Nat}
    (h : ∀ e ∈ entries.entries, e.2.HasOutcome) :
    (Pattern.map entries exact required).HasOutcome := by
  intro v
  cases v with
  | map m =>
    rw [execute_map, outcome_map]
    -- the test of the keys stands in both, and has no effects
    split
    · exact realizes_executeEntries h m
    · exact realizes_failure
  | _ => exact realizes_failure

/-- **Every constructible pattern has its outcome**: executed on any subject, from any state, it
returns the verdict and has the effects that `outcome` says, and runs into no fault. -/
theorem Constructible.realizes {p : Pattern} (hp : p.Constructible) : p.HasOutcome := by
  -- by induction on the form: a sequence then has its parts at hand, however it was made
  have hform : p.WellFormed := hp.wellFormed
  clear hp
  induction hform with
  | literal lit => exact realizes_literal lit
  | any | rest => exact fun _ => realizes_success
  | named key => exact realizes_bind key
  | seq _ _ _ _ ihHead ihMiddle ihTail => exact .seq ihHead ihMiddle ihTail
  | map _ _ _ ih => exact .map ih
  | opt _ ih => exact ih
  | and _ ih => exact .and ih
  | or _ ih => exact .or ih
  | compiled _ _ hc ih _ =>
    -- the program does what its pattern does, so the hypothesis about the pattern is enough
    intro v
    rw [execute_specialize hc, outcome_specialize hc]
    exact ih v

end Pattern

end StructMatch
