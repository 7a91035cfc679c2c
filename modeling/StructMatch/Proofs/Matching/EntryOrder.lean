import StructMatch.Proofs.Matching.Frame
import StructMatch.Proofs.Value.Similarity

/-!
# The order of entries does not matter to matching

Subjects that differ in the order of the entries of their maps are not equal structurally, but a
pattern cannot tell them apart, as long as it calls no predicate. Its outcomes on the two have the
same verdict and make the same bindings in the same order, to values that again differ in nothing
but the order of entries (`Outcome.Similar`).

Whatever a pattern does to a subject is looked at once: literals compare in a way that does not see
the order, items and runs of similar sequences are similar, and the entries of a map pattern are
gone through in the order of the pattern, not of the subject, each by a look-up that finds similar
values. The induction over patterns then only has to put outcomes together (`ignoresOrder`). A
predicate sees the subject as it is, so patterns that hold one are left out.
-/

namespace StructMatch

/-! ### Similar outcomes -/

/-- The same key bound to similar values. No call of a predicate is similar to anything. -/
inductive Effect.Similar : Effect → Effect → Prop
  | bound (key : Key) {v w : Value} : v.Similar w → Effect.Similar (.bound key v) (.bound key w)

namespace Outcome

/-- The same verdict, and effects that are similar one by one. -/
structure Similar (a b : Outcome) : Prop where
  ok : a.ok = b.ok
  effects : List.Forall₂ Effect.Similar a.effects b.effects

/-- A verdict without effects. -/
theorem Similar.of_ok (ok : Bool) : Similar ⟨ok, []⟩ ⟨ok, []⟩ :=
  ⟨rfl, .nil⟩

section Connectives

variable {a a' b b' : Outcome} (ha : a.Similar a') (hb : b.Similar b')
include ha hb

/-- Similar outcomes in a row: the verdicts of the first ones agree, so the second ones are reached
together. -/
theorem Similar.andThen : (a.andThen b).Similar (a'.andThen b') := by
  unfold Outcome.andThen
  rw [ha.ok]
  split
  · exact ⟨hb.ok, List.rel_append ha.effects hb.effects⟩
  · exact ha

/-- Similar alternatives: again the second ones are tried together. -/
theorem Similar.orElse : (a.orElse b).Similar (a'.orElse b') := by
  unfold Outcome.orElse
  rw [ha.ok]
  split
  · exact ha
  · exact ⟨hb.ok, List.rel_append ha.effects hb.effects⟩

end Connectives

/-- The bindings of similar outcomes are the same up to similar values. -/
theorem Similar.writes {a b : Outcome} (h : a.Similar b) :
    List.Forall₂ Value.SimilarAt a.writes b.writes := by
  refine List.rel_filterMap ?_ h.effects
  rintro _ _ ⟨key, hvw⟩
  exact .some ⟨rfl, hvw⟩

end Outcome

/-- The last writes of a key in two lists of similar writes are similar. -/
theorem Captures.rel_lastWrite? (key : Key) {ws ws' : List (Key × Value)}
    (h : List.Forall₂ Value.SimilarAt ws ws') :
    Option.Rel Value.Similar (lastWrite? key ws) (lastWrite? key ws') := by
  induction h with
  | nil => exact .none
  | @cons w w' later later' hfirst _ ih =>
    obtain ⟨k, v⟩ := w
    obtain ⟨k', v'⟩ := w'
    obtain ⟨rfl, hvalue⟩ : k = k' ∧ v.Similar v' := hfirst
    rw [lastWrite?, lastWrite?]
    -- a later write decides on both sides or on neither
    rcases exists_or_of_rel ih with ⟨x, y, hx, hy, hxy⟩ | ⟨hx, hy⟩
    · rw [hx, hy]
      exact .some hxy
    · rw [hx, hy, Option.none_or, Option.none_or]
      split
      · exact .some hvalue
      · exact .none

/-! ### Parts of similar sequences -/

section Sequences

variable {R : Value → Value → Prop} {xs ys : List Value} (h : List.Forall₂ R xs ys)
include h

/-- The last items of lists that are related pairwise are so related. -/
theorem forall₂_lastItems (back : ℕ) :
    List.Forall₂ R (lastItems back xs) (lastItems back ys) := by
  unfold lastItems
  rw [h.length_eq]
  exact List.forall₂_drop _ h

/-- So are the items between. -/
theorem forall₂_middleItems (front back : ℕ) :
    List.Forall₂ R (middleItems front back xs) (middleItems front back ys) := by
  unfold middleItems
  rw [h.length_eq]
  exact List.forall₂_drop _ (List.forall₂_take _ h)

end Sequences

namespace Pattern

/-- No predicate stands anywhere in the pattern. -/
def PredicateFree (p : Pattern) : Prop :=
  ∀ pred, ¬ (literal (.predicate pred)).OccursIn p

/-- Nodes of a pattern without predicates have none either. -/
theorem PredicateFree.of_occursIn {p q : Pattern} (hp : p.PredicateFree)
    (h : ∀ r : Pattern, r.OccursIn q → r.OccursIn p) : q.PredicateFree :=
  fun pred hpred => hp pred (h _ hpred)

/-- On similar subjects the pattern has similar outcomes. -/
def IgnoresOrder (p : Pattern) : Prop :=
  ∀ v w, v.Reorders w → (p.outcome v).Similar (p.outcome w)

/-- No literal but a predicate sees the order. A stored value is compared with the subject entry by
entry, by look-ups; the other tests do not look into maps at all. -/
theorem ignoresOrder_literal {lit : Literal} (hlit : ∀ pred, lit ≠ .predicate pred) :
    (Pattern.literal lit).IgnoresOrder := by
  intro v w h
  cases lit with
  | predicate pred => exact absurd rfl (hlit pred)
  | value stored => exact ⟨h.agrees_congr stored, .nil⟩
  | kind _ | range _ | regex _ =>
    -- similar subjects are equal, or their forms alone decide: both sequences, or both maps
    rcases h.similar.eq_or with rfl | ⟨xs, ys, rfl, rfl⟩ | ⟨m, m', rfl, rfl⟩
    · exact ⟨rfl, .nil⟩
    · exact ⟨rfl, .nil⟩
    · exact ⟨rfl, .nil⟩

/-! ### One case for each kind of node -/

section Nodes

variable {ps : List Pattern} (h : ∀ p ∈ ps, p.IgnoresOrder)
include h

/-- Items tested on similar values, pairwise. -/
theorem similar_outcomeEach {vs ws : List Value} (hvs : List.Forall₂ Value.Reorders vs ws) :
    (outcomeEach ps vs).Similar (outcomeEach ps ws) := by
  induction ps generalizing vs ws with
  | nil => exact .of_ok true
  | cons p ps ih =>
    obtain ⟨hp, hps⟩ := List.forall_mem_cons.mp h
    cases hvs with
    | nil => exact .of_ok true
    | cons hv hvs => exact (hp _ _ hv).andThen (ih hps hvs)

/-- A conjunction hands the subject on to its items. -/
theorem IgnoresOrder.and : (Pattern.and ps).IgnoresOrder := by
  intro v w hvw
  rw [outcome, outcome]
  induction ps with
  | nil => exact .of_ok true
  | cons p ps ih =>
    obtain ⟨hp, hps⟩ := List.forall_mem_cons.mp h
    exact (hp v w hvw).andThen (ih hps)

/-- A disjunction hands the subject on to its items. -/
theorem IgnoresOrder.or : (Pattern.or ps).IgnoresOrder := by
  intro v w hvw
  rw [outcome, outcome]
  induction ps with
  | nil => exact .of_ok false
  | cons p ps ih =>
    obtain ⟨hp, hps⟩ := List.forall_mem_cons.mp h
    exact (hp v w hvw).orElse (ih hps)

end Nodes

/-- Similar sequences have the same length and similar items, and so similar runs for the rest slot.
-/
theorem IgnoresOrder.seq {head tail : List Pattern} {middle : Option Pattern}
    (hhead : ∀ p ∈ head, p.IgnoresOrder) (hmiddle : ∀ p ∈ middle, p.IgnoresOrder)
    (htail : ∀ p ∈ tail, p.IgnoresOrder) : (Pattern.seq head middle tail).IgnoresOrder := by
  intro v w hvw
  have hsimilar : v.Similar w := hvw.similar
  cases v with
  | seq xs =>
    obtain ⟨ys, rfl, -⟩ := Value.similar_seq_iff.mp hsimilar
    have hitems : List.Forall₂ Value.Reorders xs ys := hvw.items
    have hlength : xs.length = ys.length := hitems.length_eq
    by_cases hfit : sizeFits middle.isSome (leastLength head tail) xs.length
    · rw [outcome_seq hfit, outcome_seq (hlength ▸ hfit)]
      refine (similar_outcomeEach hhead hitems).andThen
        ((similar_outcomeEach htail (forall₂_lastItems hitems _)).andThen ?_)
      cases middle with
      | none => exact .of_ok true
      | some r => exact hmiddle r rfl _ _ (.of_items (forall₂_middleItems hitems _ _))
    · rw [outcome_seq_of_not_fits hfit, outcome_seq_of_not_fits (hlength ▸ hfit)]
      exact .of_ok false
  | _ =>
    -- no sequence on either side, and so a failure on both
    cases hsimilar
    exact .of_ok false

/-- An entry is tested on similar values, or it is absent on both sides and the flag decides. -/
theorem similar_outcomeEntry {p : Pattern} (hp : p.IgnoresOrder) {x y : Option Value}
    (h : Option.Rel Value.Reorders x y) : (outcomeEntry p x).Similar (outcomeEntry p y) := by
  cases h with
  | none => exact .of_ok p.isOpt
  | some hvw => exact hp _ _ hvw

section Maps

variable {m m' : ValueMap} (hm : Value.Reorders (.map m) (.map m'))
include hm

/-- The entries are gone through in the order of the pattern, and each finds similar values. -/
theorem similar_outcomeEntries {es : List (Value × Pattern)} (h : ∀ e ∈ es, e.2.IgnoresOrder) :
    (outcomeEntries es m).Similar (outcomeEntries es m') := by
  induction es with
  | nil => exact .of_ok true
  | cons e es ih =>
    obtain ⟨k, p⟩ := e
    obtain ⟨hp, hes⟩ := List.forall_mem_cons.mp h
    rw [outcomeEntries_cons, outcomeEntries_cons]
    exact (similar_outcomeEntry hp (hm.rel_get? k)).andThen (ih hes)

/-- Counting the entries and looking at the keys does not see their order. -/
theorem mapFits_reorders (entries : Assoc Value Pattern) (exact : Bool) (required : ℕ) :
    mapFits entries exact required m = mapFits entries exact required m' := by
  have hall : m.keys.all entries.contains = m'.keys.all entries.contains := by
    rw [Bool.eq_iff_iff, List.all_eq_true, List.all_eq_true]
    -- the keys of the two maps are a permutation of each other, and each is looked up on its own
    exact ⟨fun h k hk => h k (hm.keys_perm.mem_iff.mpr hk),
      fun h k hk => h k (hm.keys_perm.mem_iff.mp hk)⟩
  rw [mapFits, mapFits, hm.size_eq, hall]

end Maps

/-- A map pattern does not see in which order the entries of the subject stand. -/
theorem IgnoresOrder.map {entries : Assoc Value Pattern} {exact : Bool} {required : ℕ}
    (h : ∀ e ∈ entries.entries, e.2.IgnoresOrder) :
    (Pattern.map entries exact required).IgnoresOrder := by
  intro v w hvw
  have hsimilar : v.Similar w := hvw.similar
  cases v with
  | map m =>
    obtain ⟨m', es, rfl, -⟩ := Value.similar_map_iff.mp hsimilar
    rw [outcome_map, outcome_map, mapFits_reorders hvw]
    split
    · exact similar_outcomeEntries hvw h
    · exact .of_ok false
  | _ =>
    -- no map on either side
    cases hsimilar
    exact .of_ok false

/-- **A pattern without predicates cannot tell similar subjects apart.** -/
theorem ignoresOrder {p : Pattern} (hp : p.PredicateFree) : p.IgnoresOrder := by
  induction p with
  | literal lit =>
    refine ignoresOrder_literal fun pred hlit => ?_
    subst hlit
    exact hp pred .self
  | any | rest => exact fun _ _ _ => .of_ok true
  | named key => exact fun _ _ h => ⟨rfl, .cons (.bound key h.similar) .nil⟩
  | seq head middle tail ihHead ihMiddle ihTail =>
    refine .seq (fun q hq => ihHead q hq (hp.of_occursIn fun _ => .head hq)) ?_
      (fun q hq => ihTail q hq (hp.of_occursIn fun _ => .tail hq))
    intro r hr
    obtain rfl : middle = some r := hr
    exact ihMiddle r rfl (hp.of_occursIn fun _ => .middle)
  | map _ _ _ ih => exact .map fun e he => ih e he (hp.of_occursIn fun _ => .entry he)
  | opt _ ih => exact ih (hp.of_occursIn fun _ => .opt)
  | and _ ih => exact .and fun q hq => ih q hq (hp.of_occursIn fun _ => .and hq)
  | or _ ih => exact .or fun q hq => ih q hq (hp.of_occursIn fun _ => .or hq)
  | compiled _ _ _ _ ih _ => exact ih (hp.of_occursIn fun _ => .origin)

/-! ### Runs on similar subjects -/

/-- **The order of entries never matters.** On two similar subjects, a pattern without predicates
matches both or neither. Two runs from the same captures return the same verdict and make the same
bindings in the same order, to similar values. So they leave the same keys bound, and under every
key either there are similar values that the runs have put there, or both runs have left it alone;
this holds of runs that fail as well. -/
theorem order_of_entries_never_matters {p : Pattern} (hp : p.Constructible)
    (hpure : p.PredicateFree) {v w : Value} (hv : v.Constructible) (hw : w.Constructible)
    (h : v.Similar w) :
    (∃ found found', p.matches? v = .ok found ∧ p.matches? w = .ok found' ∧
      (found.isSome ↔ found'.isSome)) ∧
    ∀ captures, ∃ ok s s', p.run v captures = .ok (ok, s) ∧ p.run w captures = .ok (ok, s') ∧
      List.Forall₂ Effect.Similar s.effects s'.effects ∧
      (∀ key, s.captures.contains key = s'.captures.contains key) ∧
      ∀ key, (∃ x y, s.captures.get? key = some x ∧ s'.captures.get? key = some y ∧ x.Similar y) ∨
        s.captures.get? key = captures.get? key ∧ s'.captures.get? key = captures.get? key := by
  have hsimilar : (p.outcome v).Similar (p.outcome w) := ignoresOrder hpure v w ⟨h, hv, hw⟩
  constructor
  · refine ⟨_, _, hp.matches?_eq_outcome v, hp.matches?_eq_outcome w, ?_⟩
    rw [hsimilar.ok]
    cases (p.outcome w).ok <;> simp
  · intro captures
    have hrun := hp.run_eq_outcome v captures
    rw [hsimilar.ok] at hrun
    refine ⟨_, _, _, hrun, hp.run_eq_outcome w captures, hsimilar.effects, fun key => ?_,
      fun key => ?_⟩
    · -- the same keys are written, so the same are bound afterwards
      have hkeys : (p.outcome v).writes.map Prod.fst = (p.outcome w).writes.map Prod.fst :=
        map_eq_map_iff_forall₂.mpr (hsimilar.writes.imp fun _ _ hw => hw.1)
      rw [Bool.eq_iff_iff, MatchState.after_start_captures, MatchState.after_start_captures,
        Captures.contains_setAll_iff, Captures.contains_setAll_iff]
      exact or_congr_left (iff_of_eq (congrArg (key ∈ ·) hkeys))
    · -- the last writes of a key are similar, or there are none and the initial captures are read
      have hlast := exists_or_of_rel (Captures.rel_lastWrite? key hsimilar.writes)
      unfold Outcome.writes at hlast
      rw [MatchState.after_start_captures, MatchState.after_start_captures, Captures.get?_setAll,
        Captures.get?_setAll]
      rcases hlast with ⟨x, y, hx, hy, hxy⟩ | ⟨hx, hy⟩
      · rw [hx, hy]
        exact .inl ⟨x, y, rfl, rfl, hxy⟩
      · rw [hx, hy]
        exact .inr ⟨rfl, rfl⟩

/-- A pattern for a point: one coordinate is captured, the other one is a list whose items are. -/
def coordinates : Pattern :=
  mapping [(.str "x", .named (.name "x")),
    (.str "y", .seq [] (some (.and [.rest, .named (.name "ys")])) [])] true

theorem constructible_coordinates : coordinates.Constructible := by
  have hitems : ∀ q ∈ [Pattern.rest, .named (.name "ys")], q.Constructible :=
    List.forall_mem_cons.mpr ⟨.rest, List.forall_mem_singleton.mpr (.named _)⟩
  refine .mapping true (List.forall_mem_cons.mpr ⟨.named _, List.forall_mem_singleton.mpr ?_⟩)
  refine @Constructible.sequence [] (some (.and [.rest, .named (.name "ys")])) [] _
    (List.forall_mem_nil _) ?_ (List.forall_mem_nil _) rfl
  intro q hq
  obtain rfl := Option.mem_some.mp hq
  exact .and hitems

theorem predicateFree_coordinates : coordinates.PredicateFree := by
  -- the two literal patterns would have to be found among these nodes
  rintro pred (_ | _ | _ | _ | ⟨hmem, h⟩)
  rcases List.mem_pair.mp hmem with rfl | rfl
  · cases h
  · rcases h with _ | ⟨hmem, -⟩ | h | ⟨hmem, -⟩
    · cases hmem
    · rcases h with _ | _ | _ | _ | _ | _ | ⟨hmem, h⟩
      rcases List.mem_pair.mp hmem with rfl | rfl
      · cases h
      · cases h
    · cases hmem

/-- The theorem at the program of a map pattern, on a point whose coordinates come in either
order. -/
theorem order_of_entries_never_matters_of_coordinates :
    ∃ c, coordinates.specialize = .ok c ∧
    ∀ captures, ∃ ok s s',
      c.run (Literal.point ("x", .int 1) ("y", .seq [.nil])) captures = .ok (ok, s) ∧
      c.run (Literal.point ("y", .seq [.nil]) ("x", .int 1)) captures = .ok (ok, s') ∧
      ∀ key, s.captures.contains key = s'.captures.contains key := by
  have hitems : Value.Constructible (.seq [.nil]) := .seq (List.forall_mem_singleton.mpr .nil)
  have hv := Literal.constructible_point ("x", .int 1) ("y", .seq [.nil]) (.int 1) hitems
  have hw := Literal.constructible_point ("y", .seq [.nil]) ("x", .int 1) hitems (.int 1)
  have hsimilar : (Literal.point ("x", .int 1) ("y", .seq [.nil])).Similar
      (Literal.point ("y", .seq [.nil]) ("x", .int 1)) :=
    .map (List.Perm.swap _ _ []) rfl
      (.cons (.int 1) (.cons (.seq (.cons .nil .nil)) .nil))
  have hpure : ∀ slots code source, (compiled coordinates slots code source).PredicateFree := by
    rintro slots code source pred (_ | _ | _ | _ | _ | _ | _ | _ | h)
    exact predicateFree_coordinates pred h
  obtain ⟨-, hruns⟩ := order_of_entries_never_matters
    (.specialized constructible_coordinates rfl) (hpure _ _ _) hv hw hsimilar
  refine ⟨_, rfl, fun captures => ?_⟩
  obtain ⟨ok, s, s', hrun, hrun', -, hkeys, -⟩ := hruns captures
  exact ⟨ok, s, s', hrun, hrun', hkeys⟩

end Pattern

end StructMatch
