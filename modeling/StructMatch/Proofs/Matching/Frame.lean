import StructMatch.Proofs.Matching.Parts
import StructMatch.Proofs.Matching.Runs

/-!
# What an execution leaves alone

An execution writes captures and calls predicates, and there are limits to both: a key is written
only if some node of the pattern names it, a predicate is called only if it stands at some node, and
what is written or passed to a predicate lies within the subject. Each effect of an outcome keeps to
these limits (`Effect.FramedBy`), whether it comes from a part that matched or from one that failed.

The limits are shown by induction on the pattern, one case for each kind of node. The parts of a
node are executed on something within the subject and are themselves made of nodes of the pattern,
so what holds of their effects holds of those of the node (`FramedBy.mono`). Only the rest slot is
executed on a value that is not a part of the subject, and that is where runs of items come in.

For a run over given captures this means that it only adds to them, and only under keys that the
pattern names (`writes_parts_under_named_keys`).
-/

namespace StructMatch

/-- The effect comes from a node of the pattern and is about something within the value. -/
def Effect.FramedBy (p : Pattern) (v : Value) : Effect → Prop
  | .bound key w => (Pattern.named key).OccursIn p ∧ w.Within v
  | .called call =>
    (Pattern.literal (.predicate call.predicate)).OccursIn p ∧ call.subject.Within v

/-- What keeps to the limits of a part keeps to those of the whole. -/
theorem Effect.FramedBy.mono {p p' : Pattern} {v v' : Value} {e : Effect} (h : e.FramedBy p v)
    (hp : ∀ q : Pattern, q.OccursIn p → q.OccursIn p')
    (hv : ∀ w : Value, w.Within v → w.Within v') : e.FramedBy p' v' := by
  cases e with
  | bound key w => exact ⟨hp _ h.1, hv _ h.2⟩
  | called call => exact ⟨hp _ h.1, hv _ h.2⟩

namespace Outcome

/-- An effect of a conjunction is one of either part, whichever of them was reached. -/
theorem mem_effects_andThen {a b : Outcome} {e : Effect} (h : e ∈ (a.andThen b).effects) :
    e ∈ a.effects ∨ e ∈ b.effects := by
  unfold andThen at h
  split at h
  · exact List.mem_append.mp h
  · exact .inl h

/-- An effect of a disjunction is one of either part, whichever of them was reached. -/
theorem mem_effects_orElse {a b : Outcome} {e : Effect} (h : e ∈ (a.orElse b).effects) :
    e ∈ a.effects ∨ e ∈ b.effects := by
  unfold orElse at h
  split at h
  · exact .inl h
  · exact List.mem_append.mp h

end Outcome

namespace Pattern

/-! ### Where the effects of a list come from -/

section Lists

variable {ps : List Pattern} {e : Effect}

/-- An effect of a pairwise test comes from one of the patterns on one of the values. -/
theorem exists_of_mem_effects_each {vs : List Value} (h : e ∈ (outcomeEach ps vs).effects) :
    ∃ p ∈ ps, ∃ v ∈ vs, e ∈ (p.outcome v).effects := by
  induction ps generalizing vs with
  | nil => cases h
  | cons p ps ih =>
    cases vs with
    | nil => cases h
    | cons v vs =>
      rcases Outcome.mem_effects_andThen h with h | h
      · exact ⟨p, List.mem_cons_self, v, List.mem_cons_self, h⟩
      · obtain ⟨q, hq, w, hw, he⟩ := ih h
        exact ⟨q, List.mem_cons_of_mem p hq, w, List.mem_cons_of_mem v hw, he⟩

/-- An effect of a conjunction comes from one of its items, on the whole subject. -/
theorem exists_of_mem_effects_all {v : Value} (h : e ∈ (outcomeAll ps v).effects) :
    ∃ p ∈ ps, e ∈ (p.outcome v).effects := by
  induction ps with
  | nil => cases h
  | cons p ps ih =>
    rcases Outcome.mem_effects_andThen h with h | h
    · exact ⟨p, List.mem_cons_self, h⟩
    · obtain ⟨q, hq, he⟩ := ih h
      exact ⟨q, List.mem_cons_of_mem p hq, he⟩

/-- An effect of a disjunction comes from one of its items, on the whole subject. -/
theorem exists_of_mem_effects_any {v : Value} (h : e ∈ (outcomeAny ps v).effects) :
    ∃ p ∈ ps, e ∈ (p.outcome v).effects := by
  induction ps with
  | nil => cases h
  | cons p ps ih =>
    rcases Outcome.mem_effects_orElse h with h | h
    · exact ⟨p, List.mem_cons_self, h⟩
    · obtain ⟨q, hq, he⟩ := ih h
      exact ⟨q, List.mem_cons_of_mem p hq, he⟩

/-- An effect of the entries comes from the pattern of one, on a value of the map. An absent value
has no effects. -/
theorem exists_of_mem_effects_entries {es : List (Value × Pattern)} {m : ValueMap}
    (h : e ∈ (outcomeEntries es m).effects) :
    ∃ f ∈ es, ∃ g ∈ m.entries, e ∈ (f.2.outcome g.2).effects := by
  induction es with
  | nil => cases h
  | cons f es ih =>
    obtain ⟨k, p⟩ := f
    rw [outcomeEntries_cons] at h
    rcases Outcome.mem_effects_andThen h with h | h
    · -- an entry contributes only what was found under its key
      cases hfound : m.get? k with
      | none =>
        rw [hfound] at h
        cases h
      | some w =>
        rw [hfound] at h
        obtain ⟨g, hg, -, rfl⟩ := Assoc.exists_mem_of_get?_eq_some hfound
        exact ⟨(k, p), List.mem_cons_self, g, hg, h⟩
    · obtain ⟨f', hf', hg⟩ := ih h
      exact ⟨f', List.mem_cons_of_mem (k, p) hf', hg⟩

end Lists

/-! ### The limits of a pattern -/

/-- Every effect of the pattern keeps to its limits, whatever the subject. -/
def Framed (p : Pattern) : Prop :=
  ∀ v, ∀ e ∈ (p.outcome v).effects, e.FramedBy p v

/-- Only a predicate has an effect, its call on the whole subject. -/
theorem framed_literal (lit : Literal) : (Pattern.literal lit).Framed := by
  intro v e he
  cases lit with
  | predicate p =>
    obtain rfl := List.mem_singleton.mp he
    exact ⟨.self, .refl v⟩
  | _ => cases he

/-- The items of head and tail are executed on items of the subject, the rest slot on a run of them;
all three lie within the subject. -/
theorem Framed.seq {head tail : List Pattern} {middle : Option Pattern}
    (hhead : ∀ p ∈ head, p.Framed) (hmiddle : ∀ p ∈ middle, p.Framed)
    (htail : ∀ p ∈ tail, p.Framed) : (Pattern.seq head middle tail).Framed := by
  intro v e he
  cases v with
  | seq items =>
    by_cases hfit : sizeFits middle.isSome (leastLength head tail) items.length
    · rw [outcome_seq hfit] at he
      rcases Outcome.mem_effects_andThen he with he | he
      · obtain ⟨p, hp, v, hv, he⟩ := exists_of_mem_effects_each he
        exact (hhead p hp v e he).mono (fun _ => .head hp) fun _ => .of_item hv
      · rcases Outcome.mem_effects_andThen he with he | he
        · obtain ⟨p, hp, v, hv, he⟩ := exists_of_mem_effects_each he
          -- the tail is read from the last items
          have hv : v ∈ items := List.mem_of_mem_drop hv
          exact (htail p hp v e he).mono (fun _ => .tail hp) fun _ => .of_item hv
        · -- the rest slot is executed on the run between head and tail
          cases middle with
          | none => cases he
          | some r =>
            have hrun : middleItems head.length tail.length items <:+: items :=
              (List.drop_suffix _ _).isInfix.trans (List.take_prefix _ _).isInfix
            exact (hmiddle r rfl _ e he).mono (fun _ => .middle) fun _ => .of_run hrun
    · rw [outcome_seq_of_not_fits hfit] at he
      cases he
  | _ => cases he

/-- The patterns of the entries are executed on values of the subject. -/
theorem Framed.map {entries : Assoc Value Pattern} {exact : Bool} {required : Nat}
    (h : ∀ f ∈ entries.entries, f.2.Framed) : (Pattern.map entries exact required).Framed := by
  intro v e he
  cases v with
  | map m =>
    rw [outcome_map] at he
    split at he
    · obtain ⟨f, hf, g, hg, he⟩ := exists_of_mem_effects_entries he
      exact (h f hf g.2 e he).mono (fun _ => .entry hf) fun _ => .of_entry hg
    · cases he
  | _ => cases he

/-- **Every pattern keeps to its limits.** -/
theorem framed (p : Pattern) : p.Framed := by
  induction p with
  | literal lit => exact framed_literal lit
  | any | rest => exact fun _ _ => nofun
  | named key =>
    intro v e he
    obtain rfl := List.mem_singleton.mp he
    exact ⟨.self, .refl v⟩
  | seq _ _ _ ihHead ihMiddle ihTail => exact .seq ihHead ihMiddle ihTail
  | map _ _ _ ih => exact .map ih
  | opt _ ih => exact fun v e he => (ih v e he).mono (fun _ => .opt) fun _ => id
  | and items ih =>
    intro v e he
    obtain ⟨p, hp, he⟩ := exists_of_mem_effects_all he
    exact (ih p hp v e he).mono (fun _ => .and hp) fun _ => id
  | or items ih =>
    intro v e he
    obtain ⟨p, hp, he⟩ := exists_of_mem_effects_any he
    exact (ih p hp v e he).mono (fun _ => .or hp) fun _ => id
  -- a program has the nodes of its pattern, and its outcome
  | compiled _ _ _ _ ih _ => exact fun v e he => (ih v e he).mono (fun _ => .origin) fun _ => id

/-- A key that no node names is not written. -/
theorem not_mem_writes {p : Pattern} {key : Key} (h : ¬ (named key).OccursIn p) (v : Value) :
    key ∉ (p.outcome v).writes.map Prod.fst := by
  intro hmem
  obtain ⟨⟨k, w⟩, hw, rfl⟩ := List.mem_map.mp hmem
  obtain ⟨e, he, hwrite⟩ := List.mem_filterMap.mp hw
  -- a write comes from an effect that binds its key, and such an effect has its node
  cases e with
  | bound k' w' =>
    obtain ⟨rfl, rfl⟩ := Prod.mk.inj (Option.some.inj hwrite)
    exact h (p.framed v _ he).1
  | called call => cases hwrite

/-! ### Runs -/

/-- **A run writes parts of the subject under keys that the pattern names.** It comes to an end, and
whatever its verdict, the captures it ends in are those it was given with the bindings among its
effects made on top. No key that was bound becomes unbound, and a key that no node of the pattern
names has the binding it had. Every value written, and every value that a predicate was given, lies
within the subject. -/
theorem writes_parts_under_named_keys {p : Pattern} (hp : p.Constructible) (v : Value)
    (captures : Captures) :
    ∃ ok s, p.run v captures = .ok (ok, s) ∧
      s.captures = captures.setAll (s.effects.filterMap Effect.write?) ∧
      (∀ key, captures.contains key → s.captures.contains key) ∧
      (∀ key, ¬ (named key).OccursIn p → s.captures.get? key = captures.get? key) ∧
      (∀ key w, .bound key w ∈ s.effects → w.Within v) ∧
      ∀ call ∈ s.calls, call.subject.Within v := by
  refine ⟨_, _, hp.run_eq_outcome v captures, rfl, ?_, ?_, ?_, ?_⟩
  · -- bindings are added and never taken away
    intro key hbound
    exact (Captures.contains_setAll_iff captures _ key).mpr (.inr hbound)
  · -- a key that was not written reads as before
    intro key hkey
    exact Captures.get?_setAll_of_not_mem captures (not_mem_writes hkey v)
  · intro key w hw
    exact (p.framed v (.bound key w) hw).2
  · intro call hcall
    obtain ⟨e, he, heq⟩ := List.mem_filterMap.mp hcall
    cases e with
    | bound key w => cases heq
    | called call' =>
      obtain rfl := Option.some.inj heq
      exact (p.framed v (.called call') he).2

theorem not_named_of_twoTries {p : Predicate} {key : Key} (hfirst : key ≠ .index 1)
    (hbetween : key ≠ .name "between") : ¬ (named key).OccursIn (twoTries p) := by
  -- the nodes of the pattern one by one, from the top down
  rintro (_ | _ | _ | _ | _ | _ | _ | ⟨hmem, h⟩)
  rcases List.mem_pair.mp hmem with rfl | rfl
  · rcases h with _ | ⟨hmem, h⟩ | h | ⟨hmem, h⟩
    · obtain rfl := List.mem_singleton.mp hmem
      rcases h with _ | _ | _ | _ | _ | _ | ⟨hmem, h⟩
      rcases List.mem_pair.mp hmem with rfl | rfl
      · cases h
        exact hfirst rfl
      · cases h
    · rcases h with _ | _ | _ | _ | _ | _ | ⟨hmem, h⟩
      rcases List.mem_pair.mp hmem with rfl | rfl
      · cases h
      · cases h
        exact hbetween rfl
    · obtain rfl := List.mem_singleton.mp hmem
      cases h
  · cases h
    exact hfirst rfl

/-- The theorem at a pattern that holds a program. The subject fails the first try, and a key that
no node names keeps its binding. -/
theorem writes_parts_under_named_keys_of_program :
    ∃ c, (twoTries ⟨"any", fun _ => true⟩).specialize = .ok c ∧
    ∃ ok s, (opt c).run (.seq [.int 2, .int 5, .int 7])
        (Captures.empty.set (.name "kept") .nil) = .ok (ok, s) ∧
      s.captures.get? (.name "kept") = some .nil ∧
      (∀ key w, .bound key w ∈ s.effects → w.Within (.seq [.int 2, .int 5, .int 7])) ∧
      ∀ call ∈ s.calls, call.subject.Within (.seq [.int 2, .int 5, .int 7]) := by
  obtain ⟨ok, s, hrun, -, -, hkept, hwithin⟩ := writes_parts_under_named_keys
    (.opt (.specialized (constructible_twoTries ⟨"any", fun _ => true⟩) rfl))
    (.seq [.int 2, .int 5, .int 7]) (Captures.empty.set (.name "kept") .nil)
  refine ⟨_, rfl, ok, s, hrun, ?_, hwithin⟩
  rw [hkept (.name "kept"), Captures.get?_set, if_pos rfl]
  rintro (_ | _ | _ | _ | _ | ⟨_ | _ | _ | _ | _ | _ | _ | _ | h⟩)
  exact not_named_of_twoTries (by decide) (by decide) h

end Pattern

end StructMatch
