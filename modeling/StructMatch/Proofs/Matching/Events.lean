import StructMatch.Proofs.Matching.Leaves
import StructMatch.Proofs.Program.Refusal

/-!
# Matching never goes back

An execution goes through the pattern once. Whatever the subject, and wherever a verdict cuts the
way short, the leaves that act do so in the order in which `Pattern.leaves` lists them, and each of
them at most once.

To say which leaf an effect comes from, `Pattern.events` gives the effects of an outcome together
with the positions at which they come about. It follows `Pattern.outcome` part by part: the second
of two parts has events only if the verdict of the first lets it be reached. Leaving the positions
out, these are the effects of the outcome; leaving the subject out, they are leaves of the pattern,
some passed over and none out of order (`Attributes`). Both halves are closed under the two ways of
putting outcomes together, and so they hold of every pattern without a program
(`ProgramFree.attributed`).

Since no position comes up twice among the leaves, none comes up twice among the events.
-/

namespace StructMatch

/-- The node that has such an effect. -/
def Effect.node : Effect → Pattern
  | .bound key _ => .named key
  | .called call => .literal (.predicate call.predicate)

/-! ### Parts that are reached -/

/-- A list that is passed over unless it is reached. -/
def reached {α : Type} (ok : Bool) (xs : List α) : List α :=
  if ok then xs else []

/-- Passing over a list leaves part of it, which is nothing. -/
theorem reached_sublist {α : Type} (ok : Bool) (xs : List α) : (reached ok xs).Sublist xs := by
  cases ok with
  | true => exact .refl xs
  | false => exact List.nil_sublist xs

/-- What is passed over is passed over whatever is made of it. -/
theorem map_reached {α β : Type} (f : α → β) (ok : Bool) (xs : List α) :
    (reached ok xs).map f = reached ok (xs.map f) := by
  cases ok <;> rfl

namespace Outcome

/-- The second of two outcomes in a row is reached if the first is a success. -/
theorem effects_andThen (a b : Outcome) :
    (a.andThen b).effects = a.effects ++ reached a.ok b.effects := by
  obtain ⟨ok, es⟩ := a
  cases ok with
  | true => rfl
  | false => exact (List.append_nil es).symm

/-- The second of two alternatives is reached if the first is a failure. -/
theorem effects_orElse (a b : Outcome) :
    (a.orElse b).effects = a.effects ++ reached (!a.ok) b.effects := by
  obtain ⟨ok, es⟩ := a
  cases ok with
  | true => exact (List.append_nil es).symm
  | false => rfl

end Outcome

namespace Pattern

/-! ### Events -/

mutual

/-- The effects of executing a pattern, each with the position of the node that has it. -/
def events : Pattern → Value → List (Position × Effect)
  | .literal lit, v => (lit.effects v).map fun e => ([], e)
  | .named key, v => [([], .bound key v)]
  | .seq head middle tail, v =>
    match v with
    | .seq items =>
      let last := lastItems tail.length items
      if sizeFits middle.isSome (leastLength head tail) items.length then
        eventsEach .head head items ++ reached (outcomeEach head items).ok
          (eventsEach .tail tail last ++ reached (outcomeEach tail last).ok
            (match middle with
              | none => []
              | some r =>
                under .middle (events r (.seq (middleItems head.length tail.length items)))))
      else []
    | _ => []
  | .map ⟨entries⟩ exact required, v =>
    match v with
    | .map m => if mapFits ⟨entries⟩ exact required m then eventsEntries .entry entries m else []
    | _ => []
  | .opt inner, v => under .inner (events inner v)
  | .and items, v => eventsAll .item items v
  | .or items, v => eventsAny .item items v
  | _, _ => []
termination_by structural p => p

/-- The events of testing items against patterns pairwise. -/
def eventsEach (branch : Nat → Branch) : List Pattern → List Value → List (Position × Effect)
  | p :: ps, v :: vs =>
    under (branch 0) (events p v)
      ++ reached (p.outcome v).ok (eventsEach (fun i => branch (i + 1)) ps vs)
  | _, _ => []
termination_by structural ps => ps

/-- The events of testing the values that a map holds under the keys of entries. -/
def eventsEntries (branch : Nat → Branch) :
    List (Value × Pattern) → ValueMap → List (Position × Effect)
  | [], _ => []
  | (k, p) :: es, m =>
    (match m.get? k with
      | some v => under (branch 0) (events p v)
      | none => [])
      ++ reached (outcomeEntry p (m.get? k)).ok (eventsEntries (fun i => branch (i + 1)) es m)
termination_by structural es => es

/-- The events of testing one subject against every pattern. -/
def eventsAll (branch : Nat → Branch) : List Pattern → Value → List (Position × Effect)
  | [], _ => []
  | p :: ps, v =>
    under (branch 0) (events p v)
      ++ reached (p.outcome v).ok (eventsAll (fun i => branch (i + 1)) ps v)
termination_by structural ps => ps

/-- The events of testing one subject against patterns up to the first that matches. -/
def eventsAny (branch : Nat → Branch) : List Pattern → Value → List (Position × Effect)
  | [], _ => []
  | p :: ps, v =>
    under (branch 0) (events p v)
      ++ reached (!(p.outcome v).ok) (eventsAny (fun i => branch (i + 1)) ps v)
termination_by structural ps => ps

end

/-- The events of testing the run of items between head and tail. -/
def eventsOfMiddle : Option Pattern → Value → List (Position × Effect)
  | none, _ => []
  | some r, v => under .middle (r.events v)

section Sequence

variable {head tail : List Pattern} {middle : Option Pattern} {items : List Value}

/-- The events of a sequence of the right length, with the three parts in the order of execution. -/
theorem events_seq (hfit : sizeFits middle.isSome (leastLength head tail) items.length) :
    (Pattern.seq head middle tail).events (.seq items)
      = eventsEach .head head items ++ reached (outcomeEach head items).ok
          (eventsEach .tail tail (lastItems tail.length items)
            ++ reached (outcomeEach tail (lastItems tail.length items)).ok
              (eventsOfMiddle middle (.seq (middleItems head.length tail.length items)))) := by
  cases middle with
  | none => exact if_pos hfit
  | some r => exact if_pos hfit

/-- A sequence of the wrong length has no events. -/
theorem events_seq_of_not_fits
    (hfit : ¬ sizeFits middle.isSome (leastLength head tail) items.length) :
    (Pattern.seq head middle tail).events (.seq items) = [] := by
  cases middle with
  | none => exact if_neg hfit
  | some r => exact if_neg hfit

end Sequence

/-- A map whose keys are accepted has the events of its entries. -/
theorem events_map (entries : Assoc Value Pattern) (exact : Bool) (required : Nat)
    (m : ValueMap) :
    (Pattern.map entries exact required).events (.map m)
      = if mapFits entries exact required m then eventsEntries .entry entries.entries m else [] :=
  rfl

/-! ### Effects and their leaves -/

/-- The position of an event, with the node that has the effect. -/
def leafOf (e : Position × Effect) : Position × Pattern :=
  (e.1, e.2.node)

/-- The events attribute the effects of the outcome to leaves, in their order. -/
structure Attributes (es : List (Position × Effect)) (o : Outcome)
    (ls : List (Position × Pattern)) : Prop where
  effects_eq : es.map Prod.snd = o.effects
  sublist : (es.map leafOf).Sublist ls

namespace Attributes

variable {es es' : List (Position × Effect)} {a b : Outcome} {ls ls' : List (Position × Pattern)}

/-- Without an effect there is nothing to attribute. -/
theorem nil (ok : Bool) (ls : List (Position × Pattern)) : Attributes [] ⟨ok, []⟩ ls :=
  ⟨rfl, List.nil_sublist ls⟩

/-- A step down in front of the positions changes neither the effects nor the order of the leaves.
-/
theorem under (h : Attributes es a ls) (b : Branch) :
    Attributes (under b es) a (Pattern.under b ls) where
  effects_eq := by
    rw [Pattern.under, List.map_map]
    exact h.effects_eq
  sublist := by
    have hsublist := h.sublist.map fun l : Position × Pattern => (b :: l.1, l.2)
    rw [List.map_map] at hsublist
    rw [Pattern.under, List.map_map]
    exact hsublist

/-- Two parts in a row, the second of which may be passed over: the effects are put together in the
same way, and what is left of the leaves stays in order. -/
theorem append (h : Attributes es a ls) (h' : Attributes es' b ls') (ok : Bool) :
    Attributes (es ++ reached ok es') ⟨ok, a.effects ++ reached ok b.effects⟩ (ls ++ ls') where
  effects_eq := by rw [List.map_append, map_reached, h.effects_eq, h'.effects_eq]
  sublist := by
    rw [List.map_append, map_reached]
    exact h.sublist.append ((reached_sublist ok _).trans h'.sublist)

/-- The second part is reached if the first one succeeds. -/
theorem andThen (h : Attributes es a ls) (h' : Attributes es' b ls') :
    Attributes (es ++ reached a.ok es') (a.andThen b) (ls ++ ls') where
  effects_eq := by rw [(h.append h' a.ok).effects_eq, Outcome.effects_andThen]
  sublist := (h.append h' a.ok).sublist

/-- The second part is reached if the first one fails. -/
theorem orElse (h : Attributes es a ls) (h' : Attributes es' b ls') :
    Attributes (es ++ reached (!a.ok) es') (a.orElse b) (ls ++ ls') where
  effects_eq := by rw [(h.append h' !a.ok).effects_eq, Outcome.effects_orElse]
  sublist := (h.append h' !a.ok).sublist

end Attributes

/-- On every subject, the events of the pattern attribute the effects of its outcome to its leaves.
-/
def Attributed (p : Pattern) : Prop :=
  ∀ v, Attributes (p.events v) (p.outcome v) p.leaves

section Lists

variable {ps : List Pattern} (h : ∀ p ∈ ps, p.Attributed)
include h

/-- Items tested pairwise. Leaves of items without a value are passed over. -/
theorem attributes_each (branch : Nat → Branch) (vs : List Value) :
    Attributes (eventsEach branch ps vs) (outcomeEach ps vs) (leavesOfItems branch ps) := by
  induction ps generalizing branch vs with
  | nil => exact .nil true _
  | cons p ps ih =>
    cases vs with
    | nil => exact .nil true _
    | cons v vs =>
      obtain ⟨hp, hps⟩ := List.forall_mem_cons.mp h
      exact ((hp v).under (branch 0)).andThen (ih hps _ vs)

/-- Items of a conjunction, up to the first that fails. -/
theorem attributes_all (branch : Nat → Branch) (v : Value) :
    Attributes (eventsAll branch ps v) (outcomeAll ps v) (leavesOfItems branch ps) := by
  induction ps generalizing branch with
  | nil => exact .nil true _
  | cons p ps ih =>
    obtain ⟨hp, hps⟩ := List.forall_mem_cons.mp h
    exact ((hp v).under (branch 0)).andThen (ih hps _)

/-- Items of a disjunction, up to the first that succeeds. -/
theorem attributes_any (branch : Nat → Branch) (v : Value) :
    Attributes (eventsAny branch ps v) (outcomeAny ps v) (leavesOfItems branch ps) := by
  induction ps generalizing branch with
  | nil => exact .nil false _
  | cons p ps ih =>
    obtain ⟨hp, hps⟩ := List.forall_mem_cons.mp h
    exact ((hp v).under (branch 0)).orElse (ih hps _)

end Lists

/-- Entries in the order of the pattern. Leaves of an absent entry are passed over. -/
theorem attributes_entries {es : List (Value × Pattern)} (h : ∀ e ∈ es, e.2.Attributed)
    (branch : Nat → Branch) (m : ValueMap) :
    Attributes (eventsEntries branch es m) (outcomeEntries es m) (leavesOfEntries branch es) := by
  induction es generalizing branch with
  | nil => exact .nil true _
  | cons e es ih =>
    obtain ⟨k, p⟩ := e
    obtain ⟨hp, hes⟩ := List.forall_mem_cons.mp h
    rw [outcomeEntries_cons, eventsEntries, leavesOfEntries]
    refine Attributes.andThen ?_ (ih hes _)
    cases m.get? k with
    | none => exact .nil p.isOpt _
    | some v => exact (hp v).under (branch 0)

/-- A predicate is its own leaf, and other literals have none. -/
theorem Attributed.literal (lit : Literal) : (Pattern.literal lit).Attributed := by
  intro v
  cases lit with
  | predicate p => exact ⟨rfl, .refl _⟩
  | _ => exact .nil _ _

/-- Head, tail and rest slot, in the order in which their leaves are listed. -/
theorem Attributed.seq {head tail : List Pattern} {middle : Option Pattern}
    (hhead : ∀ p ∈ head, p.Attributed) (hmiddle : ∀ r ∈ middle, r.Attributed)
    (htail : ∀ p ∈ tail, p.Attributed) : (Pattern.seq head middle tail).Attributed := by
  intro v
  cases v with
  | seq items =>
    by_cases hfit : sizeFits middle.isSome (leastLength head tail) items.length
    · rw [outcome_seq hfit, events_seq hfit, leaves_seq]
      -- the leaves are listed in the order in which the outcomes are put together
      refine (attributes_each hhead .head items).andThen
        ((attributes_each htail .tail (lastItems tail.length items)).andThen ?_)
      cases middle with
      | none => exact .nil true _
      | some r => exact (hmiddle r rfl _).under .middle
    · rw [outcome_seq_of_not_fits hfit, events_seq_of_not_fits hfit]
      exact .nil false _
  | _ => exact .nil false _

/-- The entries of a map, if the keys of the subject are accepted. -/
theorem Attributed.map {entries : Assoc Value Pattern} {exact : Bool} {required : Nat}
    (h : ∀ e ∈ entries.entries, e.2.Attributed) :
    (Pattern.map entries exact required).Attributed := by
  intro v
  cases v with
  | map m =>
    rw [outcome_map, events_map]
    split
    · exact attributes_entries h .entry m
    · exact .nil false _
  | _ => exact .nil false _

/-- **Every effect comes from a leaf, and in their order.** -/
theorem ProgramFree.attributed {p : Pattern} (hfree : p.ProgramFree) : p.Attributed := by
  induction p with
  | literal lit => exact .literal lit
  | any | rest => exact fun _ => .nil true _
  | named key => exact fun _ => ⟨rfl, .refl _⟩
  -- the parts have no programs either, as their nodes are nodes of the whole
  | seq head middle tail ihHead ihMiddle ihTail =>
    refine .seq (fun p hp => ihHead p hp ?_) (fun r hr => ihMiddle r hr ?_)
      (fun p hp => ihTail p hp ?_)
    · exact fun q hq => hfree q (.head hp hq)
    · obtain rfl : middle = some r := hr
      exact fun q hq => hfree q (.middle hq)
    · exact fun q hq => hfree q (.tail hp hq)
  | map entries exact required ih =>
    exact .map fun e he => ih e he fun q hq => hfree q (.entry he hq)
  | opt inner ih => exact fun v => (ih (fun q hq => hfree q (.opt hq)) v).under .inner
  | and items ih =>
    exact attributes_all (fun p hp => ih p hp fun q hq => hfree q (.and hp hq)) .item
  | or items ih =>
    exact attributes_any (fun p hp => ih p hp fun q hq => hfree q (.or hp hq)) .item
  -- a program is a node of itself
  | compiled => exact absurd (hfree _ .self).symm Bool.false_ne_true

/-- **Matching never goes back.** Of a constructible pattern without a program, the leaves that act
are listed with their positions, none of which comes up twice. Every run over a subject has the same
events, whatever the captures, and its effects are theirs. The events come from leaves in the order
of the list; so the nodes that act in a run, one for each effect, are some of those listed, in
order, and no position comes up twice among the events. The pattern can be specialized, and the runs
of its program end with the same verdict in the same state. -/
theorem matching_never_goes_back {p : Pattern} (hp : p.Constructible) (hfree : p.ProgramFree)
    (v : Value) :
    (∀ path q, (path, q) ∈ p.leaves ↔ p.part? path = some q ∧ q.acts) ∧
    (p.leaves.map Prod.fst).Nodup ∧
    ((p.events v).map leafOf).Sublist p.leaves ∧ ((p.events v).map Prod.fst).Nodup ∧
    ∃ c ok, p.specialize = .ok c ∧ ∀ captures, ∃ s,
      p.run v captures = .ok (ok, s) ∧ c.run v captures = .ok (ok, s) ∧
      s.effects = (p.events v).map Prod.snd ∧
      (s.effects.map Effect.node).Sublist (p.leaves.map Prod.snd) := by
  have hattributes : Attributes (p.events v) (p.outcome v) p.leaves := hfree.attributed v
  -- positions and nodes of the events, each a sublist because the events are
  have hpositions := hattributes.sublist.map Prod.fst
  have hnodes := hattributes.sublist.map Prod.snd
  rw [List.map_map] at hpositions hnodes
  obtain ⟨c, hc⟩ := hfree.exists_specialize
  refine ⟨fun path q => mem_leaves_iff, p.nodup_leaves, hattributes.sublist,
    p.nodup_leaves.sublist hpositions, c, (p.outcome v).ok, hc, fun captures => ?_⟩
  -- the effects of a run are those of the outcome, whatever it starts from
  have hrun := hp.run_eq_outcome v captures
  have heffects : ((MatchState.start captures).after (p.outcome v).effects).effects
      = (p.events v).map Prod.snd := hattributes.effects_eq.symm
  refine ⟨_, hrun, (run_specialize hc v captures).trans hrun, heffects, ?_⟩
  rw [heffects, List.map_map]
  exact hnodes

/-- A node with no program among its parts, and none itself, has none below it. -/
theorem programFree_of_children {p : Pattern} (h : p.isCompiled = false)
    (hchildren : ∀ c ∈ p.children, c.2.ProgramFree) : p.ProgramFree := by
  -- every way down from the node leads to one of its parts first
  have hbranch : ∀ {b r}, p.branch? b = some r → r.ProgramFree := fun hr =>
    hchildren _ (mem_children_iff.mpr hr)
  intro q hq
  cases hq with
  | self => exact h
  | head hmem hq =>
    obtain ⟨i, hi⟩ := List.mem_iff_getElem?.mp hmem
    exact hbranch (b := .head i) hi q hq
  | middle hq => exact hbranch (b := .middle) rfl q hq
  | tail hmem hq =>
    obtain ⟨i, hi⟩ := List.mem_iff_getElem?.mp hmem
    exact hbranch (b := .tail i) hi q hq
  | entry hmem hq =>
    obtain ⟨i, hi⟩ := List.mem_iff_getElem?.mp hmem
    exact hbranch (b := .entry i) (Option.map_eq_some_iff.mpr ⟨_, hi, rfl⟩) q hq
  | opt hq => exact hbranch (b := .inner) rfl q hq
  | and hmem hq | or hmem hq =>
    obtain ⟨i, hi⟩ := List.mem_iff_getElem?.mp hmem
    exact hbranch (b := .item i) hi q hq
  | origin _ => cases h

/-- A node without parts that is no program has none below it. -/
theorem programFree_of_children_eq_nil {p : Pattern} (h : p.isCompiled = false)
    (hnone : p.children = []) : p.ProgramFree := by
  refine programFree_of_children h ?_
  rw [hnone]
  exact List.forall_mem_nil _

theorem programFree_twoTries (p : Predicate) : (twoTries p).ProgramFree := by
  have hatom := @programFree_of_children_eq_nil
  refine programFree_of_children rfl (List.forall_mem_cons.mpr
    ⟨programFree_of_children rfl (List.forall_mem_cons.mpr ⟨?_, List.forall_mem_cons.mpr
      ⟨hatom rfl rfl, List.forall_mem_singleton.mpr ?_⟩⟩),
      List.forall_mem_singleton.mpr (hatom rfl rfl)⟩)
  · exact programFree_of_children rfl (List.forall_mem_cons.mpr
      ⟨hatom rfl rfl, List.forall_mem_singleton.mpr (hatom rfl rfl)⟩)
  · exact programFree_of_children rfl (List.forall_mem_cons.mpr
      ⟨hatom rfl rfl, List.forall_mem_singleton.mpr (hatom rfl rfl)⟩)

/-- The theorem at a subject that fails the first try at the last item. The leaf between head and
tail is passed over, as the rest slot comes last. -/
theorem matching_never_goes_back_of_twoTries :
    ((twoTries ⟨"any", fun _ => true⟩).events (.seq [.int 2, .int 5, .int 7])).map Prod.fst
        = [[.item 0, .head 0, .item 0], [.item 0, .head 0, .item 1], [.item 1]] ∧
      ∃ c ok, (twoTries ⟨"any", fun _ => true⟩).specialize = .ok c ∧ ∀ captures, ∃ s,
        c.run (.seq [.int 2, .int 5, .int 7]) captures = .ok (ok, s) ∧
        (s.effects.map Effect.node).Sublist
          ((twoTries ⟨"any", fun _ => true⟩).leaves.map Prod.snd) := by
  obtain ⟨-, -, -, -, c, ok, hc, hruns⟩ :=
    matching_never_goes_back (constructible_twoTries ⟨"any", fun _ => true⟩)
      (programFree_twoTries _) (.seq [.int 2, .int 5, .int 7])
  refine ⟨rfl, c, ok, hc, fun captures => ?_⟩
  obtain ⟨s, -, hrun, -, hnodes⟩ := hruns captures
  exact ⟨s, hrun, hnodes⟩

end Pattern

end StructMatch
