import Mathlib.Data.List.Nodup
import StructMatch.Proofs.Matching.Replacing

/-!
# The leaves that act

Two kinds of nodes have an effect of their own, those that bind a key and those that call a
predicate. They are leaves of the pattern, and `Pattern.leaves` lists them with their positions, in
the order in which an execution can come to them: in a sequence the head, the tail, and then the
rest slot; in a map the entries in their own order; in a conjunction or a disjunction the items in
order; and in an optional pattern the pattern inside.

The list is right about the pattern (`mem_leaves_iff`): it has the acting nodes that stand at some
position of the pattern, with these positions, and no others. No position comes up twice
(`nodup_leaves`). Both rest on one description of a node that does not act itself: its leaves are
those of its parts, one part after another (`leaves_of_not_acts`), and the parts are reached by
different steps (`nodup_children`).
-/

namespace StructMatch

namespace Pattern

/-! ### Parts in the order of execution -/

/-- Patterns with the steps that lead to them. -/
def numbered (branch : Nat → Branch) (ps : List Pattern) : List (Branch × Pattern) :=
  ps.mapIdx fun i p => (branch i, p)

/-- The first part is reached by the first step, and the others by the steps behind it. -/
theorem numbered_cons (branch : Nat → Branch) (p : Pattern) (ps : List Pattern) :
    numbered branch (p :: ps) = (branch 0, p) :: numbered (fun i => branch (i + 1)) ps :=
  List.mapIdx_cons

/-- A step leads to the part at its number. -/
theorem mem_numbered_iff {branch : Nat → Branch} {ps : List Pattern} {b : Branch} {p : Pattern} :
    (b, p) ∈ numbered branch ps ↔ ∃ i, b = branch i ∧ ps[i]? = some p := by
  rw [numbered, List.mem_mapIdx]
  constructor
  · rintro ⟨i, hi, heq⟩
    obtain ⟨rfl, rfl⟩ := Prod.mk.inj heq
    exact ⟨i, rfl, List.getElem?_eq_getElem hi⟩
  · rintro ⟨i, rfl, hp⟩
    obtain ⟨hi, rfl⟩ := List.getElem?_eq_some_iff.mp hp
    exact ⟨i, hi, rfl⟩

/-- The steps to parts in a list are of the form that the list has. -/
theorem exists_of_mem_numbered {branch : Nat → Branch} {ps : List Pattern} {b : Branch}
    (hb : b ∈ (numbered branch ps).map Prod.fst) : ∃ i, b = branch i := by
  obtain ⟨⟨_, p⟩, hp, rfl⟩ := List.mem_map.mp hb
  obtain ⟨i, rfl, -⟩ := mem_numbered_iff.mp hp
  exact ⟨i, rfl⟩

/-- Different numbers make different steps. -/
theorem nodup_numbered {branch : Nat → Branch} (hbranch : Function.Injective branch)
    (ps : List Pattern) : ((numbered branch ps).map Prod.fst).Nodup := by
  induction ps generalizing branch with
  | nil => exact List.nodup_nil
  | cons p ps ih =>
    rw [numbered_cons, List.map_cons, List.nodup_cons]
    -- the first step is not among those behind it, which have larger numbers
    refine ⟨fun hmem => ?_, ih (hbranch.comp (add_left_injective 1))⟩
    obtain ⟨i, hi⟩ := exists_of_mem_numbered hmem
    exact absurd (hbranch hi.symm) (Nat.succ_ne_zero i)

/-- The parts of a node in the order in which they are executed, with the steps that lead to them.
-/
def children : Pattern → List (Branch × Pattern)
  | .seq head middle tail =>
    numbered .head head ++ numbered .tail tail ++ middle.toList.map fun r => (.middle, r)
  | .map entries _ _ => numbered .entry (entries.entries.map (·.2))
  | .opt inner => [(.inner, inner)]
  | .and items => numbered .item items
  | .or items => numbered .item items
  | _ => []

/-- The parts are what is found by one step, each in the list once. -/
theorem mem_children_iff {p q : Pattern} {b : Branch} :
    (b, q) ∈ p.children ↔ p.branch? b = some q := by
  cases p with
  | seq head middle tail =>
    rw [children, List.mem_append, List.mem_append, mem_numbered_iff, mem_numbered_iff]
    cases b <;> simp [branch?]
  | map entries exact required =>
    rw [children, mem_numbered_iff]
    cases b <;> simp [branch?]
  | opt inner => cases b <;> simp [children, branch?, eq_comm]
  | and items | or items =>
    rw [children, mem_numbered_iff]
    cases b <;> simp [branch?]
  | _ => simp [children, branch?]

/-- No two parts of a node are reached by the same step. -/
theorem nodup_children (p : Pattern) : (p.children.map Prod.fst).Nodup := by
  cases p with
  | seq head middle tail =>
    -- the three lists have steps of different forms, so it is enough to look at each of them
    have hheads := nodup_numbered (fun _ _ => Branch.head.inj) head
    have htails := nodup_numbered (fun _ _ => Branch.tail.inj) tail
    have hmiddle : ((middle.toList.map fun r => (Branch.middle, r)).map Prod.fst).Nodup := by
      cases middle with
      | none => exact List.nodup_nil
      | some r => exact List.nodup_singleton _
    rw [children, List.map_append, List.map_append]
    refine List.nodup_append.mpr ⟨List.nodup_append.mpr ⟨hheads, htails, ?_⟩, hmiddle, ?_⟩
    · intro b hb b' hb'
      obtain ⟨i, rfl⟩ := exists_of_mem_numbered hb
      obtain ⟨j, rfl⟩ := exists_of_mem_numbered hb'
      exact nofun
    · intro b hb b' hb'
      obtain ⟨⟨_, r⟩, hr, rfl⟩ := List.mem_map.mp hb'
      obtain ⟨r, -, heq⟩ := List.mem_map.mp hr
      obtain ⟨rfl, -⟩ := Prod.mk.inj heq
      rcases List.mem_append.mp hb with hb | hb
      · obtain ⟨i, rfl⟩ := exists_of_mem_numbered hb
        exact nofun
      · obtain ⟨i, rfl⟩ := exists_of_mem_numbered hb
        exact nofun
  | map entries exact required => exact nodup_numbered (fun _ _ => Branch.entry.inj) _
  | opt inner => exact List.nodup_singleton _
  | and items | or items => exact nodup_numbered (fun _ _ => Branch.item.inj) items
  | _ => exact List.nodup_nil

/-- A property of all patterns, from one case that knows of a pattern only its parts. -/
theorem children_induction {motive : Pattern → Prop}
    (h : ∀ p : Pattern, (∀ c ∈ p.children, motive c.2) → motive p) (p : Pattern) : motive p := by
  induction p with
  -- a part is found by its step, and the step says which list it is in
  | seq head middle tail ihHead ihMiddle ihTail =>
    refine h _ fun ⟨b, q⟩ hc => ?_
    have hb := mem_children_iff.mp hc
    cases b with
    | head i => exact ihHead q (List.mem_of_getElem? hb)
    | middle => exact ihMiddle q hb
    | tail i => exact ihTail q (List.mem_of_getElem? hb)
    | _ => cases hb
  | map entries exact required ih =>
    refine h _ fun ⟨b, q⟩ hc => ?_
    obtain ⟨i, -, hq⟩ := mem_numbered_iff.mp hc
    obtain ⟨e, he, rfl⟩ := List.mem_map.mp (List.mem_of_getElem? hq)
    exact ih e he
  | opt inner ih =>
    refine h _ fun c hc => ?_
    obtain rfl := List.mem_singleton.mp hc
    exact ih
  | and items ih | or items ih =>
    refine h _ fun ⟨b, q⟩ hc => ?_
    obtain ⟨i, -, hq⟩ := mem_numbered_iff.mp hc
    exact ih q (List.mem_of_getElem? hq)
  | _ => exact h _ fun _ hc => absurd hc List.not_mem_nil

/-! ### Leaves -/

/-- The node has an effect of its own. -/
def acts : Pattern → Bool
  | .named _ => true
  | .literal (.predicate _) => true
  | _ => false

/-- What is found under a part, seen from above. -/
def under {α : Type} (b : Branch) (xs : List (Position × α)) : List (Position × α) :=
  xs.map fun x => (b :: x.1, x.2)

mutual

/-- The acting nodes of a pattern with their positions, in the order of execution. -/
def leaves : Pattern → List (Position × Pattern)
  | .literal lit =>
    match lit with
    | .predicate p => [([], .literal (.predicate p))]
    | _ => []
  | .named key => [([], .named key)]
  | .seq head middle tail =>
    leavesOfItems .head head ++ (leavesOfItems .tail tail ++
      (match middle with
        | none => []
        | some r => under .middle (leaves r)))
  | .map ⟨entries⟩ _ _ => leavesOfEntries .entry entries
  | .opt inner => under .inner (leaves inner)
  | .and items => leavesOfItems .item items
  | .or items => leavesOfItems .item items
  | _ => []
termination_by structural p => p

/-- The acting nodes of several patterns. -/
def leavesOfItems (branch : Nat → Branch) : List Pattern → List (Position × Pattern)
  | [] => []
  | p :: ps => under (branch 0) (leaves p) ++ leavesOfItems (fun i => branch (i + 1)) ps
termination_by structural ps => ps

/-- The acting nodes of the patterns of entries. -/
def leavesOfEntries (branch : Nat → Branch) :
    List (Value × Pattern) → List (Position × Pattern)
  | [] => []
  | (_, p) :: es => under (branch 0) (leaves p) ++ leavesOfEntries (fun i => branch (i + 1)) es
termination_by structural es => es

end

/-! ### Leaves by parts -/

/-- The acting nodes of the pattern in a rest slot. -/
def leavesOfMiddle : Option Pattern → List (Position × Pattern)
  | none => []
  | some r => under .middle r.leaves

/-- The leaves of a sequence: head, tail, rest slot. -/
theorem leaves_seq (head : List Pattern) (middle : Option Pattern) (tail : List Pattern) :
    (Pattern.seq head middle tail).leaves
      = leavesOfItems .head head ++ (leavesOfItems .tail tail ++ leavesOfMiddle middle) := by
  cases middle <;> rfl

/-- The leaves of items, one item after another. -/
theorem leavesOfItems_eq (branch : Nat → Branch) (ps : List Pattern) :
    leavesOfItems branch ps = (numbered branch ps).flatMap fun c => under c.1 c.2.leaves := by
  induction ps generalizing branch with
  | nil => rfl
  | cons p ps ih => rw [leavesOfItems, ih, numbered_cons, List.flatMap_cons]

/-- The leaves of entries are those of their patterns; the keys play no part. -/
theorem leavesOfEntries_eq (branch : Nat → Branch) (es : List (Value × Pattern)) :
    leavesOfEntries branch es = leavesOfItems branch (es.map (·.2)) := by
  induction es generalizing branch with
  | nil => rfl
  | cons e es ih => rw [leavesOfEntries, ih, List.map_cons, leavesOfItems]

/-- A node that acts is its own leaf and has no other. -/
theorem leaves_of_acts {p : Pattern} (h : p.acts) : p.leaves = [([], p)] := by
  cases p with
  | named key => rfl
  | literal lit =>
    cases lit with
    | predicate => rfl
    | _ => cases h
  | _ => cases h

/-- The leaves of a node that does not act itself are those of its parts. -/
theorem leaves_of_not_acts {p : Pattern} (h : p.acts = false) :
    p.leaves = p.children.flatMap fun c => under c.1 c.2.leaves := by
  cases p with
  | named key => cases h
  | literal lit =>
    cases lit with
    | predicate => cases h
    | _ => rfl
  | seq head middle tail =>
    rw [leaves_seq, children, List.flatMap_append, List.flatMap_append, leavesOfItems_eq,
      leavesOfItems_eq, List.append_assoc]
    cases middle with
    | none => rfl
    | some r =>
      rw [Option.toList_some, List.map_singleton, List.flatMap_singleton]
      rfl
  | map entries exact required =>
    rw [children, ← leavesOfItems_eq, ← leavesOfEntries_eq]
    rfl
  | opt inner =>
    rw [children, List.flatMap_singleton]
    rfl
  | and items | or items =>
    rw [children, ← leavesOfItems_eq]
    rfl
  | _ => rfl

/-- A node that acts is a leaf. -/
theorem branch?_of_acts {p : Pattern} (h : p.acts) (b : Branch) : p.branch? b = none := by
  cases p with
  | named | literal => rfl
  | _ => cases h

/-- What is seen under a part is what is found there, one step further up. -/
theorem mem_under_iff {α : Type} {b : Branch} {xs : List (Position × α)} {path : Position} {x : α} :
    (path, x) ∈ under b xs ↔ ∃ path', path = b :: path' ∧ (path', x) ∈ xs := by
  rw [under, List.mem_map]
  constructor
  · rintro ⟨⟨path', y⟩, hy, heq⟩
    obtain ⟨rfl, rfl⟩ := Prod.mk.inj heq
    exact ⟨path', rfl, hy⟩
  · rintro ⟨path', rfl, hx⟩
    exact ⟨_, hx, rfl⟩

/-- The positions under a part begin with the step to it. -/
theorem map_fst_under {α : Type} (b : Branch) (xs : List (Position × α)) :
    (under b xs).map Prod.fst = (xs.map Prod.fst).map (b :: ·) := by
  rw [under, List.map_map, List.map_map]
  rfl

/-- The empty position is that of the pattern itself. -/
theorem mem_leaves_nil_iff {p q : Pattern} : ([], q) ∈ p.leaves ↔ p = q ∧ q.acts := by
  constructor
  · intro hmem
    by_cases hacts : p.acts
    · rw [leaves_of_acts hacts, List.mem_singleton] at hmem
      obtain ⟨-, rfl⟩ := Prod.mk.inj hmem
      exact ⟨rfl, hacts⟩
    · -- what is found below a part has a longer position
      rw [leaves_of_not_acts (Bool.eq_false_iff.mpr hacts), List.mem_flatMap] at hmem
      obtain ⟨c, -, hc⟩ := hmem
      obtain ⟨path, heq, -⟩ := mem_under_iff.mp hc
      cases heq
  · rintro ⟨rfl, hacts⟩
    rw [leaves_of_acts hacts]
    exact List.mem_singleton_self _

/-- Behind a step there are the leaves of the part that it leads to. -/
theorem mem_leaves_cons_iff {p q : Pattern} {b : Branch} {path : Position} :
    (b :: path, q) ∈ p.leaves ↔ ∃ r, p.branch? b = some r ∧ (path, q) ∈ r.leaves := by
  by_cases hacts : p.acts
  · rw [leaves_of_acts hacts, branch?_of_acts hacts]
    simp
  · rw [leaves_of_not_acts (Bool.eq_false_iff.mpr hacts), List.mem_flatMap]
    constructor
    · rintro ⟨⟨b', r⟩, hr, hq⟩
      obtain ⟨path', heq, hq⟩ := mem_under_iff.mp hq
      obtain ⟨rfl, rfl⟩ := List.cons.inj heq
      exact ⟨r, mem_children_iff.mp hr, hq⟩
    · rintro ⟨r, hr, hq⟩
      exact ⟨(b, r), mem_children_iff.mpr hr, mem_under_iff.mpr ⟨path, rfl, hq⟩⟩

/-- **The leaves are the acting nodes**, each with the position at which it stands. -/
theorem mem_leaves_iff {p q : Pattern} {path : Position} :
    (path, q) ∈ p.leaves ↔ p.part? path = some q ∧ q.acts := by
  -- by induction on the position: a step down goes to a part, where the hypothesis applies
  induction path generalizing p with
  | nil => rw [mem_leaves_nil_iff, part?, Option.some.injEq]
  | cons b path ih =>
    rw [mem_leaves_cons_iff, part?, Option.bind_eq_some_iff]
    simp only [ih, ← and_assoc, exists_and_right]

/-- **No position comes up twice** among the leaves. -/
theorem nodup_leaves (p : Pattern) : (p.leaves.map Prod.fst).Nodup := by
  induction p using children_induction with
  | h p ih =>
    by_cases hacts : p.acts
    · rw [leaves_of_acts hacts]
      exact List.nodup_singleton _
    · rw [leaves_of_not_acts (Bool.eq_false_iff.mpr hacts), List.map_flatMap, List.nodup_flatMap]
      refine ⟨fun c hc => ?_, ?_⟩
      · -- below one part: the positions there, with the same step in front
        rw [map_fst_under]
        exact (ih c hc).map List.cons_injective
      · -- positions below two parts differ in the first step
        have hsteps : p.children.Pairwise fun c d => c.1 ≠ d.1 :=
          List.pairwise_map.mp p.nodup_children
        refine hsteps.imp fun {c d} hne => ?_
        intro path hc hd
        simp only [map_fst_under] at hc hd
        obtain ⟨_, -, rfl⟩ := List.mem_map.mp hc
        obtain ⟨_, -, heq⟩ := List.mem_map.mp hd
        exact hne (List.cons.inj heq).1.symm

end Pattern

end StructMatch
