import Mathlib.Logic.Relation
import StructMatch.Proofs.Pattern.Induction

/-!
# Flat forms

The same items can be put together by nested conjunctions in many ways, and by nested disjunctions
likewise. `Pattern.SplicesOnce` takes one such nesting away: somewhere in a pattern, the items of a
conjunction that stands directly in a conjunction move into the outer one, or those of a disjunction
into a disjunction. `Pattern.flat` takes away all of them, at every depth and in one walk.

The walk is right about the changes. It only makes changes of this kind
(`splices_flat`), it leaves none to be made (`not_splicesOnce_flat`), and it does not matter which
ones have been made before (`SplicesOnce.flat_eq`). Patterns are therefore regroupings of one
another exactly if they have the same flat form (`regroups_iff`).
-/

namespace StructMatch

namespace Pattern

/-! ### The walk -/

/-- The items of a conjunction; any other pattern is the one item of itself. -/
def conjuncts : Pattern → List Pattern
  | .and items => items
  | p => [p]

/-- The items of a disjunction; any other pattern is the one item of itself. -/
def disjuncts : Pattern → List Pattern
  | .or items => items
  | p => [p]

mutual

/-- The pattern with every conjunction that stands directly in a conjunction, and every disjunction
that stands directly in a disjunction, spliced into its parent. -/
def flat : Pattern → Pattern
  | .seq head middle tail =>
    .seq (flatAll head)
      (match middle with
        | none => none
        | some r => some (flat r))
      (flatAll tail)
  | .map ⟨entries⟩ exact required => .map ⟨flatEntries entries⟩ exact required
  | .opt inner => .opt (flat inner)
  | .and items => .and ((flatAll items).flatMap conjuncts)
  | .or items => .or ((flatAll items).flatMap disjuncts)
  | p => p
termination_by structural p => p

/-- The flat forms of several patterns. -/
def flatAll : List Pattern → List Pattern
  | [] => []
  | p :: ps => flat p :: flatAll ps
termination_by structural ps => ps

/-- Entries with the flat forms of their patterns. -/
def flatEntries : List (Value × Pattern) → List (Value × Pattern)
  | [] => []
  | (k, p) :: es => (k, flat p) :: flatEntries es
termination_by structural es => es

end

/-- Several patterns are flattened one by one. -/
theorem flatAll_eq_map (ps : List Pattern) : flatAll ps = ps.map flat := by
  induction ps with
  | nil => rfl
  | cons p ps ih => rw [flatAll, ih, List.map_cons]

/-- An entry with the flat form of its pattern. -/
def flatEntry (e : Value × Pattern) : Value × Pattern :=
  (e.1, e.2.flat)

/-- Entries are flattened one by one. -/
theorem flatEntries_eq_map (es : List (Value × Pattern)) : flatEntries es = es.map flatEntry := by
  induction es with
  | nil => rfl
  | cons e es ih => rw [flatEntries, ih, List.map_cons]; rfl

/-- A sequence is flattened in its parts. -/
theorem flat_seq (head : List Pattern) (middle : Option Pattern) (tail : List Pattern) :
    (Pattern.seq head middle tail).flat
      = .seq (head.map flat) (middle.map flat) (tail.map flat) := by
  rw [← flatAll_eq_map, ← flatAll_eq_map]
  cases middle <;> rfl

/-- A map is flattened in its entries. Their keys stay, and so does the count of them. -/
theorem flat_map (entries : Assoc Value Pattern) (exact : Bool) (required : Nat) :
    (Pattern.map entries exact required).flat
      = .map ⟨entries.entries.map flatEntry⟩ exact required := by
  rw [← flatEntries_eq_map]
  rfl

/-- A conjunction is flattened in its items first, and then those that are conjunctions themselves
are spliced in. -/
theorem flat_and (items : List Pattern) :
    (Pattern.and items).flat = .and ((items.map flat).flatMap conjuncts) := by
  rw [← flatAll_eq_map]
  rfl

/-- A disjunction is flattened in its items first, and then those that are disjunctions themselves
are spliced in. -/
theorem flat_or (items : List Pattern) :
    (Pattern.or items).flat = .or ((items.map flat).flatMap disjuncts) := by
  rw [← flatAll_eq_map]
  rfl

/-! ### One change -/

/-- A conjunction that stands directly in a conjunction, or a disjunction that stands directly in a
disjunction, gives way to its items, in one place at any depth. -/
inductive SplicesOnce : Pattern → Pattern → Prop
  | spliceAnd (before inner after : List Pattern) :
    SplicesOnce (.and (before ++ .and inner :: after)) (.and (before ++ inner ++ after))
  | spliceOr (before inner after : List Pattern) :
    SplicesOnce (.or (before ++ .or inner :: after)) (.or (before ++ inner ++ after))
  | head (before after : List Pattern) {q q' : Pattern} (middle : Option Pattern)
    (tail : List Pattern) : SplicesOnce q q' →
    SplicesOnce (.seq (before ++ q :: after) middle tail) (.seq (before ++ q' :: after) middle tail)
  | middle (head tail : List Pattern) {q q' : Pattern} : SplicesOnce q q' →
    SplicesOnce (.seq head (some q) tail) (.seq head (some q') tail)
  | tail (head : List Pattern) (middle : Option Pattern) (before after : List Pattern)
    {q q' : Pattern} : SplicesOnce q q' →
    SplicesOnce (.seq head middle (before ++ q :: after)) (.seq head middle (before ++ q' :: after))
  | entry (before after : List (Value × Pattern)) (k : Value) {q q' : Pattern} (exact : Bool)
    (required : Nat) : SplicesOnce q q' →
    SplicesOnce (.map ⟨before ++ (k, q) :: after⟩ exact required)
      (.map ⟨before ++ (k, q') :: after⟩ exact required)
  | opt {q q' : Pattern} : SplicesOnce q q' → SplicesOnce (.opt q) (.opt q')
  | and (before after : List Pattern) {q q' : Pattern} : SplicesOnce q q' →
    SplicesOnce (.and (before ++ q :: after)) (.and (before ++ q' :: after))
  | or (before after : List Pattern) {q q' : Pattern} : SplicesOnce q q' →
    SplicesOnce (.or (before ++ q :: after)) (.or (before ++ q' :: after))

/-- One pattern becomes the other by splicing, and by undoing it, in any number of places. -/
def Regroups : Pattern → Pattern → Prop :=
  Relation.EqvGen SplicesOnce

/-! ### The walk makes these changes -/

/-- Changes at the items of a list, one item after another, in a place where such a list stands. -/
theorem reflTransGen_map {α β : Type} {r : α → α → Prop} {s : β → β → Prop} {f : α → α}
    (place : List α → β)
    (hplace : ∀ before after a a', r a a' →
      s (place (before ++ a :: after)) (place (before ++ a' :: after)))
    {xs : List α} (h : ∀ x ∈ xs, Relation.ReflTransGen r x (f x)) :
    Relation.ReflTransGen s (place xs) (place (xs.map f)) := by
  induction xs generalizing place with
  | nil => exact .refl
  | cons x xs ih =>
    obtain ⟨hx, hxs⟩ := List.forall_mem_cons.mp h
    have hfirst : Relation.ReflTransGen s (place (x :: xs)) (place (f x :: xs)) :=
      hx.lift (fun a => place (a :: xs)) fun a a' => hplace [] xs a a'
    -- the others are changed in the place behind the first
    exact hfirst.trans
      (ih (fun xs => place (f x :: xs)) (fun before => hplace (f x :: before)) hxs)

/-- Where the items of a nested pattern may give way to it, all nested patterns of a list do so, one
after another. -/
theorem splices_flatMap {combine : List Pattern → Pattern} {parts : Pattern → List Pattern}
    (hparts : ∀ p, parts p = [p] ∨ p = combine (parts p))
    (hsplice : ∀ before inner after, SplicesOnce (combine (before ++ combine inner :: after))
      (combine (before ++ inner ++ after))) (before ps : List Pattern) :
    Relation.ReflTransGen SplicesOnce (combine (before ++ ps))
      (combine (before ++ ps.flatMap parts)) := by
  induction ps generalizing before with
  | nil => exact .refl
  | cons p ps ih =>
    rw [List.flatMap_cons, ← List.append_assoc]
    -- the induction is on what is still to come; the items spliced so far stand before it
    refine Relation.ReflTransGen.trans ?_ (ih (before ++ parts p))
    rcases hparts p with hp | hp
    · rw [hp, List.append_assoc, List.singleton_append]
    · -- a nested pattern gives way to its items in one change
      have hchange := hsplice before (parts p) ps
      rw [← hp] at hchange
      exact .single hchange

/-- What is not a conjunction is a single item, and what is one is made of its items. -/
theorem conjuncts_eq (p : Pattern) : p.conjuncts = [p] ∨ p = .and p.conjuncts := by
  cases p with
  | and items => exact .inr rfl
  | _ => exact .inl rfl

/-- What is not a disjunction is a single item, and what is one is made of its items. -/
theorem disjuncts_eq (p : Pattern) : p.disjuncts = [p] ∨ p = .or p.disjuncts := by
  cases p with
  | or items => exact .inr rfl
  | _ => exact .inl rfl

/-- **The flat form comes about by splicing.** -/
theorem splices_flat (p : Pattern) : Relation.ReflTransGen SplicesOnce p p.flat := by
  induction p with
  | seq head middle tail ihHead ihMiddle ihTail =>
    rw [flat_seq]
    -- first the head is changed, then the tail before an old middle, and the middle last
    have hhead := reflTransGen_map (fun ps => Pattern.seq ps middle tail)
      (fun before after _ _ => SplicesOnce.head before after middle tail) ihHead
    have htail := reflTransGen_map (fun ps => Pattern.seq (head.map flat) middle ps)
      (fun before after _ _ => SplicesOnce.tail (head.map flat) middle before after) ihTail
    refine hhead.trans (htail.trans ?_)
    cases middle with
    | none => exact .refl
    | some r =>
      exact (ihMiddle r rfl).lift (fun q => Pattern.seq (head.map flat) (some q) (tail.map flat))
        fun _ _ => .middle (head.map flat) (tail.map flat)
  | map entries exact required ih =>
    rw [flat_map]
    -- an entry changes in its pattern and keeps its key
    have hentries : ∀ e ∈ entries.entries, Relation.ReflTransGen
        (fun e e' => e.1 = e'.1 ∧ SplicesOnce e.2 e'.2) e (flatEntry e) := fun e he =>
      (ih e he).lift (fun q => (e.1, q)) fun _ _ hq => ⟨rfl, hq⟩
    refine reflTransGen_map (fun es => Pattern.map ⟨es⟩ exact required) ?_ hentries
    rintro before after ⟨k, q⟩ ⟨k', q'⟩ ⟨rfl, hq⟩
    exact .entry before after k exact required hq
  | opt inner ih => exact ih.lift Pattern.opt fun _ _ => .opt
  | and items ih =>
    rw [flat_and]
    -- the items change where they stand, and then the nested ones are spliced in
    have hitems := reflTransGen_map Pattern.and
      (fun before after _ _ => SplicesOnce.and before after) ih
    exact hitems.trans (splices_flatMap conjuncts_eq .spliceAnd [] _)
  | or items ih =>
    rw [flat_or]
    have hitems := reflTransGen_map Pattern.or
      (fun before after _ _ => SplicesOnce.or before after) ih
    exact hitems.trans (splices_flatMap disjuncts_eq .spliceOr [] _)
  | _ => exact .refl

/-! ### The walk leaves nothing to change -/

/-- No conjunction stands directly in a conjunction, and no disjunction directly in a disjunction.
Programs are not looked into. -/
inductive IsFlat : Pattern → Prop
  | literal (lit : Literal) : IsFlat (.literal lit)
  | any : IsFlat .any
  | named (key : Key) : IsFlat (.named key)
  | rest : IsFlat .rest
  | seq {head : List Pattern} {middle : Option Pattern} {tail : List Pattern} :
    (∀ q ∈ head, IsFlat q) → (∀ q ∈ middle, IsFlat q) → (∀ q ∈ tail, IsFlat q) →
    IsFlat (.seq head middle tail)
  | map {entries : Assoc Value Pattern} {exact : Bool} {required : Nat} :
    (∀ e ∈ entries.entries, IsFlat e.2) → IsFlat (.map entries exact required)
  | opt {inner : Pattern} : IsFlat inner → IsFlat (.opt inner)
  | and {items : List Pattern} : (∀ q ∈ items, IsFlat q) → (∀ inner, .and inner ∉ items) →
    IsFlat (.and items)
  | or {items : List Pattern} : (∀ q ∈ items, IsFlat q) → (∀ inner, .or inner ∉ items) →
    IsFlat (.or items)
  | compiled (origin : Pattern) (slots : List (Slot Pattern)) (code : Option Code)
    (source : String) : IsFlat (.compiled origin slots code source)

/-- The items of a flat conjunction are flat and no conjunctions themselves. -/
theorem IsFlat.of_mem_conjuncts {p q : Pattern} (hp : p.IsFlat) (hq : q ∈ p.conjuncts) :
    q.IsFlat ∧ ∀ inner, q ≠ .and inner := by
  cases p with
  | and items =>
    cases hp with
    | and hitems hnone => exact ⟨hitems q hq, fun inner heq => hnone inner (heq ▸ hq)⟩
  | _ =>
    obtain rfl := List.mem_singleton.mp hq
    exact ⟨hp, nofun⟩

/-- The items of a flat disjunction are flat and no disjunctions themselves. -/
theorem IsFlat.of_mem_disjuncts {p q : Pattern} (hp : p.IsFlat) (hq : q ∈ p.disjuncts) :
    q.IsFlat ∧ ∀ inner, q ≠ .or inner := by
  cases p with
  | or items =>
    cases hp with
    | or hitems hnone => exact ⟨hitems q hq, fun inner heq => hnone inner (heq ▸ hq)⟩
  | _ =>
    obtain rfl := List.mem_singleton.mp hq
    exact ⟨hp, nofun⟩

/-- A flat form is flat. -/
theorem isFlat_flat (p : Pattern) : p.flat.IsFlat := by
  have hmap : ∀ {ps : List Pattern}, (∀ p ∈ ps, p.flat.IsFlat) → ∀ q ∈ ps.map flat, q.IsFlat :=
    fun h q hq => by
      obtain ⟨p, hp, rfl⟩ := List.mem_map.mp hq
      exact h p hp
  induction p with
  | literal lit => exact .literal lit
  | any => exact .any
  | named key => exact .named key
  | rest => exact .rest
  | seq head middle tail ihHead ihMiddle ihTail =>
    rw [flat_seq]
    refine .seq (hmap ihHead) (fun q hq => ?_) (hmap ihTail)
    obtain ⟨r, hr, rfl⟩ := Option.map_eq_some_iff.mp hq
    exact ihMiddle r hr
  | map entries exact required ih =>
    rw [flat_map]
    refine .map fun e' he' => ?_
    obtain ⟨e, he, rfl⟩ := List.mem_map.mp he'
    exact ih e he
  | opt inner ih => exact .opt ih
  | and items ih =>
    rw [flat_and]
    -- an item comes from a flat form, and from the inside of it if that is a conjunction
    have hparts : ∀ q ∈ (items.map flat).flatMap conjuncts, q.IsFlat ∧ ∀ inner, q ≠ .and inner := by
      intro q hq
      obtain ⟨p, hp, hq⟩ := List.mem_flatMap.mp hq
      exact (hmap ih p hp).of_mem_conjuncts hq
    exact .and (fun q hq => (hparts q hq).1) fun inner hmem => (hparts _ hmem).2 inner rfl
  | or items ih =>
    rw [flat_or]
    -- likewise for disjunctions
    have hparts : ∀ q ∈ (items.map flat).flatMap disjuncts, q.IsFlat ∧ ∀ inner, q ≠ .or inner := by
      intro q hq
      obtain ⟨p, hp, hq⟩ := List.mem_flatMap.mp hq
      exact (hmap ih p hp).of_mem_disjuncts hq
    exact .or (fun q hq => (hparts q hq).1) fun inner hmem => (hparts _ hmem).2 inner rfl
  | compiled origin slots code source => exact .compiled origin slots code source

/-- In a flat pattern there is nothing to splice. -/
theorem IsFlat.not_splicesOnce {p q : Pattern} (hp : p.IsFlat) : ¬ SplicesOnce p q := by
  intro h
  -- in any list, the item that changes is one of the items
  have hmem : ∀ {α : Type} (before after : List α) (a : α), a ∈ before ++ a :: after :=
    fun before after a => List.mem_append_right before List.mem_cons_self
  induction h with
  -- the item that would give way is a conjunction in a conjunction
  | spliceAnd before inner after =>
    cases hp with
    | and _ hnone => exact hnone inner (hmem before after _)
  | spliceOr before inner after =>
    cases hp with
    | or _ hnone => exact hnone inner (hmem before after _)
  -- the change is made inside a part, which is flat itself
  | head before after _ _ _ ih =>
    cases hp with
    | seq hhead _ _ => exact ih (hhead _ (hmem before after _))
  | middle _ _ _ ih =>
    cases hp with
    | seq _ hmiddle _ => exact ih (hmiddle _ rfl)
  | tail _ _ before after _ ih =>
    cases hp with
    | seq _ _ htail => exact ih (htail _ (hmem before after _))
  | entry before after k _ _ _ ih =>
    cases hp with
    | map hentries => exact ih (hentries (k, _) (hmem before after _))
  | opt _ ih =>
    cases hp with
    | opt hinner => exact ih hinner
  | and before after _ ih =>
    cases hp with
    | and hitems _ => exact ih (hitems _ (hmem before after _))
  | or before after _ ih =>
    cases hp with
    | or hitems _ => exact ih (hitems _ (hmem before after _))

/-- **The flat form is a last one.** No change can be made to it. -/
theorem not_splicesOnce_flat (p q : Pattern) : ¬ SplicesOnce p.flat q :=
  (isFlat_flat p).not_splicesOnce

/-! ### The order of changes does not matter -/

/-- A single change does not show in the flat form. -/
theorem SplicesOnce.flat_eq {p q : Pattern} (h : SplicesOnce p q) : p.flat = q.flat := by
  induction h with
  -- the items end up in the same list, whether they are spliced before or by the walk
  | spliceAnd before inner after =>
    simp only [flat_and, List.map_append, List.map_cons, List.flatMap_append, List.flatMap_cons,
      conjuncts, List.append_assoc]
  | spliceOr before inner after =>
    simp only [flat_or, List.map_append, List.map_cons, List.flatMap_append, List.flatMap_cons,
      disjuncts, List.append_assoc]
  -- the part that changes has the same flat form by induction
  | head _ _ _ _ _ ih | tail _ _ _ _ _ ih =>
    simp only [flat_seq, List.map_append, List.map_cons, ih]
  | middle _ _ _ ih => simp only [flat_seq, Option.map_some, ih]
  | entry _ _ _ _ _ _ ih => simp only [flat_map, List.map_append, List.map_cons, flatEntry, ih]
  | opt _ ih => exact congrArg Pattern.opt ih
  | and _ _ _ ih => simp only [flat_and, List.map_append, List.map_cons, ih]
  | or _ _ _ ih => simp only [flat_or, List.map_append, List.map_cons, ih]

/-- A pattern is a regrouping of its flat form. -/
theorem regroups_flat (p : Pattern) : p.Regroups p.flat :=
  Relation.EqvGen.reflTransGen_le_eqvGen SplicesOnce p p.flat (splices_flat p)

/-- **Regroupings have the same flat form**, and patterns with the same flat form are regroupings.
-/
theorem regroups_iff {p q : Pattern} : p.Regroups q ↔ p.flat = q.flat := by
  constructor
  · intro h
    -- regrouping is generated by single changes, and having the same flat form is an equivalence
    induction h with
    | rel _ _ h => exact h.flat_eq
    | refl => rfl
    | symm _ _ _ ih => exact ih.symm
    | trans _ _ _ _ _ ih ih' => exact ih.trans ih'
  · intro h
    -- both can be regrouped into the flat form that they share
    have hp : p.Regroups q.flat := h ▸ regroups_flat p
    exact hp.trans _ _ _ ((regroups_flat q).symm _ _)

end Pattern

end StructMatch
