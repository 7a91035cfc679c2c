import Mathlib.Data.List.Forall2
import StructMatch.Proofs.Number.Place
import StructMatch.Proofs.Value.Induction

/-!
# Structural equality of values

Structural equality is symmetric and transitive on all values, and a value equals itself exactly if
no word in it fails to be a number, however deep and whether in a key or not (`NaNFree`). So it is a
partial equivalence, which is all that the look-up of keys asks for (`instPartialEquivBEq`).

The equality is written in the mutual recursion over items and entries. Here its two list forms are
`List.Forall₂`, and three inversion lemmas say what a value equals: an atom only itself, a word the
words at its place, a sequence or a map the ones with equal parts in the same order.
-/

namespace StructMatch

/-! ### Pairwise related lists -/

/-- Relations that compose on the items of a list compose on the list. -/
theorem forall₂_trans_of_mem {α β γ : Type} {R : α → β → Prop} {S : β → γ → Prop}
    {T : α → γ → Prop} {xs : List α} {ys : List β} {zs : List γ}
    (h : ∀ x ∈ xs, ∀ y z, R x y → S y z → T x z) (hxy : List.Forall₂ R xs ys)
    (hyz : List.Forall₂ S ys zs) : List.Forall₂ T xs zs := by
  induction hxy generalizing zs with
  | nil =>
    cases hyz
    exact .nil
  -- the lists are as long as each other, so the middle one gives way item by item
  | cons hR _ ih =>
    obtain ⟨hfirst, hothers⟩ := List.forall_mem_cons.mp h
    cases hyz with
    | cons hS hrest => exact .cons (hfirst _ _ hR hS) (ih hothers hrest)

/-- A relation that is included in another on the items of two lists is included on the lists. -/
theorem forall₂_imp_of_mem {α β : Type} {R S : α → β → Prop} {xs : List α} {ys : List β}
    (h : ∀ x ∈ xs, ∀ y ∈ ys, R x y → S x y) (hxy : List.Forall₂ R xs ys) :
    List.Forall₂ S xs ys := by
  induction hxy with
  | nil => exact .nil
  | cons hR _ ih =>
    refine .cons (h _ List.mem_cons_self _ List.mem_cons_self hR) (ih fun x hx y hy => ?_)
    exact h x (List.mem_cons_of_mem _ hx) y (List.mem_cons_of_mem _ hy)

/-- An item of a pairwise related list has a related item in the other. -/
theorem exists_mem_of_forall₂ {α β : Type} {R : α → β → Prop} {xs : List α} {ys : List β}
    (h : List.Forall₂ R xs ys) : ∀ x ∈ xs, ∃ y ∈ ys, R x y := by
  induction h with
  | nil => exact nofun
  | cons hR _ ih =>
    refine List.forall_mem_cons.mpr ⟨⟨_, List.mem_cons_self, hR⟩, fun x hx => ?_⟩
    obtain ⟨y, hy, hxy⟩ := ih x hx
    exact ⟨y, List.mem_cons_of_mem _ hy, hxy⟩

/-- Lists have the same images if their items have the same images pairwise. -/
theorem map_eq_map_iff_forall₂ {α β γ : Type} {f : α → γ} {g : β → γ} {xs : List α} {ys : List β} :
    xs.map f = ys.map g ↔ List.Forall₂ (fun x y => f x = g y) xs ys := by
  rw [← List.forall₂_eq_eq_eq, List.forall₂_map_left_iff, List.forall₂_map_right_iff]

namespace Value

/-! ### What a value equals -/

/-- Two entries with equal keys and equal values. -/
def EqualEntry (e f : Value × Value) : Prop :=
  e.1 == f.1 ∧ e.2 == f.2

/-- Lists are equal item by item. -/
theorem equalAll_iff {xs ys : List Value} :
    equalAll xs ys ↔ List.Forall₂ (fun x y => x == y) xs ys := by
  induction xs generalizing ys with
  | nil => cases ys <;> simp [equalAll]
  | cons x xs ih =>
    cases ys with
    | nil => simp [equalAll]
    | cons y ys =>
      rw [equalAll, Bool.and_eq_true, ih, List.forall₂_cons]
      rfl

/-- Lists of entries are equal entry by entry. -/
theorem equalEntries_iff {es fs : List (Value × Value)} :
    equalEntries es fs ↔ List.Forall₂ EqualEntry es fs := by
  induction es generalizing fs with
  | nil => cases fs <;> simp [equalEntries]
  | cons e es ih =>
    obtain ⟨k, v⟩ := e
    cases fs with
    | nil => simp [equalEntries]
    | cons f fs =>
      obtain ⟨l, w⟩ := f
      rw [equalEntries, Bool.and_eq_true, Bool.and_eq_true, ih, List.forall₂_cons]
      rfl

/-- A value without parts whose equality is plain identity: neither a floating-point number, nor a
sequence, nor a map. -/
def isAtom : Value → Bool
  | .float _ | .seq _ | .map _ => false
  | _ => true

/-- An atom equals only itself. -/
theorem equal_atom_iff {a b : Value} (ha : a.isAtom) : a == b ↔ a = b := by
  change equal a b = true ↔ a = b
  cases a <;> simp only [isAtom, Bool.false_eq_true] at ha <;> cases b <;> simp [equal]

/-- A floating-point number equals those at its place. -/
theorem equal_float_iff {x : Binary64} {b : Value} :
    Value.float x == b ↔ ∃ y, b = .float y ∧ x.equal y := by
  change equal (.float x) b = true ↔ _
  cases b <;> simp [equal]

/-- A sequence equals the sequences with equal items. -/
theorem equal_seq_iff {xs : List Value} {b : Value} :
    Value.seq xs == b ↔ ∃ ys, b = .seq ys ∧ List.Forall₂ (fun x y => x == y) xs ys := by
  change equal (.seq xs) b = true ↔ _
  cases b <;> simp [equal, equalAll_iff]

/-- A map equals the maps with equal entries in the same order. -/
theorem equal_map_iff {m : ValueMap} {b : Value} :
    Value.map m == b ↔ ∃ m', b = .map m' ∧ List.Forall₂ EqualEntry m.entries m'.entries := by
  obtain ⟨es⟩ := m
  change equal (.map ⟨es⟩) b = true ↔ _
  cases b with
  | map m' =>
    obtain ⟨fs⟩ := m'
    simp [equal, equalEntries_iff]
  | _ => simp [equal]

/-! ### Symmetry and transitivity -/

/-- **Structural equality is symmetric.** -/
theorem equal_symm {a b : Value} (h : a == b) : b == a := by
  -- the induction is on one side, and the inversion lemmas settle the form of the other
  induction a generalizing b with
  | nil | bool _ | int _ | str _ | sym _ =>
    obtain rfl := (equal_atom_iff rfl).mp h
    exact h
  | float x =>
    obtain ⟨y, rfl, hxy⟩ := equal_float_iff.mp h
    rw [Binary64.equal_iff] at hxy
    exact equal_float_iff.mpr ⟨x, rfl, Binary64.equal_iff.mpr hxy.symm⟩
  | seq xs ih =>
    obtain ⟨ys, rfl, hys⟩ := equal_seq_iff.mp h
    refine equal_seq_iff.mpr ⟨xs, rfl, (forall₂_imp_of_mem ?_ hys).flip⟩
    exact fun x hx y _ hxy => ih x hx hxy
  | map m ih =>
    obtain ⟨m', rfl, hentries⟩ := equal_map_iff.mp h
    refine equal_map_iff.mpr ⟨m, rfl, (forall₂_imp_of_mem ?_ hentries).flip⟩
    -- keys are values themselves and have a hypothesis of their own
    rintro e he f - ⟨hkey, hvalue⟩
    exact ⟨(ih e he).1 hkey, (ih e he).2 hvalue⟩

/-- **Structural equality is transitive.** -/
theorem equal_trans {a b c : Value} (hab : a == b) (hbc : b == c) : a == c := by
  induction a generalizing b c with
  | nil | bool _ | int _ | str _ | sym _ =>
    obtain rfl := (equal_atom_iff rfl).mp hab
    exact hbc
  | float x =>
    obtain ⟨y, rfl, hxy⟩ := equal_float_iff.mp hab
    obtain ⟨z, rfl, hyz⟩ := equal_float_iff.mp hbc
    rw [Binary64.equal_iff] at hxy hyz
    exact equal_float_iff.mpr ⟨z, rfl, Binary64.equal_iff.mpr (hxy.trans hyz)⟩
  -- the items of the middle one are between those of the others
  | seq xs ih =>
    obtain ⟨ys, rfl, hxy⟩ := equal_seq_iff.mp hab
    obtain ⟨zs, rfl, hyz⟩ := equal_seq_iff.mp hbc
    refine equal_seq_iff.mpr ⟨zs, rfl, forall₂_trans_of_mem ?_ hxy hyz⟩
    exact fun x hx y z hxy hyz => ih x hx hxy hyz
  | map m ih =>
    obtain ⟨m', rfl, hentries⟩ := equal_map_iff.mp hab
    obtain ⟨m'', rfl, hentries'⟩ := equal_map_iff.mp hbc
    refine equal_map_iff.mpr ⟨m'', rfl, forall₂_trans_of_mem ?_ hentries hentries'⟩
    rintro e he f g ⟨hkey, hvalue⟩ ⟨hkey', hvalue'⟩
    exact ⟨(ih e he).1 hkey hkey', (ih e he).2 hvalue hvalue'⟩

/-- Structural equality is a partial equivalence. -/
instance instPartialEquivBEq : PartialEquivBEq Value where
  symm := equal_symm
  trans := equal_trans

/-! ### Values that equal themselves -/

/-- No floating-point number in the value, at any depth and in keys as well, is a word that is not a
number. -/
inductive NaNFree : Value → Prop
  | nil : NaNFree .nil
  | bool (b : Bool) : NaNFree (.bool b)
  | int (n : Int64) : NaNFree (.int n)
  | float {x : Binary64} : x.isNaN = false → NaNFree (.float x)
  | str (text : String) : NaNFree (.str text)
  | sym (name : String) : NaNFree (.sym name)
  | seq {items : List Value} : (∀ v ∈ items, NaNFree v) → NaNFree (.seq items)
  | map {m : ValueMap} : (∀ e ∈ m.entries, NaNFree e.1) → (∀ e ∈ m.entries, NaNFree e.2) →
    NaNFree (.map m)

/-- A word is free of words that are not a number if it is none itself. -/
theorem nanFree_float_iff {x : Binary64} : NaNFree (.float x) ↔ x.isNaN = false :=
  ⟨fun | .float hx => hx, .float⟩

/-- A sequence is free of them if its items are. -/
theorem nanFree_seq_iff {items : List Value} : NaNFree (.seq items) ↔ ∀ v ∈ items, v.NaNFree :=
  ⟨fun | .seq hitems => hitems, .seq⟩

/-- A map is free of them if its keys and its values are. -/
theorem nanFree_map_iff {m : ValueMap} :
    NaNFree (.map m) ↔ ∀ e ∈ m.entries, e.1.NaNFree ∧ e.2.NaNFree :=
  ⟨fun | .map hkeys hvalues => fun e he => ⟨hkeys e he, hvalues e he⟩,
    fun h => .map (fun e he => (h e he).1) (fun e he => (h e he).2)⟩

/-- **A value equals itself exactly if it is free of words that are not a number.** -/
theorem equal_self_iff {v : Value} : v == v ↔ v.NaNFree := by
  induction v with
  | nil => exact ⟨fun _ => .nil, fun _ => rfl⟩
  | bool b => exact ⟨fun _ => .bool b, fun _ => (equal_atom_iff rfl).mpr rfl⟩
  | int n => exact ⟨fun _ => .int n, fun _ => (equal_atom_iff rfl).mpr rfl⟩
  | str text => exact ⟨fun _ => .str text, fun _ => (equal_atom_iff rfl).mpr rfl⟩
  | sym name => exact ⟨fun _ => .sym name, fun _ => (equal_atom_iff rfl).mpr rfl⟩
  -- between two words structural equality is the equality of numbers
  | float x =>
    have hself : Value.float x == .float x ↔ x.isNaN = false := Binary64.equal_self_iff
    rw [hself, nanFree_float_iff]
  | seq xs ih =>
    -- item by item, each is compared with itself
    have hself : Value.seq xs == .seq xs ↔ ∀ x ∈ xs, x == x := by
      rw [equal_seq_iff]
      simp [List.forall₂_same]
    rw [hself, nanFree_seq_iff]
    exact forall₂_congr ih
  | map m ih =>
    have hself : Value.map m == .map m ↔ ∀ e ∈ m.entries, EqualEntry e e := by
      rw [equal_map_iff]
      simp [List.forall₂_same]
    rw [hself, nanFree_map_iff]
    refine forall₂_congr fun e he => ?_
    rw [EqualEntry, (ih e he).1, (ih e he).2]

end Value

end StructMatch
