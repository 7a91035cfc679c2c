import Mathlib.Data.List.Perm.Basic
import StructMatch.Proofs.Literal.Agreement

/-!
# Values up to the order of entries

Two values are similar if they differ in nothing but the order in which their maps hold their
entries, at whatever depth. Structural equality tells such values apart, since it compares maps
entry by entry in order, and so it is not what matching goes by.

Between values whose keys are told apart (`Value.Reorders`), similarity is kept by what matching
does go by. A look-up finds similar values, or nothing on both sides (`Reorders.rel_get?`): it takes
the first entry whose key equals the wanted one, and that entry is the only one, so it does not
matter which comes first. Keys that do not equal themselves are found on neither side. And a stored
value accepts both or neither (`agrees_congr`).
-/

namespace StructMatch

/-- Related options hold related values, or nothing both. -/
theorem exists_or_of_rel {α β : Type} {R : α → β → Prop} {x : Option α} {y : Option β}
    (h : Option.Rel R x y) :
    (∃ a b, x = some a ∧ y = some b ∧ R a b) ∨ x = none ∧ y = none := by
  cases h with
  | some hab => exact .inl ⟨_, _, rfl, rfl, hab⟩
  | none => exact .inr ⟨rfl, rfl⟩

namespace Value

/-- The same scalar, sequences of similar items, or maps such that the entries of the second can be
arranged to have the keys of the first, one by one, with similar values. -/
inductive Similar : Value → Value → Prop
  | nil : Similar .nil .nil
  | bool (b : Bool) : Similar (.bool b) (.bool b)
  | int (n : Int64) : Similar (.int n) (.int n)
  | float (x : Binary64) : Similar (.float x) (.float x)
  | str (text : String) : Similar (.str text) (.str text)
  | sym (name : String) : Similar (.sym name) (.sym name)
  | seq {xs ys : List Value} : List.Forall₂ Similar xs ys → Similar (.seq xs) (.seq ys)
  | map {m m' : ValueMap} {es : List (Value × Value)} : es.Perm m'.entries →
    m.keys = es.map (·.1) → List.Forall₂ Similar (m.entries.map (·.2)) (es.map (·.2)) →
    Similar (.map m) (.map m')

/-- Similar values under the same key. -/
def SimilarAt {κ : Type} (e f : κ × Value) : Prop :=
  e.1 = f.1 ∧ e.2.Similar f.2

/-- A sequence is similar to the sequences with similar items. -/
theorem similar_seq_iff {xs : List Value} {b : Value} :
    (Value.seq xs).Similar b ↔ ∃ ys, b = .seq ys ∧ List.Forall₂ Similar xs ys := by
  constructor
  · intro h
    cases h with
    | seq hitems => exact ⟨_, rfl, hitems⟩
  · rintro ⟨ys, rfl, h⟩
    exact .seq h

/-- A map is similar to the maps whose entries can be arranged to be similar one by one. -/
theorem similar_map_iff {m : ValueMap} {b : Value} :
    (Value.map m).Similar b ↔
      ∃ m' es, b = .map m' ∧ es.Perm m'.entries ∧ List.Forall₂ SimilarAt m.entries es := by
  constructor
  · intro h
    cases h with
    | map hperm hkeys hvalues =>
      -- keys and values are given apart, and go together entry by entry
      have hkeys := map_eq_map_iff_forall₂.mp hkeys
      rw [List.forall₂_map_left_iff, List.forall₂_map_right_iff] at hvalues
      exact ⟨_, _, rfl, hperm, hkeys.mp (fun _ _ hkey hvalue => ⟨hkey, hvalue⟩) hvalues⟩
  · rintro ⟨m', es, rfl, hperm, hentries⟩
    refine .map hperm (map_eq_map_iff_forall₂.mpr (hentries.imp fun _ _ h => h.1)) ?_
    rw [List.forall₂_map_left_iff, List.forall₂_map_right_iff]
    exact hentries.imp fun _ _ h => h.2

/-- **Similarity is symmetric.** -/
theorem similar_symm {a b : Value} (h : a.Similar b) : b.Similar a := by
  induction a generalizing b with
  | seq xs ih =>
    obtain ⟨ys, rfl, hys⟩ := similar_seq_iff.mp h
    exact .seq (forall₂_imp_of_mem (fun x hx _ _ hxy => ih x hx hxy) hys).flip
  | map m ih =>
    obtain ⟨m', es, rfl, hperm, hentries⟩ := similar_map_iff.mp h
    have hback : List.Forall₂ SimilarAt es m.entries :=
      (forall₂_imp_of_mem (fun e he _ _ hef => ⟨hef.1.symm, (ih e he).2 hef.2⟩) hentries).flip
    -- the arrangement of the one side is carried over to the other
    obtain ⟨fs, hfs, hperm'⟩ := List.perm_comp_forall₂ hperm.symm hback
    exact similar_map_iff.mpr ⟨m, fs, rfl, hperm', hfs⟩
  | _ =>
    cases h
    constructor

/-- Values that are similar without being the same are both sequences or both maps. -/
theorem Similar.eq_or {v w : Value} (h : v.Similar w) :
    v = w ∨ (∃ xs ys, v = .seq xs ∧ w = .seq ys) ∨ ∃ m m', v = .map m ∧ w = .map m' := by
  cases h with
  | seq _ => exact .inr (.inl ⟨_, _, rfl, rfl⟩)
  | map _ _ _ => exact .inr (.inr ⟨_, _, rfl, rfl⟩)
  | _ => exact .inl rfl

/-! ### Similar values that can be built -/

/-- The two values can be built and are similar. -/
structure Reorders (v w : Value) : Prop where
  similar : v.Similar w
  left : v.Constructible
  right : w.Constructible

namespace Reorders

/-- Reorderings go both ways. -/
theorem symm {v w : Value} (h : v.Reorders w) : w.Reorders v :=
  ⟨similar_symm h.similar, h.right, h.left⟩

/-- The items of a reordered sequence are reordered. -/
theorem items {xs ys : List Value} (h : Reorders (.seq xs) (.seq ys)) :
    List.Forall₂ Reorders xs ys := by
  obtain ⟨ys', hys', hsimilar⟩ := similar_seq_iff.mp h.similar
  obtain rfl := Value.seq.inj hys'
  refine forall₂_imp_of_mem (fun x hx y hy hxy => ?_) hsimilar
  exact ⟨hxy, h.left.of_mem_items x hx, h.right.of_mem_items y hy⟩

/-- Reordered items make a reordered sequence. -/
theorem of_items {xs ys : List Value} (h : List.Forall₂ Reorders xs ys) :
    Reorders (.seq xs) (.seq ys) where
  similar := .seq (h.imp fun _ _ hxy => hxy.similar)
  left := .seq fun x hx => by
    obtain ⟨y, -, hxy⟩ := exists_mem_of_forall₂ h x hx
    exact hxy.left
  right := .seq fun y hy => by
    obtain ⟨x, -, hxy⟩ := exists_mem_of_forall₂ h.flip y hy
    exact hxy.right

section Maps

variable {m m' : ValueMap} (h : Reorders (.map m) (.map m'))
include h

/-- Every entry has a counterpart under the same key. -/
theorem exists_entry {e : Value × Value} (he : e ∈ m.entries) :
    ∃ f ∈ m'.entries, e.1 = f.1 ∧ e.2.Reorders f.2 := by
  obtain ⟨m'', es, hm'', hperm, hentries⟩ := similar_map_iff.mp h.similar
  obtain rfl := Value.map.inj hm''
  obtain ⟨f, hf, hkey, hvalue⟩ := exists_mem_of_forall₂ hentries e he
  have hf : f ∈ m'.entries := hperm.subset hf
  exact ⟨f, hf, hkey, hvalue, h.left.value_of_mem he, h.right.value_of_mem hf⟩

/-- The keys of a reordered map are the same in another order. -/
theorem keys_perm : m.keys.Perm m'.keys := by
  obtain ⟨m'', es, hm'', hperm, hentries⟩ := similar_map_iff.mp h.similar
  obtain rfl := Value.map.inj hm''
  have hkeys : m.keys = es.map (·.1) :=
    map_eq_map_iff_forall₂.mpr (hentries.imp fun _ _ hef => hef.1)
  rw [hkeys]
  exact hperm.map _

/-- A reordered map is as large. -/
theorem size_eq : m.size = m'.size := by
  have hlength := h.keys_perm.length_eq
  rwa [Assoc.keys, Assoc.keys, List.length_map, List.length_map] at hlength

/-- **Look-ups find the same**, up to the order of entries within what is found. -/
theorem rel_get? (key : Value) : Option.Rel Reorders (m.get? key) (m'.get? key) := by
  cases hfound : m.get? key with
  | none =>
    -- an entry of the other map would have a counterpart in this one
    have habsent : m'.get? key = none := by
      refine Assoc.get?_eq_none_iff.mpr fun f hf => ?_
      obtain ⟨e, he, hkey, -⟩ := h.symm.exists_entry hf
      rw [hkey]
      exact Assoc.get?_eq_none_iff.mp hfound e he
    rw [habsent]
    exact .none
  | some w =>
    obtain ⟨e, he, hkey, rfl⟩ := Assoc.exists_mem_of_get?_eq_some hfound
    obtain ⟨f, hf, hef, hvalue⟩ := h.exists_entry he
    rw [hef] at hkey
    -- no other entry has an equal key, so it is the counterpart that is found
    rw [h.right.distinctKeys.get?_eq_some hf hkey]
    exact .some hvalue

end Maps

/-! ### Agreement -/

/-- What agrees with a value agrees with a reordering of it. -/
theorem agrees {a v w : Value} (h : v.Reorders w) (ha : a.agrees v) : a.agrees w := by
  induction a generalizing v w with
  | nil | bool _ | str _ | sym _ =>
    obtain rfl := (agrees_atom_iff rfl rfl).mp ha
    cases h.similar
    exact ha
  | int _ | float _ =>
    -- the subject holds a number, and numbers are not reordered
    obtain ⟨y, hy, -⟩ := (agrees_number_iff rfl).mp ha
    rcases h.similar.eq_or with rfl | ⟨_, _, rfl, -⟩ | ⟨_, _, rfl, -⟩
    · exact ha
    · cases hy
    · cases hy
  | seq xs ih =>
    obtain ⟨ys, rfl, hys⟩ := agrees_seq_iff.mp ha
    obtain ⟨zs, rfl, -⟩ := similar_seq_iff.mp h.similar
    have hzs : List.Forall₂ (fun x z => x.agrees z) xs zs :=
      forall₂_trans_of_mem (fun x hx y z hxy (hyz : y.Reorders z) => ih x hx hyz hxy) hys h.items
    exact agrees_seq_iff.mpr ⟨zs, rfl, hzs⟩
  | map m ih =>
    obtain ⟨m', rfl, hsize, hfound⟩ := agrees_map_iff.mp ha
    obtain ⟨m'', es, rfl, -⟩ := similar_map_iff.mp h.similar
    refine agrees_map_iff.mpr ⟨m'', rfl, hsize.trans h.size_eq, fun e he => ?_⟩
    obtain ⟨w, hw, hagrees⟩ := hfound e he
    -- the same key finds a reordered value on the other side
    rcases exists_or_of_rel (h.rel_get? e.1) with ⟨w', u, hw', hu, hwu⟩ | ⟨hnone, -⟩
    · obtain rfl : w = w' := Option.some.inj (hw.symm.trans hw')
      exact ⟨u, hu, (ih e he).2 hwu hagrees⟩
    · rw [hw] at hnone
      cases hnone

/-- **A stored value does not see the order of entries.** -/
theorem agrees_congr {v w : Value} (h : v.Reorders w) (a : Value) : a.agrees v = a.agrees w :=
  Bool.eq_iff_iff.mpr ⟨h.agrees, h.symm.agrees⟩

end Reorders

end Value

end StructMatch
