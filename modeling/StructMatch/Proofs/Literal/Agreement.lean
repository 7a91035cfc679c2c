import StructMatch.Literal.Basic
import StructMatch.Proofs.Value.Constructible

/-!
# Equality by numeric value is a partial equivalence

A stored value accepts the subjects that agree with it up to the form of their numbers. On the
values that can be built this relation is symmetric and transitive, it relates a value to itself
exactly if the value is free of words that are not a number, and it extends structural equality.

The case that takes an argument is symmetry for maps. The test is lopsided: it compares the sizes
and looks up the keys of the stored map only. But each stored entry has a partner that it is found
with, partners are not shared because keys are distinct, and the sizes are the same; so every entry
of the subject is a partner (`Assoc.DistinctKeys.exists_partner`). Keys that do not equal themselves
do no harm here, since an entry under such a key has no partner at all.
-/

namespace StructMatch

namespace Value

/-! ### What a value agrees with -/

/-- Lists agree item by item. -/
theorem agreesAll_iff {xs ys : List Value} :
    agreesAll xs ys ↔ List.Forall₂ (fun x y => x.agrees y) xs ys := by
  induction xs generalizing ys with
  | nil => cases ys <;> simp [agreesAll]
  | cons x xs ih =>
    cases ys with
    | nil => simp [agreesAll]
    | cons y ys => rw [agreesAll, Bool.and_eq_true, ih, List.forall₂_cons]

/-- Entries agree with a map if each key finds a value in it that agrees. -/
theorem agreesEntries_iff {es : List (Value × Value)} {m : ValueMap} :
    agreesEntries es m ↔ ∀ e ∈ es, ∃ w, m.get? e.1 = some w ∧ e.2.agrees w := by
  induction es with
  | nil => simp [agreesEntries]
  | cons e es ih =>
    obtain ⟨k, v⟩ := e
    rw [agreesEntries, Bool.and_eq_true, ih, List.forall_mem_cons]
    -- either the key is not found, or what it finds is compared
    cases m.get? k <;> simp

/-- A sequence agrees with the sequences whose items agree one by one. -/
theorem agrees_seq_iff {xs : List Value} {b : Value} :
    (Value.seq xs).agrees b ↔ ∃ ys, b = .seq ys ∧ List.Forall₂ (fun x y => x.agrees y) xs ys := by
  cases b with
  | seq ys => simp [agrees, agreesAll_iff]
  | _ => simp [agrees, number?, BEq.beq, equal]

/-- A map agrees with the maps of its size in which each of its keys finds a value that agrees. -/
theorem agrees_map_iff {m : ValueMap} {b : Value} :
    (Value.map m).agrees b ↔ ∃ m', b = .map m' ∧ m.size = m'.size ∧
      ∀ e ∈ m.entries, ∃ w, m'.get? e.1 = some w ∧ e.2.agrees w := by
  obtain ⟨es⟩ := m
  cases b with
  | map m' => simp [agrees, agreesEntries_iff, Assoc.size]
  | _ => simp [agrees, number?, BEq.beq, equal]

/-- Where the keys of the subject are distinct, maps agree if every entry has a partner. -/
theorem agrees_map_iff_partners {m m' : ValueMap} (hm' : m'.DistinctKeys) :
    (Value.map m).agrees (.map m') ↔ m.size = m'.size ∧
      ∀ e ∈ m.entries, ∃ f ∈ m'.entries, f.1 == e.1 ∧ e.2.agrees f.2 := by
  rw [agrees_map_iff]
  constructor
  · rintro ⟨m'', hm'', hsize, hfound⟩
    obtain rfl := Value.map.inj hm''
    refine ⟨hsize, fun e he => ?_⟩
    obtain ⟨w, hw, hagrees⟩ := hfound e he
    -- what is found stands in an entry, and this is the partner
    obtain ⟨f, hf, hkey, rfl⟩ := Assoc.exists_mem_of_get?_eq_some hw
    exact ⟨f, hf, hkey, hagrees⟩
  · rintro ⟨hsize, hpartner⟩
    refine ⟨m', rfl, hsize, fun e he => ?_⟩
    obtain ⟨f, hf, hkey, hagrees⟩ := hpartner e he
    -- no other entry has an equal key, so it is the partner that is found
    exact ⟨f.2, hm'.get?_eq_some hf hkey, hagrees⟩

/-- A number agrees with the numbers at its place. -/
theorem agrees_number_iff {a b : Value} {x : Number} (ha : a.number? = some x) :
    a.agrees b ↔ ∃ y, b.number? = some y ∧ x.equal y := by
  cases a <;> simp only [number?, Option.some.injEq, reduceCtorEq] at ha <;> subst ha <;>
    cases b <;> simp [agrees, number?, BEq.beq, equal]

/-- An atom that is no number agrees only with itself. -/
theorem agrees_atom_iff {a b : Value} (ha : a.isAtom) (hnumber : a.number? = none) :
    a.agrees b ↔ a = b := by
  have hequal : a.agrees b = (a == b) := by
    cases a <;> simp only [isAtom, number?, reduceCtorEq, Bool.false_eq_true] at ha hnumber <;>
      cases b <;> rfl
  rw [hequal, equal_atom_iff ha]

/-! ### Symmetry and transitivity -/

/-- **Agreement is symmetric** on values whose maps have distinct keys. -/
theorem agrees_symm {a b : Value} (ha : a.Constructible) (hb : b.Constructible) (h : a.agrees b) :
    b.agrees a := by
  induction a generalizing b with
  | nil | bool _ | str _ | sym _ =>
    obtain rfl := (agrees_atom_iff rfl rfl).mp h
    exact h
  | int _ | float _ =>
    -- numbers agree if they have the same place, whatever their form
    obtain ⟨y, hy, hxy⟩ := (agrees_number_iff rfl).mp h
    rw [Number.equal_iff] at hxy
    exact (agrees_number_iff hy).mpr ⟨_, rfl, Number.equal_iff.mpr hxy.symm⟩
  | seq xs ih =>
    obtain ⟨ys, rfl, hys⟩ := agrees_seq_iff.mp h
    refine agrees_seq_iff.mpr ⟨xs, rfl, (forall₂_imp_of_mem ?_ hys).flip⟩
    intro x hx y hy hxy
    exact ih x hx (ha.of_mem_items x hx) (hb.of_mem_items y hy) hxy
  | map m ih =>
    obtain ⟨m', rfl, -⟩ := agrees_map_iff.mp h
    obtain ⟨hsize, hpartner⟩ := (agrees_map_iff_partners hb.distinctKeys).mp h
    -- the entries of the stored map have used up those of the subject
    have hback := ha.distinctKeys.exists_partner (fun _ _ hef => hef.1) hpartner
      (Nat.le_of_eq hsize.symm)
    refine (agrees_map_iff_partners ha.distinctKeys).mpr ⟨hsize.symm, fun f hf => ?_⟩
    obtain ⟨e, he, hkey, hagrees⟩ := hback f hf
    have hreverse := (ih e he).2 (ha.value_of_mem he) (hb.value_of_mem hf) hagrees
    exact ⟨e, he, BEq.symm hkey, hreverse⟩

/-- **Agreement is transitive.** -/
theorem agrees_trans {a b c : Value} (hab : a.agrees b) (hbc : b.agrees c) : a.agrees c := by
  induction a generalizing b c with
  | nil | bool _ | str _ | sym _ =>
    obtain rfl := (agrees_atom_iff rfl rfl).mp hab
    exact hbc
  | int _ | float _ =>
    obtain ⟨y, hy, hxy⟩ := (agrees_number_iff rfl).mp hab
    obtain ⟨z, hz, hyz⟩ := (agrees_number_iff hy).mp hbc
    rw [Number.equal_iff] at hxy hyz
    exact (agrees_number_iff rfl).mpr ⟨z, hz, Number.equal_iff.mpr (hxy.trans hyz)⟩
  -- the items of the middle one are between those of the others
  | seq xs ih =>
    obtain ⟨ys, rfl, hxy⟩ := agrees_seq_iff.mp hab
    obtain ⟨zs, rfl, hyz⟩ := agrees_seq_iff.mp hbc
    refine agrees_seq_iff.mpr ⟨zs, rfl, forall₂_trans_of_mem ?_ hxy hyz⟩
    exact fun x hx y z hxy hyz => ih x hx hxy hyz
  | map m ih =>
    obtain ⟨m', rfl, hsize, hfound⟩ := agrees_map_iff.mp hab
    obtain ⟨m'', rfl, hsize', hfound'⟩ := agrees_map_iff.mp hbc
    refine agrees_map_iff.mpr ⟨m'', rfl, hsize.trans hsize', ?_⟩
    intro e he
    obtain ⟨w, hw, hagrees⟩ := hfound e he
    obtain ⟨f, hf, hkey, rfl⟩ := Assoc.exists_mem_of_get?_eq_some hw
    obtain ⟨u, hu, hagrees'⟩ := hfound' f hf
    -- the third map is looked up under the key of the second, which equals that of the first
    have hfind : m''.get? e.1 = some u := (Assoc.get?_congr (BEq.symm hkey)).trans hu
    exact ⟨u, hfind, (ih e he).2 hagrees hagrees'⟩

/-! ### Agreement and structural equality -/

/-- **Equal values agree.** -/
theorem agrees_of_equal {a b : Value} (hb : b.Constructible) (h : a == b) : a.agrees b := by
  induction a generalizing b with
  | nil | bool _ | str _ | sym _ =>
    obtain rfl := (equal_atom_iff rfl).mp h
    exact (agrees_atom_iff rfl rfl).mpr rfl
  | int n =>
    obtain rfl := (equal_atom_iff rfl).mp h
    exact (agrees_number_iff rfl).mpr ⟨_, rfl, Number.equal_iff.mpr ⟨_, rfl, rfl⟩⟩
  -- equal words have the same place
  | float x =>
    obtain ⟨y, rfl, hxy⟩ := equal_float_iff.mp h
    rw [Binary64.equal_iff] at hxy
    have hnumber : (Number.float x).equal (.float y) := Number.equal_iff.mpr hxy
    exact (agrees_number_iff rfl).mpr ⟨.float y, rfl, hnumber⟩
  | seq xs ih =>
    obtain ⟨ys, rfl, hys⟩ := equal_seq_iff.mp h
    refine agrees_seq_iff.mpr ⟨ys, rfl, forall₂_imp_of_mem ?_ hys⟩
    exact fun x hx y hy hxy => ih x hx (hb.of_mem_items y hy) hxy
  | map m ih =>
    obtain ⟨m', rfl, hentries⟩ := equal_map_iff.mp h
    refine (agrees_map_iff_partners hb.distinctKeys).mpr ⟨hentries.length_eq, fun e he => ?_⟩
    -- the partner is the entry at the same position
    obtain ⟨f, hf, hkey, hvalue⟩ := exists_mem_of_forall₂ hentries e he
    exact ⟨f, hf, BEq.symm hkey, (ih e he).2 (hb.value_of_mem hf) hvalue⟩

/-- A map with distinct keys agrees with itself if its keys equal themselves and its values agree
with themselves. -/
theorem agrees_map_self_iff {m : ValueMap} (hm : m.DistinctKeys) :
    (Value.map m).agrees (.map m) ↔ ∀ e ∈ m.entries, e.1 == e.1 ∧ e.2.agrees e.2 := by
  rw [agrees_map_iff]
  constructor
  · rintro ⟨m', hm', -, hfound⟩ e he
    obtain rfl : m = m' := Value.map.inj hm'
    obtain ⟨w, hw, hagrees⟩ := hfound e he
    obtain ⟨f, -, hkey, -⟩ := Assoc.exists_mem_of_get?_eq_some hw
    -- the key is found, so it equals a key and therefore itself
    have hself : e.1 == e.1 := BEq.trans (BEq.symm hkey) hkey
    obtain rfl : e.2 = w := Option.some.inj ((hm.get?_eq_some he hself).symm.trans hw)
    exact ⟨hself, hagrees⟩
  · intro h
    exact ⟨m, rfl, rfl, fun e he => ⟨e.2, hm.get?_eq_some he (h e he).1, (h e he).2⟩⟩

/-- **A value agrees with itself exactly if it is free of words that are not a number.** -/
theorem agrees_self_iff {v : Value} (hv : v.Constructible) : v.agrees v ↔ v.NaNFree := by
  induction v with
  | nil => exact ⟨fun _ => .nil, fun _ => rfl⟩
  | bool b => exact ⟨fun _ => .bool b, fun _ => (agrees_atom_iff rfl rfl).mpr rfl⟩
  | str text => exact ⟨fun _ => .str text, fun _ => (agrees_atom_iff rfl rfl).mpr rfl⟩
  | sym name => exact ⟨fun _ => .sym name, fun _ => (agrees_atom_iff rfl rfl).mpr rfl⟩
  | int n =>
    exact ⟨fun _ => .int n,
      fun _ => (agrees_number_iff rfl).mpr ⟨_, rfl, Number.equal_iff.mpr ⟨_, rfl, rfl⟩⟩⟩
  | float x =>
    -- between two words, agreement is their numeric equality
    have hself : (Value.float x).agrees (.float x) ↔ x.equal x := Iff.rfl
    rw [hself, Binary64.equal_self_iff, nanFree_float_iff]
  | seq xs ih =>
    have hself : (Value.seq xs).agrees (.seq xs) ↔ ∀ x ∈ xs, x.agrees x := by
      rw [agrees_seq_iff]
      simp [List.forall₂_same]
    rw [hself, nanFree_seq_iff]
    exact forall₂_congr fun x hx => ih x hx (hv.of_mem_items x hx)
  -- an entry finds itself if its key equals itself
  | map m ih =>
    rw [agrees_map_self_iff hv.distinctKeys, nanFree_map_iff]
    refine forall₂_congr fun e he => ?_
    rw [equal_self_iff, (ih e he).2 (hv.value_of_mem he)]

end Value

namespace Literal

/-- **Accepting a value is a partial equivalence** on the values whose maps were filled by
insertions. It is symmetric and transitive, and a value accepts itself exactly if no word in it, at
any depth and in keys as well, fails to be a number. A value accepts every value it is structurally
equal to, and structural equality is itself symmetric, transitive, and reflexive on the same
values. -/
theorem accepting_values_is_partial_equivalence {a b c : Value} (ha : a.Constructible)
    (hb : b.Constructible) :
    (Literal.value a).accepts b = (Literal.value b).accepts a ∧
    ((Literal.value a).accepts b → (Literal.value b).accepts c → (Literal.value a).accepts c) ∧
    ((Literal.value a).accepts a ↔ a.NaNFree) ∧
    (a == b → (Literal.value a).accepts b) ∧
    (a == b) = (b == a) ∧
    (a == b → b == c → a == c) ∧
    (a == a ↔ a.NaNFree) := by
  have hsymm : a.agrees b = b.agrees a :=
    Bool.eq_iff_iff.mpr ⟨Value.agrees_symm ha hb, Value.agrees_symm hb ha⟩
  exact ⟨hsymm, Value.agrees_trans, Value.agrees_self_iff ha, Value.agrees_of_equal hb, BEq.comm,
    BEq.trans, Value.equal_self_iff⟩

/-- A point with two coordinates, entered in this order. -/
def point (first second : String × Value) : Value :=
  .map (.ofList [(.str first.1, first.2), (.str second.1, second.2)])

/-- A point with constructible coordinates is constructible. -/
theorem constructible_point (first second : String × Value) (hfirst : first.2.Constructible)
    (hsecond : second.2.Constructible) : (point first second).Constructible := by
  refine .map (List.forall_mem_cons.mpr ⟨.str _, List.forall_mem_singleton.mpr (.str _)⟩) ?_
  exact List.forall_mem_cons.mpr ⟨hfirst, List.forall_mem_singleton.mpr hsecond⟩

/-- The theorem at two maps that differ in the order of their entries and in the form of their
numbers. -/
theorem accepting_values_is_partial_equivalence_of_point :
    (Literal.value (point ("y", .int 2) ("x", .float ⟨0x3ff0000000000000⟩))).accepts
      (point ("x", .int 1) ("y", .float ⟨0x4000000000000000⟩)) ∧
    (point ("x", .int 1) ("y", .float ⟨0x4000000000000000⟩)).NaNFree := by
  have hstored := constructible_point ("x", .int 1) ("y", .float ⟨0x4000000000000000⟩) (.int 1)
    (.float _)
  have hsubject := constructible_point ("y", .int 2) ("x", .float ⟨0x3ff0000000000000⟩) (.int 2)
    (.float _)
  have haccepts : (Literal.value (point ("x", .int 1) ("y", .float ⟨0x4000000000000000⟩))).accepts
      (point ("y", .int 2) ("x", .float ⟨0x3ff0000000000000⟩)) = true := by decide +kernel
  obtain ⟨hsymm, htrans, hself, -⟩ :=
    accepting_values_is_partial_equivalence
      (c := point ("x", .int 1) ("y", .float ⟨0x4000000000000000⟩)) hstored hsubject
  -- by symmetry and transitivity the stored map accepts itself
  rw [haccepts] at hsymm
  exact ⟨hsymm.symm, hself.mp (htrans haccepts hsymm.symm)⟩

end Literal

end StructMatch
