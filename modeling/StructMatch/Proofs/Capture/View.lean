import Mathlib.Data.List.Perm.Subperm
import StructMatch.Proofs.Capture.Writes
import StructMatch.Proofs.Text.ByteOrder
import StructMatch.Proofs.Value.Equality

/-!
# Captures seen from outside

Captures can be read under a key, counted, listed and compared. All of this is settled by what is
read under each key: the list holds every bound key once, with the value that is read under it
(`mem_toList_iff`), in the order of the keys (`pairwise_toList`); the size is the number of these
keys (`size_eq_length`); and two sets of captures are equal if they bind the same keys, and equal
values under each (`equal_iff`).

The bindings come out of their table in any order, and the list is sorted afterwards. That sorting
leaves nothing of the order they came in (`mergeSort_eq_toList`) rests on two facts: the order of
keys is a linear order, and no two bindings have the same key.

The comparison of two sets of captures goes through the bindings of the one side only. That nothing
else is bound on the other side is left to the sizes, and this is enough since no key is listed
twice.
-/

namespace StructMatch

/-! ### The order of keys -/

namespace Key

/-- Keys compare the other way round when they change places. -/
theorem compare_eq_swap (a b : Key) : compare a b = (compare b a).swap := by
  cases a with
  | index p =>
    cases b with
    | index q => exact Std.OrientedOrd.eq_swap
    -- of two keys of different kinds the position is the smaller one, on either side
    | name t => rfl
  | name s =>
    cases b with
    | index q => rfl
    | name t => exact Std.OrientedOrd.eq_swap

/-- The order of keys is transitive, over both kinds of them. -/
theorem compare_isLE_trans {a b c : Key} (hab : (compare a b).isLE) (hbc : (compare b c).isLE) :
    (compare a c).isLE := by
  -- between two keys of one kind stands a key of the same kind, or an assumption is absurd
  cases a with
  | index p =>
    cases c with
    | name u => rfl
    | index r =>
      cases b with
      | index q => exact Std.TransOrd.isLE_trans hab hbc
      | name t => cases hbc
  | name s =>
    cases b with
    | index q => cases hab
    | name t =>
      cases c with
      | index r => cases hbc
      | name u => exact Std.TransOrd.isLE_trans hab hbc

/-- Only equal keys compare as equal. -/
theorem eq_of_compare_eq {a b : Key} (h : compare a b = .eq) : a = b := by
  cases a with
  | index p =>
    cases b with
    | index q => exact congrArg Key.index (Std.LawfulEqOrd.eq_of_compare h)
    | name t => cases h
  | name s =>
    cases b with
    | index q => cases h
    | name t => exact congrArg Key.name (Std.LawfulEqOrd.eq_of_compare h)

instance : Std.TransCmp compare where
  eq_swap := compare_eq_swap _ _
  isLE_trans := compare_isLE_trans

instance : Std.LawfulEqCmp compare where
  eq_of_compare := eq_of_compare_eq

/-- Keys compare as equal exactly if they are. -/
theorem compare_eq_iff (a b : Key) : compare a b = .eq ↔ a = b :=
  Std.LawfulEqCmp.compare_eq_iff_eq

/-- One key stands in front of another: every position in front of every name, positions by their
signed values, names by their bytes. -/
def Precedes : Key → Key → Prop
  | .index a, .index b => a.toInt < b.toInt
  | .index _, .name _ => True
  | .name _, .index _ => False
  | .name s, .name t => Text.bytes s < Text.bytes t

/-- **The order of keys**: positions by signed value, then names by their bytes. -/
theorem compare_eq_lt_iff (a b : Key) : compare a b = .lt ↔ a.Precedes b := by
  cases a with
  | index p =>
    cases b with
    | index q =>
      -- positions are words, and their order is that of the integers they stand for
      have hlt : Ord.compare p q = .lt ↔ p < q := Std.compare_eq_lt
      exact hlt.trans Int64.lt_iff_toInt_lt
    | name t => exact ⟨fun _ => trivial, fun _ => rfl⟩
  | name s =>
    cases b with
    | index q => exact ⟨nofun, False.elim⟩
    -- names are compared character by character, which comes to the same as byte by byte
    | name t => exact compare_lt_iff_lt.trans Text.bytes_lt_iff.symm

/-- No two keys stand in front of each other. -/
theorem Precedes.asymm {a b : Key} (h : a.Precedes b) : ¬b.Precedes a := by
  rw [← compare_eq_lt_iff] at h ⊢
  rw [compare_eq_swap, h]
  nofun

/-- No key stands in front of itself. -/
theorem Precedes.ne {a b : Key} (h : a.Precedes b) : a ≠ b := by
  rintro rfl
  rw [← compare_eq_lt_iff, (compare_eq_iff a a).mpr rfl] at h
  cases h

end Key

namespace Captures

variable {c d : Captures}

/-! ### The list of the bindings -/

/-- The order in which bindings are listed is transitive. -/
theorem inOrder_trans (a b e : Key × Value) (hab : inOrder a b) (hbe : inOrder b e) :
    inOrder a e :=
  Std.TransCmp.isLE_trans hab hbe

/-- Of two bindings one may be listed in front of the other. -/
theorem inOrder_total (a b : Key × Value) : inOrder a b || inOrder b a := by
  rw [inOrder, inOrder, Key.compare_eq_swap b.1 a.1]
  cases Key.compare a.1 b.1 <;> rfl

/-- A binding in front of another whose key is different has a key that precedes. -/
theorem precedes_of_inOrder {a b : Key × Value} (h : inOrder a b) (hne : a.1 ≠ b.1) :
    a.1.Precedes b.1 := by
  rw [← Key.compare_eq_lt_iff]
  rw [inOrder] at h
  cases hcompare : Key.compare a.1 b.1 with
  | lt => rfl
  | eq => exact absurd (Key.eq_of_compare_eq hcompare) hne
  -- this is the case that the order excludes
  | gt => rw [hcompare] at h; cases h

/-- Bindings of different keys are sorted strictly. -/
theorem pairwise_mergeSort {l : List (Key × Value)} (hnodup : (l.map Prod.fst).Nodup) :
    (l.mergeSort inOrder).Pairwise fun b b' => b.1.Precedes b'.1 := by
  have hsorted := List.pairwise_mergeSort inOrder_trans inOrder_total l
  -- sorting keeps the keys different, and then no two of them compare as equal
  have hkeys : ((l.mergeSort inOrder).map Prod.fst).Nodup :=
    ((l.mergeSort_perm inOrder).map Prod.fst).nodup_iff.mpr hnodup
  exact hsorted.imp₂ (fun _ _ hle hne => precedes_of_inOrder hle hne) (List.pairwise_map.mp hkeys)

/-- The table holds every key once. -/
theorem nodup_table (c : Captures) : (c.bindings.toList.map Prod.fst).Nodup := by
  rw [Std.HashMap.map_fst_toList_eq_keys]
  exact Std.HashMap.nodup_keys

/-- The list holds the bindings of the table. -/
theorem toList_perm (c : Captures) : c.toList.Perm c.bindings.toList :=
  List.mergeSort_perm _ _

/-- **The bindings are listed in the order of their keys.** -/
theorem pairwise_toList (c : Captures) : c.toList.Pairwise fun b b' => b.1.Precedes b'.1 :=
  pairwise_mergeSort c.nodup_table

/-- **The list does not depend on the order of the table**: the bindings give the same list in
whatever order they are sorted from. -/
theorem mergeSort_eq_toList {l : List (Key × Value)} (h : l.Perm c.bindings.toList) :
    l.mergeSort inOrder = c.toList := by
  have hnodup : (l.map Prod.fst).Nodup := (h.map Prod.fst).nodup_iff.mpr c.nodup_table
  have hperm : (l.mergeSort inOrder).Perm c.toList :=
    ((l.mergeSort_perm inOrder).trans h).trans c.toList_perm.symm
  -- two sorted lists of the same bindings are the same list
  refine hperm.eq_of_pairwise ?_ (pairwise_mergeSort hnodup) c.pairwise_toList
  exact fun a b _ _ hab hba => (hab.asymm hba).elim

/-- **What is listed is what is read** under the key. -/
theorem mem_toList_iff {key : Key} {value : Value} :
    (key, value) ∈ c.toList ↔ c.get? key = some value :=
  c.toList_perm.mem_iff.trans Std.HashMap.mem_toList_iff_getElem?_eq_some

/-- The bound keys, in their order. -/
def keys (c : Captures) : List Key :=
  c.toList.map Prod.fst

/-- No key is listed twice. -/
theorem nodup_keys (c : Captures) : c.keys.Nodup :=
  List.pairwise_map.mpr (c.pairwise_toList.imp Key.Precedes.ne)

/-- The keys that are listed are those that are bound. -/
theorem mem_keys_iff {key : Key} : key ∈ c.keys ↔ c.contains key := by
  rw [contains_eq_isSome_get?, Option.isSome_iff_exists, keys, List.mem_map]
  constructor
  · rintro ⟨⟨_, value⟩, hmem, rfl⟩
    exact ⟨value, mem_toList_iff.mp hmem⟩
  · rintro ⟨value, hget⟩
    exact ⟨(key, value), mem_toList_iff.mpr hget, rfl⟩

/-- There are as many keys in the list as are counted. -/
theorem length_keys (c : Captures) : c.keys.length = c.size := by
  rw [keys, List.length_map, c.toList_perm.length_eq]
  exact Std.HashMap.length_toList

/-- The size is the length of any list that holds the bound keys, each of them once. -/
theorem size_eq_length {ks : List Key} (hnodup : ks.Nodup)
    (hmem : ∀ key, key ∈ ks ↔ c.contains key) : c.size = ks.length := by
  have hperm : c.keys.Perm ks :=
    (List.perm_ext_iff_of_nodup c.nodup_keys hnodup).mpr fun key =>
      mem_keys_iff.trans (hmem key).symm
  rw [← length_keys, hperm.length_eq]

/-- Captures are empty if nothing is counted. -/
theorem isEmpty_iff (c : Captures) : c.isEmpty ↔ c.size = 0 := by
  rw [isEmpty, Std.HashMap.isEmpty_eq_size_eq_zero]
  exact beq_iff_eq

/-! ### Equality -/

/-- What the comparison looks at: the sizes, and the bindings of the one side. -/
theorem equal_iff_of_bindings : c == d ↔
    c.size = d.size ∧ ∀ key a, c.get? key = some a → ∃ b, d.get? key = some b ∧ a == b := by
  change equal c d ↔ _
  rw [equal, ← Std.HashMap.all_toList, Bool.and_eq_true, beq_iff_eq, List.all_eq_true,
    Prod.forall]
  refine and_congr_right fun _ => forall_congr' fun key => forall_congr' fun a => ?_
  -- a binding of the table is what is read under its key
  rw [Std.HashMap.mem_toList_iff_getElem?_eq_some]
  refine imp_congr_right fun _ => ?_
  cases d.get? key <;> simp

/-- **Equality of captures**: the same keys are bound, and under each of them the values are
equal. -/
theorem equal_iff : c == d ↔
    (∀ key, c.contains key = d.contains key) ∧
    ∀ key a b, c.get? key = some a → d.get? key = some b → a == b := by
  rw [equal_iff_of_bindings]
  constructor
  · rintro ⟨hsize, hbindings⟩
    -- the keys on the one side are among those on the other, and there are as many
    have hsubset : c.keys ⊆ d.keys := by
      intro key hkey
      rw [mem_keys_iff, contains_eq_isSome_get?, Option.isSome_iff_exists] at hkey ⊢
      obtain ⟨a, ha⟩ := hkey
      obtain ⟨b, hb, -⟩ := hbindings key a ha
      exact ⟨b, hb⟩
    have hperm : c.keys.Perm d.keys := by
      refine (List.subperm_of_subset c.nodup_keys hsubset).perm_of_length_le ?_
      rw [length_keys, length_keys, hsize]
    refine ⟨fun key => ?_, fun key a b ha hb => ?_⟩
    · rw [Bool.eq_iff_iff, ← mem_keys_iff, ← mem_keys_iff]
      exact hperm.mem_iff
    · -- the value on the other side is the one that the comparison has found
      obtain ⟨b', hb', hab⟩ := hbindings key a ha
      rwa [Option.some.inj (hb.symm.trans hb')]
  · rintro ⟨hkeys, hvalues⟩
    refine ⟨?_, fun key a ha => ?_⟩
    · -- the keys are the same, so there are as many of them
      rw [← d.length_keys]
      refine size_eq_length d.nodup_keys fun key => ?_
      rw [mem_keys_iff, hkeys]
    · -- what is bound on the one side is bound on the other
      have hbound : (d.get? key).isSome := by
        rw [← contains_eq_isSome_get?, ← hkeys, contains_eq_isSome_get?, ha]
        rfl
      obtain ⟨b, hb⟩ := Option.isSome_iff_exists.mp hbound
      exact ⟨b, hb, hvalues key a b ha hb⟩

/-- Captures equal themselves unless some value does not. -/
theorem equal_self_iff : c == c ↔ ∀ key v, c.get? key = some v → v.NaNFree := by
  rw [equal_iff]
  refine ⟨fun ⟨_, h⟩ key v hv => Value.equal_self_iff.mp (h key v v hv hv), fun h => ?_⟩
  refine ⟨fun _ => rfl, fun key a b ha hb => ?_⟩
  obtain rfl := Option.some.inj (ha.symm.trans hb)
  exact Value.equal_self_iff.mpr (h key a ha)

end Captures

end StructMatch
