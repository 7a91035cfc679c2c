import Mathlib.Data.List.Perm.Subperm
import StructMatch.Proofs.Assoc.Members

/-!
# Maps whose keys are told apart

Insertion never makes a second entry for a key that equals one already there, so the keys of every
map that was filled by insertions are pairwise unequal (`distinctKeys_ofList`). The equality of keys
need not be reflexive: a key that does not equal itself may well stand in several entries, and none
of them is ever found.

Where the equality of keys is symmetric and transitive, look-up in such a map is membership: at most
one entry has a key that equals the wanted one (`DistinctKeys.get?_eq_some`). The last section is
the pigeonhole argument that follows. If every entry of a map with distinct keys has a partner in
another map, under a key that equals its own, then no two entries share a partner. So the other map
is at least as large (`DistinctKeys.size_le`), and if it is not larger then every entry of it is a
partner (`DistinctKeys.exists_partner`).
-/

namespace StructMatch.Assoc

variable {α β γ : Type} [BEq α]

/-- No key equals a key further on. -/
def DistinctKeys (m : Assoc α β) : Prop :=
  m.keys.Pairwise fun k l => (k == l) = false

/-! ### Filling a map -/

/-- Whether a key is contained is a matter of the keys. -/
theorem contains_eq_any_keys (m : Assoc α β) (key : α) :
    m.contains key = m.keys.any (· == key) := by
  rw [keys, List.any_map]
  rfl

/-- Maps with the same keys contain the same keys, whatever stands under them. -/
theorem contains_eq_of_keys_eq {m : Assoc α β} {m' : Assoc α γ} (h : m.keys = m'.keys) :
    m.contains = m'.contains := by
  funext key
  rw [contains_eq_any_keys, contains_eq_any_keys, h]

omit [BEq α] in
/-- Entries with the same keys, pairwise, make maps with the same keys. -/
theorem keys_eq_of_forall₂ {R : α × β → α × γ → Prop} (hkey : ∀ {e f}, R e f → e.1 = f.1)
    {es : List (α × β)} {fs : List (α × γ)} (h : List.Forall₂ R es fs) :
    (⟨es⟩ : Assoc α β).keys = (⟨fs⟩ : Assoc α γ).keys := by
  rw [keys, keys]
  induction h with
  | nil => rfl
  | cons hef _ ih => rw [List.map_cons, List.map_cons, hkey hef, ih]

/-- A key that is not there makes a new entry at the end. -/
theorem insert_of_not_contains {m : Assoc α β} {key : α} (h : m.contains key = false) (value : β) :
    m.insert key value = ⟨m.entries ++ [(key, value)]⟩ := by
  obtain ⟨entries⟩ := m
  unfold insert getThenInsert?
  unfold contains at h
  induction entries with
  | nil => rfl
  | cons e rest ih =>
    rw [List.any_cons, Bool.or_eq_false_iff] at h
    obtain ⟨hfirst, hrest⟩ := h
    simp only [replaceOrAdd, hfirst, Bool.false_eq_true, if_false, mk.injEq] at ih ⊢
    exact congrArg (e :: ·) (ih hrest)

/-- A key that is there keeps all keys as they are. -/
theorem keys_insert_of_contains {m : Assoc α β} {key : α} (h : m.contains key) (value : β) :
    (m.insert key value).keys = m.keys := by
  obtain ⟨entries⟩ := m
  unfold insert getThenInsert? keys
  unfold contains at h
  induction entries with
  | nil => cases h
  | cons e rest ih =>
    -- the first entry is the one that is replaced, or it is passed over
    by_cases hfirst : e.1 == key
    · simp only [replaceOrAdd, hfirst, if_true, List.map_cons]
    · simp only [Bool.not_eq_true] at hfirst
      rw [List.any_cons, hfirst, Bool.false_or] at h
      simp only [replaceOrAdd, hfirst, Bool.false_eq_true, if_false, List.map_cons]
      exact congrArg (e.1 :: ·) (ih h)

/-- Without entries there are no two keys to compare. -/
theorem distinctKeys_empty : (empty : Assoc α β).DistinctKeys :=
  List.Pairwise.nil

/-- An insertion keeps keys distinct. -/
theorem DistinctKeys.insert {m : Assoc α β} (hm : m.DistinctKeys) (key : α) (value : β) :
    (m.insert key value).DistinctKeys := by
  unfold DistinctKeys at hm ⊢
  cases h : m.contains key with
  -- no key changes
  | true =>
    rw [keys_insert_of_contains h]
    exact hm
  | false =>
    rw [insert_of_not_contains h, keys, List.map_append]
    refine List.pairwise_append.mpr ⟨hm, List.pairwise_singleton _ _, ?_⟩
    -- the new key was compared with every key before it
    intro k hk l hl
    obtain rfl := List.mem_singleton.mp hl
    obtain ⟨e, he, rfl⟩ := List.mem_map.mp hk
    unfold contains at h
    rw [List.any_eq_false] at h
    simpa using h e he

/-- **The keys of a map that was filled by insertions are distinct.** -/
theorem distinctKeys_ofList (entries : List (α × β)) : (ofList entries).DistinctKeys := by
  suffices hfold : ∀ m : Assoc α β, m.DistinctKeys →
      (entries.foldl (fun m e => m.insert e.1 e.2) m).DistinctKeys from
    hfold empty distinctKeys_empty
  induction entries with
  | nil => exact fun m hm => hm
  | cons first rest ih => exact fun m hm => ih _ (hm.insert first.1 first.2)

/-- Filling a map from entries that already have distinct keys stores these entries. -/
theorem DistinctKeys.ofList_entries {m : Assoc α β} (hm : m.DistinctKeys) :
    ofList m.entries = m := by
  obtain ⟨entries⟩ := m
  -- what has been stored so far stands in front of what is still listed
  suffices hfold : ∀ stored : List (α × β), DistinctKeys ⟨stored ++ entries⟩ →
      entries.foldl (fun (m : Assoc α β) e => m.insert e.1 e.2) ⟨stored⟩ = ⟨stored ++ entries⟩ from
    hfold [] hm
  clear hm
  induction entries with
  | nil =>
    intro stored _
    rw [List.append_nil]
    rfl
  | cons first rest ih =>
    intro stored hstored
    -- the first of the list is none of the stored keys, so it goes to the end
    have hfresh : (⟨stored⟩ : Assoc α β).contains first.1 = false := by
      unfold DistinctKeys keys at hstored
      rw [List.map_append] at hstored
      obtain ⟨-, -, hacross⟩ := List.pairwise_append.mp hstored
      unfold contains
      rw [List.any_eq_false]
      intro e he
      rw [hacross e.1 (List.mem_map_of_mem he) first.1 List.mem_cons_self]
      exact Bool.false_ne_true
    have hsplit : stored ++ first :: rest = (stored ++ [first]) ++ rest := by
      rw [List.append_assoc, List.singleton_append]
    rw [List.foldl_cons, insert_of_not_contains hfresh, hsplit]
    rw [hsplit] at hstored
    exact ih (stored ++ [first]) hstored

/-! ### Look-up as membership -/

/-- What is found was stored, under a key that equals the wanted one. -/
theorem exists_mem_of_get?_eq_some {m : Assoc α β} {key : α} {value : β}
    (h : m.get? key = some value) : ∃ e ∈ m.entries, e.1 == key ∧ e.2 = value := by
  obtain ⟨entries⟩ := m
  unfold get? at h
  induction entries with
  | nil => cases h
  | cons e rest ih =>
    rw [lookup] at h
    split at h
    -- the first entry is the one that is found
    · next hkey => exact ⟨e, List.mem_cons_self, hkey, Option.some.inj h⟩
    · obtain ⟨f, hf, hfound⟩ := ih h
      exact ⟨f, List.mem_cons_of_mem e hf, hfound⟩

/-- Nothing is found exactly when no key equals the wanted one. -/
theorem get?_eq_none_iff {m : Assoc α β} {key : α} :
    m.get? key = none ↔ ∀ e ∈ m.entries, (e.1 == key) = false := by
  rw [← Option.not_isSome_iff_eq_none, get?_isSome, contains, Bool.not_eq_true, List.any_eq_false]
  simp only [Bool.not_eq_true]

variable [PartialEquivBEq α]

/-- Equal keys find the same. -/
theorem get?_congr {m : Assoc α β} {k l : α} (h : k == l) : m.get? k = m.get? l := by
  obtain ⟨entries⟩ := m
  unfold get?
  induction entries with
  | nil => rfl
  | cons e rest ih => rw [lookup, lookup, ih, BEq.congr_right h]

/-- Where keys are distinct, every entry is found under the keys that equal its own. -/
theorem DistinctKeys.get?_eq_some {m : Assoc α β} (hm : m.DistinctKeys) {e : α × β} {key : α}
    (he : e ∈ m.entries) (hkey : e.1 == key) : m.get? key = some e.2 := by
  obtain ⟨entries⟩ := m
  unfold get?
  unfold DistinctKeys keys at hm
  induction entries with
  | nil => exact absurd he List.not_mem_nil
  | cons first rest ih =>
    rw [List.map_cons, List.pairwise_cons] at hm
    obtain ⟨hfirst, hrest⟩ := hm
    rw [lookup]
    rcases List.mem_cons.mp he with rfl | he
    · rw [if_pos hkey]
    · -- an entry in front with an equal key would equal a key further on
      have hne : ¬ (first.1 == key) = true := by
        intro hfound
        have hsame : first.1 == e.1 := BEq.trans hfound (BEq.symm hkey)
        rw [hfirst e.1 (List.mem_map_of_mem he)] at hsame
        exact Bool.false_ne_true hsame
      rw [if_neg hne]
      exact ih hrest he

/-! ### Partners in another map -/

/-- If every item of a list has a partner in another list, and no two items have one in common, then
as many partners as there are items can be picked without repetition. -/
theorem exists_partners {σ τ : Type} {R : σ → τ → Prop} {xs : List σ} {ys : List τ}
    (hapart : xs.Pairwise fun x x' => ∀ y, R x y → ¬ R x' y) (h : ∀ x ∈ xs, ∃ y ∈ ys, R x y) :
    ∃ zs : List τ, zs.length = xs.length ∧ (∀ z ∈ zs, ∃ x ∈ xs, R x z) ∧ zs.Subperm ys := by
  -- without repetition is enough, as what is picked then fits into the list
  suffices hpicked : ∃ zs : List τ, zs.length = xs.length ∧ (∀ z ∈ zs, ∃ x ∈ xs, R x z) ∧
      zs.Nodup ∧ zs ⊆ ys by
    obtain ⟨zs, hlength, hzs, hnodup, hsubset⟩ := hpicked
    exact ⟨zs, hlength, hzs, List.subperm_of_subset hnodup hsubset⟩
  induction xs with
  | nil => exact ⟨[], rfl, nofun, List.nodup_nil, List.nil_subset ys⟩
  | cons x xs ih =>
    obtain ⟨hfirst, hothers⟩ := List.pairwise_cons.mp hapart
    obtain ⟨⟨y, hy, hxy⟩, hxs⟩ := List.forall_mem_cons.mp h
    obtain ⟨zs, hlength, hzs, hnodup, hsubset⟩ := ih hothers hxs
    refine ⟨y :: zs, congrArg (· + 1) hlength, ?_, List.nodup_cons.mpr ⟨?_, hnodup⟩,
      List.cons_subset.mpr ⟨hy, hsubset⟩⟩
    · refine List.forall_mem_cons.mpr ⟨⟨x, List.mem_cons_self, hxy⟩, fun z hz => ?_⟩
      obtain ⟨x', hx', hx'z⟩ := hzs z hz
      exact ⟨x', List.mem_cons_of_mem x hx', hx'z⟩
    · -- a partner picked for a later item is not the partner of the first
      intro hmem
      obtain ⟨x', hx', hx'y⟩ := hzs y hmem
      exact hfirst x' hx' y hxy hx'y

section Partners

variable {a : Assoc α β} {b : Assoc α γ}

/-- Entries with distinct keys have no partner in common. -/
private theorem DistinctKeys.apart (ha : a.DistinctKeys) {R : α × β → α × γ → Prop}
    (hR : ∀ e f, R e f → f.1 == e.1) :
    a.entries.Pairwise fun e e' => ∀ f, R e f → ¬ R e' f := by
  refine (List.pairwise_map.mp ha).imp ?_
  intro e e' hne f he he'
  -- a partner in common would have a key that equals both
  have hsame : e.1 == e'.1 := BEq.trans (BEq.symm (hR e f he)) (hR e' f he')
  rw [hne] at hsame
  exact Bool.false_ne_true hsame

/-- A map in which every key of a map with distinct keys is found is at least as large. -/
theorem DistinctKeys.size_le (ha : a.DistinctKeys)
    (h : ∀ e ∈ a.entries, ∃ f ∈ b.entries, f.1 == e.1) : a.size ≤ b.size := by
  have hapart := ha.apart fun (e : α × β) (f : α × γ) (hkey : f.1 == e.1) => hkey
  -- one partner is picked for each entry
  obtain ⟨fs, hlength, -, hsubperm⟩ := exists_partners hapart h
  have hle := hsubperm.length_le
  rwa [hlength] at hle

/-- If every entry of a map with distinct keys has a partner in a map that is not larger, every
entry of that map is a partner. -/
theorem DistinctKeys.exists_partner (ha : a.DistinctKeys) {R : α × β → α × γ → Prop}
    (hR : ∀ e f, R e f → f.1 == e.1) (h : ∀ e ∈ a.entries, ∃ f ∈ b.entries, R e f)
    (hsize : b.size ≤ a.size) : ∀ f ∈ b.entries, ∃ e ∈ a.entries, R e f := by
  obtain ⟨fs, hlength, hfs, hsubperm⟩ := exists_partners (ha.apart hR) h
  -- the partners are all there is
  have hperm : fs.Perm b.entries := hsubperm.perm_of_length_le (hlength ▸ hsize)
  intro f hf
  exact hfs f (hperm.symm.subset hf)

end Partners

end StructMatch.Assoc
