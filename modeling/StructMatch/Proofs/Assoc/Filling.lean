import StructMatch.Pattern.Basic
import StructMatch.Proofs.Assoc.Distinct
import StructMatch.Proofs.Value.Equality

/-!
# What insertions leave behind

A map that was filled by insertions can be read off the list of these insertions. An insertion under
a key that equals none inserted before makes an entry, at the end; it settles the place and the key
of the entry for good. The value is that of the last insertion under an equal key. `entriesMade`
says this by going through the list once, and `FilledBy` adds what look-ups find in the result.

The equality of keys is a partial equivalence only. Insertion looks for the first stored key that
equals the new one and knows nothing of the keys that were thrown away, and a look-up may come with
a key that was never inserted. That all this comes to the classes of equal keys rests on
transitivity (`contains_insert`, `get?_insert`). A key that does not equal itself is in no class:
each of its insertions makes an entry, which is never found.

The law is about insertion alone, and so it is the same for the maps of plain data and for the
entries of map patterns (`insertions_keep_first_keys_and_last_values`).
-/

namespace StructMatch.Assoc

variable {α β γ : Type} [BEq α]

/-- The value of the last insertion under a key that equals `key`. -/
def lastUnder? (key : α) (inserts : List (α × β)) : Option β :=
  (inserts.filter fun e => e.1 == key).getLast?.map (·.2)

/-- The entries made by insertions that come after insertions under the keys `earlier`, in order.
One under a key that equals no earlier key makes an entry. It is an entry for this key, and it has
the value of the last insertion under an equal key, be it this one or a later one. -/
def entriesMade (earlier : List α) : List (α × β) → List (α × β)
  | [] => []
  | (k, v) :: later =>
    let others := entriesMade (earlier ++ [k]) later
    if earlier.any (· == k) then others else (k, (lastUnder? k later).getD v) :: others

/-- What the map looks like that insertions into the empty map make: its keys are pairwise unequal,
its entries are those the insertions make, and a look-up finds the last insertion under a key that
equals the wanted one. -/
structure FilledBy (inserts : List (α × β)) (m : Assoc α β) : Prop where
  distinctKeys : m.DistinctKeys
  entries_eq : m.entries = entriesMade [] inserts
  get?_eq : ∀ key, m.get? key = lastUnder? key inserts
  contains_iff : ∀ key, m.contains key ↔ ∃ e ∈ inserts, e.1 == key

/-! ### The last insertion under a key -/

/-- A later insertion under an equal key goes before the first one. -/
theorem lastUnder?_cons (key k : α) (v : β) (later : List (α × β)) :
    lastUnder? key ((k, v) :: later)
      = (lastUnder? key later).or (if k == key then some v else none) := by
  unfold lastUnder?
  rw [List.filter_cons]
  -- the first insertion counts only if there is none after it
  split
  · rw [List.getLast?_cons]
    cases (later.filter fun e => e.1 == key).getLast? <;> rfl
  · rw [Option.or_none]

/-- There is a last insertion exactly if there is one. -/
theorem lastUnder?_isSome_iff {key : α} {inserts : List (α × β)} :
    (lastUnder? key inserts).isSome ↔ ∃ e ∈ inserts, e.1 == key := by
  induction inserts with
  | nil => simp [lastUnder?]
  | cons e later ih =>
    obtain ⟨k, v⟩ := e
    rw [lastUnder?_cons, Option.isSome_or, Bool.or_eq_true, ih, List.exists_mem_cons_iff, or_comm]
    refine or_congr_left ?_
    cases k == key <;> simp

/-! ### One insertion -/

section Insertion

variable {m : Assoc α β} {key : α}

/-- A map grows by one entry or not at all. -/
theorem size_insert (m : Assoc α β) (key : α) (value : β) :
    (m.insert key value).size = m.size + if (m.get? key).isNone then 1 else 0 := by
  -- the size is that of the keys, and it is known what becomes of them
  have hlength : ∀ m : Assoc α β, m.size = m.keys.length := fun m => (List.length_map _).symm
  rw [← Option.not_isSome, get?_isSome]
  cases h : m.contains key with
  | true => rw [hlength, keys_insert_of_contains h, ← hlength]; rfl
  | false => rw [insert_of_not_contains h, size, List.length_append]; rfl

variable [PartialEquivBEq α]

/-- A key that does not equal itself is never found, so that inserting it makes an entry. -/
theorem contains_eq_false_of_ne_self (m : Assoc α β) (h : (key == key) = false) :
    m.contains key = false := by
  unfold contains
  rw [List.any_eq_false]
  intro e _ hkey
  -- a key that equals a stored one equals itself
  have hself : key == key := BEq.trans (BEq.symm hkey) hkey
  rw [h] at hself
  cases hself

/-- After an insertion the keys are contained that were contained before, and those that equal the
inserted one if that equals itself. -/
theorem contains_insert (m : Assoc α β) (k : α) (v : β) (key : α) :
    (m.insert k v).contains key = (m.contains key || k == key) := by
  cases h : m.contains k with
  | true =>
    rw [contains_eq_any_keys, keys_insert_of_contains h, ← contains_eq_any_keys]
    -- a key that equals the inserted one equals a stored one already
    cases hkey : k == key with
    | false => rw [Bool.or_false]
    | true =>
      obtain ⟨e, he, hek⟩ := List.any_eq_true.mp h
      have hstored : m.contains key = true := List.any_eq_true.mpr ⟨e, he, BEq.trans hek hkey⟩
      rw [hstored]
      rfl
  | false =>
    -- the new entry is at the end, under the inserted key
    rw [insert_of_not_contains h, contains, List.any_append]
    simp [contains]

/-- After an insertion, the keys that equal the inserted one find its value, and the others find
what they found before. -/
theorem get?_insert (m : Assoc α β) (k : α) (v : β) (key : α) :
    (m.insert k v).get? key = if k == key then some v else m.get? key := by
  obtain ⟨entries⟩ := m
  unfold insert getThenInsert? get?
  induction entries with
  | nil => rfl
  | cons e rest ih =>
    obtain ⟨l, w⟩ := e
    rw [replaceOrAdd]
    cases hlk : l == k with
    | true =>
      -- the first entry is replaced, and it is found by the keys that equal the inserted one
      simp only [if_true, lookup, BEq.congr_left hlk]
      cases k == key <;> rfl
    | false =>
      simp only [Bool.false_eq_true, if_false, lookup] at ih ⊢
      rw [ih]
      cases hlkey : l == key with
      | false => rfl
      | true =>
        -- the first entry is found, so the inserted key is another one
        have hne : (k == key) = false := by
          rw [← BEq.congr_right hlkey, BEq.comm]
          exact hlk
        rw [hne]
        rfl

/-- An insertion under a key that is there replaces the value of the one entry with an equal key. -/
theorem DistinctKeys.entries_insert (hm : m.DistinctKeys) (h : m.contains key) (value : β) :
    (m.insert key value).entries
      = m.entries.map fun e => (e.1, if key == e.1 then value else e.2) := by
  obtain ⟨entries⟩ := m
  unfold DistinctKeys keys at hm
  unfold contains at h
  unfold Assoc.insert getThenInsert?
  induction entries with
  | nil => cases h
  | cons e rest ih =>
    obtain ⟨k, v⟩ := e
    rw [List.map_cons, List.pairwise_cons] at hm
    obtain ⟨hfirst, hrest⟩ := hm
    rw [replaceOrAdd, List.map_cons]
    cases hk : k == key with
    | true =>
      -- no entry further on has a key that equals the first
      have hothers : ∀ e ∈ rest, (e.1, if key == e.1 then value else e.2) = e := by
        intro e he
        have hne : (key == e.1) = false := by
          rw [← BEq.congr_left hk]
          exact hfirst e.1 (List.mem_map_of_mem he)
        rw [hne]
        rfl
      simp only [if_true, BEq.symm hk]
      rw [List.map_congr_left hothers, List.map_id']
    | false =>
      have hne : (key == k) = false := by rw [BEq.comm, hk]
      rw [List.any_cons, hk, Bool.false_or] at h
      simp only [Bool.false_eq_true, if_false, hne]
      exact congrArg _ (ih hrest h)

end Insertion

/-! ### Runs of insertions -/

section Runs

variable [PartialEquivBEq α]

/-- Look-up after a run of insertions. -/
theorem get?_foldl_insert (inserts : List (α × β)) (m : Assoc α β) (key : α) :
    (inserts.foldl (fun m e => m.insert e.1 e.2) m).get? key
      = (lastUnder? key inserts).or (m.get? key) := by
  induction inserts generalizing m with
  | nil => rfl
  | cons e later ih =>
    obtain ⟨k, v⟩ := e
    -- the first insertion counts for the later ones as what was there before them
    rw [List.foldl_cons, ih, get?_insert, lastUnder?_cons, Option.or_assoc]
    cases k == key <;> rfl

/-- The entries after a run of insertions: those that were there, each with the value of the last
insertion under an equal key, and those that the run has made. The run knows the keys inserted
before it by the keys that are stored. -/
theorem DistinctKeys.entries_foldl_insert {m : Assoc α β} (hm : m.DistinctKeys) {earlier : List α}
    (hearlier : ∀ key, m.contains key = earlier.any (· == key)) (inserts : List (α × β)) :
    (inserts.foldl (fun m e => m.insert e.1 e.2) m).entries
      = m.entries.map (fun e => (e.1, (lastUnder? e.1 inserts).getD e.2))
        ++ entriesMade earlier inserts := by
  induction inserts generalizing m earlier with
  | nil =>
    have hsame : ∀ e : α × β, (e.1, (lastUnder? e.1 []).getD e.2) = e := fun e => rfl
    rw [entriesMade, List.append_nil, List.map_congr_left fun e _ => hsame e, List.map_id']
    rfl
  | cons e later ih =>
    obtain ⟨k, v⟩ := e
    -- the keys that the run knows of grow by the inserted one
    have hearlier' : ∀ key, (m.insert k v).contains key = (earlier ++ [k]).any (· == key) := by
      intro key
      rw [contains_insert, hearlier, List.any_append, List.any_cons, List.any_nil, Bool.or_false]
    rw [List.foldl_cons, ih (hm.insert k v) hearlier', entriesMade, ← hearlier]
    cases hcontains : m.contains k with
    | true =>
      -- the values of the entries with an equal key are replaced, by this insertion or a later one
      rw [if_pos rfl, hm.entries_insert hcontains, List.map_map]
      refine congrArg (· ++ _) (List.map_congr_left fun e _ => ?_)
      rw [Function.comp_apply, lastUnder?_cons]
      cases lastUnder? e.1 later with
      | some w => rfl
      | none => cases k == e.1 <;> rfl
    | false =>
      -- a new key replaces nothing, and its entry is the first that is made
      have hothers : ∀ e ∈ m.entries, (e.1, (lastUnder? e.1 later).getD e.2)
          = (e.1, (lastUnder? e.1 ((k, v) :: later)).getD e.2) := by
        intro e he
        have hne : (k == e.1) = false := by
          rw [BEq.comm, Bool.eq_false_iff]
          exact List.any_eq_false.mp hcontains e he
        rw [lastUnder?_cons, hne, if_neg Bool.false_ne_true, Option.or_none]
      rw [if_neg Bool.false_ne_true, insert_of_not_contains hcontains, List.map_append,
        List.append_assoc, List.map_congr_left hothers]
      rfl

/-- **A map is what the insertions that filled it have made.** -/
theorem filledBy_ofList (inserts : List (α × β)) : FilledBy inserts (ofList inserts) := by
  have hget : ∀ key, (ofList inserts).get? key = lastUnder? key inserts := by
    intro key
    rw [ofList, get?_foldl_insert]
    exact Option.or_none
  refine ⟨distinctKeys_ofList inserts, ?_, hget, fun key => ?_⟩
  · -- no key comes before the run, and none is stored
    have hempty : ∀ key, (empty : Assoc α β).contains key = ([] : List α).any (· == key) :=
      fun _ => rfl
    exact distinctKeys_empty.entries_foldl_insert hempty inserts
  · rw [← get?_isSome, hget]
    exact lastUnder?_isSome_iff

end Runs

/-! ### Keys without values -/

/-- Which insertions make entries depends on the keys alone. -/
theorem map_fst_entriesMade_congr {es : List (α × β)} {fs : List (α × γ)}
    (h : es.map Prod.fst = fs.map Prod.fst) (earlier : List α) :
    (entriesMade earlier es).map Prod.fst = (entriesMade earlier fs).map Prod.fst := by
  induction es generalizing fs earlier with
  | nil =>
    obtain rfl : fs = [] := List.map_eq_nil_iff.mp h.symm
    rfl
  | cons e es ih =>
    obtain ⟨f, fs', rfl, hkey, hkeys⟩ := List.map_eq_cons_iff.mp h.symm
    obtain ⟨k, v⟩ := e
    obtain ⟨l, w⟩ := f
    obtain rfl : l = k := hkey
    rw [entriesMade, entriesMade]
    split
    · exact ih hkeys.symm _
    · exact congrArg (l :: ·) (ih hkeys.symm _)

/-- Maps filled under the same keys, in the same order, have the same keys in the same places. -/
theorem FilledBy.keys_eq {es : List (α × β)} {fs : List (α × γ)} {m : Assoc α β} {n : Assoc α γ}
    (hm : FilledBy es m) (hn : FilledBy fs n) (h : es.map Prod.fst = fs.map Prod.fst) :
    m.keys = n.keys := by
  rw [keys, keys, hm.entries_eq, hn.entries_eq]
  exact map_fst_entriesMade_congr h []

/-- **Insertions keep the first key and the last value of each class of equal keys.** A map of plain
data that was filled by insertions is what these have made. One insertion more answers what a
look-up would have found just before, and makes the map larger by one exactly if that is nothing;
under a key that is not equal to itself it always makes an entry at the end. The entries of a map
pattern are told apart by the same law: from a list with the same keys, they have the same keys in
the same places. -/
theorem insertions_keep_first_keys_and_last_values :
    (∀ inserts : List (Value × Value), FilledBy inserts (ofList inserts) ∧
      ∀ key value, ∃ old m, (ofList inserts).getThenInsert? key value = (old, m) ∧
        m = ofList (inserts ++ [(key, value)]) ∧
        old = (ofList inserts).get? key ∧
        m.size = (ofList inserts).size + (if old.isNone then 1 else 0) ∧
        (¬ key.NaNFree → m.entries = (ofList inserts).entries ++ [(key, value)])) ∧
    ∀ (entries : List (Value × Pattern)) (exact : Bool), ∃ m required,
      Pattern.mapping entries exact = .map m exact required ∧ FilledBy entries m ∧
      ∀ inserts : List (Value × Value), inserts.map Prod.fst = entries.map Prod.fst →
        (ofList inserts).keys = m.keys := by
  refine ⟨fun inserts => ⟨filledBy_ofList inserts, fun key value => ?_⟩, fun entries exact => ?_⟩
  · -- one insertion more is the run with one more at its end
    have hold := getThenInsert?_fst (ofList inserts) key value
    have hmap : ((ofList inserts).getThenInsert? key value).2
        = ofList (inserts ++ [(key, value)]) := by
      rw [ofList, ofList, List.foldl_append]
      rfl
    refine ⟨_, _, rfl, hmap, hold, ?_, fun hnan => ?_⟩
    · have hsize := size_insert (ofList inserts) key value
      rwa [← hold] at hsize
    · -- a key that does not equal itself is not there, even if it was inserted before
      have hself : (key == key) = false := by
        rw [Bool.eq_false_iff]
        exact fun hself => hnan (Value.equal_self_iff.mp hself)
      have habsent := contains_eq_false_of_ne_self (ofList inserts) hself
      exact congrArg Assoc.entries (insert_of_not_contains habsent value)
  · refine ⟨_, _, rfl, filledBy_ofList entries, fun inserts hkeys => ?_⟩
    -- a map pattern is filled by the same insertions, with patterns for values
    exact (filledBy_ofList inserts).keys_eq (filledBy_ofList entries) hkeys

end StructMatch.Assoc
