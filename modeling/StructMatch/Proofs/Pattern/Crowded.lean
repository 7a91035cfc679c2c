import StructMatch.Proofs.Pattern.WellFormed
import StructMatch.Proofs.Value.Induction

/-!
# Which plain data cannot be built

A sequence of plain data is *crowded* if two or more of its items are built to patterns with the
rest flag, for there is one rest slot only. Nothing else can go wrong with plain data
(`building_fails_exactly_at_crowded_sequences`).

Which of several crowded sequences is reported depends on the order in which parts are built.
`Plain.sequences` lists the sequences that building comes upon in this order: a sequence comes after
all that stand inside it, since it is put together when its items are there. What stands under the
reserved key of a map is not built and not listed, while an entry that a later one replaces is. The
error of plain data is the report of the first crowded sequence in the list (`errorOf?_build`).

The proof is an induction over plain data that compares the errors of two traversals. A traversal
that builds fails where the first of its steps fails (`errorOf?_mapM`), and a search through the
lists of several parts finds what the first successful search of one part finds. Once all items of a
sequence are built, what is left to fail is the split around the rest slot, and
`exists_ofItems_eq_ok` says that one rest at most is enough for it: the check that sequence patterns
make for themselves has then nothing to find.
-/

namespace StructMatch

/-! ### The error of a result -/

/-- The error that a result is. -/
def errorOf? {ε α : Type} : Except ε α → Option ε
  | .error e => some e
  | .ok _ => none

/-- A result has an error exactly if it is this error. -/
theorem errorOf?_eq_some_iff {ε α : Type} {x : Except ε α} {e : ε} :
    errorOf? x = some e ↔ x = .error e := by
  cases x with
  | error e' => simp [errorOf?]
  | ok a => simp [errorOf?]

/-- What is made of a success afterwards does not change the error. -/
theorem errorOf?_bind_pure {ε α β : Type} (x : Except ε α) (f : α → β) :
    errorOf? (x >>= fun a => pure (f a)) = errorOf? x := by
  cases x <;> rfl

/-- A traversal fails with the error of the first step that fails. -/
theorem errorOf?_mapM {ε α β : Type} (f : α → Except ε β) (xs : List α) :
    errorOf? (xs.mapM f) = xs.findSome? fun x => errorOf? (f x) := by
  induction xs with
  | nil => rfl
  | cons x xs ih =>
    rw [List.mapM_cons, List.findSome?_cons]
    cases f x with
    -- the first step fails, and the others are not taken
    | error e => rfl
    -- the rest of the traversal decides, and adding a result to it is no failure
    | ok y =>
      show errorOf? (xs.mapM f >>= fun ys => pure (y :: ys)) = _
      rw [errorOf?_bind_pure, ih]
      rfl

/-- An entry fails to be made if its second part does. -/
theorem errorOf?_makeEntry {κ α β : Type} (f : α → Except PatternError β) (e : κ × α) :
    errorOf? (makeEntry f e) = errorOf? (f e.2) :=
  errorOf?_bind_pure (f e.2) fun b => (e.1, b)

/-- Searches that agree on every item agree on the list. -/
theorem findSome?_congr {α β : Type} {f g : α → Option β} {xs : List α}
    (h : ∀ x ∈ xs, f x = g x) : xs.findSome? f = xs.findSome? g := by
  induction xs with
  | nil => rfl
  | cons x xs ih =>
    obtain ⟨hx, hxs⟩ := List.forall_mem_cons.mp h
    rw [List.findSome?_cons, List.findSome?_cons, hx, ih hxs]

/-! ### The error of a split -/

namespace Pattern

/-- The split fails if there are too many rests, and only then. -/
theorem errorOf?_ofItems (items : List Pattern) :
    errorOf? (ofItems items)
      = if 2 ≤ items.countP isRest then some (.multipleRest (items.countP isRest)) else none := by
  by_cases h : 2 ≤ items.countP isRest
  · have hcrowded : 1 < items.countP isRest := h
    rw [if_pos h, ofItems]
    simp only [if_pos hcrowded]
    rfl
  · have hfew : items.countP isRest ≤ 1 := Nat.le_of_lt_succ (Nat.lt_of_not_le h)
    -- with one rest at most the split goes through
    obtain ⟨head, middle, tail, hok, -⟩ := exists_ofItems_eq_ok hfew
    rw [if_neg h, hok]
    rfl

end Pattern

/-! ### Values -/

/-- A value can always be built, and it is never built to a rest. -/
theorem Value.exists_toPattern (v : Value) : ∃ p, v.toPattern = .ok p ∧ p.isRest = false := by
  induction v with
  | seq items ih =>
    obtain ⟨ps, hps, -⟩ := exists_mapM_eq_ok ih
    -- no item is built to a rest, so there is nothing that could be one too many
    have hunmarked : ∀ p ∈ ps, ¬ p.isRest := by
      refine forall_mem_of_mapM_eq_ok hps fun v hv p hp => ?_
      obtain ⟨q, hq, hflag⟩ := ih v hv
      obtain rfl : p = q := Except.ok.inj (hp.symm.trans hq)
      exact Bool.eq_false_iff.mp hflag
    have hcount : ps.countP Pattern.isRest ≤ 1 := by
      rw [List.countP_eq_zero.mpr hunmarked]
      exact Nat.zero_le 1
    obtain ⟨head, middle, tail, hok, -⟩ := Pattern.exists_ofItems_eq_ok hcount
    refine ⟨.seq head middle tail, ?_, rfl⟩
    rw [toPattern, toPatterns_eq_mapM, hps]
    exact hok
  | map m ih =>
    obtain ⟨entries⟩ := m
    -- the entries are made one by one, and making a map cannot fail
    have hentries : ∀ e ∈ entries, ∃ q, makeEntry toPattern e = .ok q ∧ q.1 = e.1 := by
      intro e he
      obtain ⟨p, hp, -⟩ := (ih e he).2
      refine ⟨(e.1, p), ?_, rfl⟩
      rw [makeEntry, hp]
      rfl
    obtain ⟨qs, hqs, -⟩ := exists_mapM_eq_ok hentries
    refine ⟨.mapping qs false, ?_, rfl⟩
    rw [toPattern, toEntries_eq_mapM, hqs]
    rfl
  | _ => exact ⟨_, rfl, rfl⟩

namespace Plain

/-! ### The sequences on the way -/

mutual

/-- The sequences that building comes upon, each by its items, in the order in which they are put
together. -/
def sequences : Plain → List (List Plain)
  | .seq items => sequencesOfAll items ++ [items]
  | .map entries => sequencesOfEntries entries
  | _ => []
termination_by structural plain => plain

/-- The sequences in several items. -/
def sequencesOfAll : List Plain → List (List Plain)
  | [] => []
  | i :: is => sequences i ++ sequencesOfAll is
termination_by structural is => is

/-- The sequences in the entries of a plain map. -/
def sequencesOfEntries : List (PlainKey × Plain) → List (List Plain)
  | [] => []
  | (.exact, _) :: others => sequencesOfEntries others
  | (.value _, i) :: others => sequences i ++ sequencesOfEntries others
termination_by structural es => es

end

/-- Items have their sequences one after another. -/
theorem sequencesOfAll_eq_flatMap (is : List Plain) :
    sequencesOfAll is = is.flatMap sequences := by
  induction is with
  | nil => rfl
  | cons i is ih => rw [sequencesOfAll, ih, List.flatMap_cons]

/-- Entries have their sequences one after another, those under the reserved key left out. -/
theorem sequencesOfEntries_eq_flatMap (es : List (PlainKey × Plain)) :
    sequencesOfEntries es = (es.filterMap properEntry?).flatMap fun e => e.2.sequences := by
  induction es with
  | nil => rfl
  | cons e es ih =>
    obtain ⟨k, i⟩ := e
    cases k with
    | exact => exact ih
    | value k =>
      have hproper : properEntry? (.value k, i) = some (k, i) := rfl
      rw [sequencesOfEntries, ih, List.filterMap_cons_some hproper, List.flatMap_cons]

/-- The items are those of a sequence that building comes upon: the plain data itself, or one in an
item of a sequence or under a proper key of a map. -/
inductive HasSequence (items : List Plain) : Plain → Prop
  | self : HasSequence items (.seq items)
  | item {i : Plain} {is : List Plain} : i ∈ is → HasSequence items i → HasSequence items (.seq is)
  | entry {k : Value} {i : Plain} {es : List (PlainKey × Plain)} : (.value k, i) ∈ es →
    HasSequence items i → HasSequence items (.map es)

/-- The entries under proper keys are all those under proper keys. -/
theorem mem_proper_entries_iff {es : List (PlainKey × Plain)} {k : Value} {i : Plain} :
    (k, i) ∈ es.filterMap properEntry? ↔ (.value k, i) ∈ es := by
  rw [List.mem_filterMap]
  constructor
  · rintro ⟨⟨k', i'⟩, hmem, hproper⟩
    cases k' with
    | exact => cases hproper
    | value k' =>
      obtain ⟨rfl, rfl⟩ := Prod.mk.inj (Option.some.inj hproper)
      exact hmem
  · exact fun hmem => ⟨(.value k, i), hmem, rfl⟩

/-- The list holds the sequences on the way and no others. -/
theorem mem_sequences_iff {items : List Plain} {plain : Plain} :
    items ∈ plain.sequences ↔ plain.HasSequence items := by
  induction plain with
  | seq is ih =>
    rw [sequences, sequencesOfAll_eq_flatMap, List.mem_append, List.mem_flatMap,
      List.mem_singleton]
    constructor
    · rintro (⟨i, hi, hitems⟩ | rfl)
      · exact .item hi ((ih i hi).mp hitems)
      · exact .self
    · intro h
      cases h with
      | self => exact .inr rfl
      | item hi hitems => exact .inl ⟨_, hi, (ih _ hi).mpr hitems⟩
  | map es ih =>
    rw [sequences, sequencesOfEntries_eq_flatMap, List.mem_flatMap]
    constructor
    · rintro ⟨⟨k, i⟩, he, hitems⟩
      have hmem := mem_proper_entries_iff.mp he
      exact .entry hmem ((ih _ hmem).mp hitems)
    · intro h
      cases h with
      | entry hmem hitems =>
        exact ⟨(_, _), mem_proper_entries_iff.mpr hmem, (ih _ hmem).mpr hitems⟩
  | _ => exact ⟨nofun, nofun⟩

/-! ### Crowded sequences -/

/-- The item is built to a pattern with the rest flag. -/
def buildsRest (i : Plain) : Bool :=
  match i.build with
  | .ok p => p.isRest
  | .error _ => false

/-- The number of items that are built to patterns with the rest flag. -/
def restCount (items : List Plain) : Nat :=
  items.countP buildsRest

/-- There are more rests than a rest slot can take. -/
def isCrowded (items : List Plain) : Bool :=
  2 ≤ restCount items

/-- Two rests are too many. -/
theorem isCrowded_iff {items : List Plain} : isCrowded items ↔ 2 ≤ restCount items :=
  decide_eq_true_iff

/-- Fewer than two are not. -/
theorem not_isCrowded_iff {items : List Plain} : !isCrowded items ↔ restCount items < 2 := by
  rw [Bool.not_eq_true', ← Bool.not_eq_true, isCrowded_iff, Nat.not_le]

/-- The error that a crowded sequence is. -/
def report (items : List Plain) : PatternError :=
  .multipleRest (restCount items)

/-- Rests can be counted before or after building. -/
theorem countP_isRest_of_built {items : List Plain} {ps : List Pattern}
    (h : List.Forall₂ (fun i p => i.build = .ok p) items ps) :
    ps.countP Pattern.isRest = restCount items := by
  unfold restCount
  induction h with
  | nil => rfl
  | @cons i p _ _ hp _ ih =>
    -- an item counts as a rest if what it is built to is one
    have hrest : i.buildsRest = p.isRest := by
      unfold buildsRest
      rw [hp]
    rw [List.countP_cons, List.countP_cons, ih, hrest]

/-- **The error of plain data** is the report of the first crowded sequence that building comes
upon. -/
theorem errorOf?_build (plain : Plain) :
    errorOf? plain.build = (plain.sequences.find? isCrowded).map report := by
  induction plain with
  | pattern p => rfl
  | literal lit => rfl
  | value v =>
    obtain ⟨p, hp, -⟩ := v.exists_toPattern
    rw [build, hp]
    rfl
  | seq items ih =>
    -- the items have the error of the first crowded sequence in any of them
    have hitems : errorOf? (items.mapM build)
        = ((items.flatMap sequences).find? isCrowded).map report := by
      rw [errorOf?_mapM, List.find?_flatMap, List.map_findSome?]
      exact findSome?_congr ih
    rw [build, buildAll_eq_mapM, sequences, sequencesOfAll_eq_flatMap, List.find?_append,
      Option.map_or, ← hitems]
    cases hbuilt : items.mapM build with
    -- an item has failed, and its error is that of the sequence
    | error e => rfl
    | ok ps =>
      -- the items are built, and only the sequence itself can be crowded
      have hcount := countP_isRest_of_built (forall₂_of_mapM_eq_ok hbuilt)
      show errorOf? (Pattern.ofItems ps) = ([items].find? isCrowded).map report
      rw [Pattern.errorOf?_ofItems, hcount, List.find?_singleton]
      by_cases hcrowded : 2 ≤ restCount items
      · rw [if_pos hcrowded, if_pos (isCrowded_iff.mpr hcrowded)]
        rfl
      · rw [if_neg hcrowded, if_neg fun h => hcrowded (isCrowded_iff.mp h)]
        rfl
  -- making the map adds no error, so the first entry that fails decides
  | map entries ih =>
    rw [build, buildEntries_eq_mapM, sequences, sequencesOfEntries_eq_flatMap, errorOf?_bind_pure,
      errorOf?_mapM, List.find?_flatMap, List.map_findSome?]
    refine findSome?_congr fun e he => ?_
    obtain ⟨k, i⟩ := e
    rw [errorOf?_makeEntry]
    exact ih (.value k, i) (mem_proper_entries_iff.mp he)

/-- An error is the report of the crowded sequence that is found first. -/
theorem build_eq_error_iff {plain : Plain} {e : PatternError} :
    plain.build = .error e ↔
      ∃ items, plain.sequences.find? isCrowded = some items ∧ e = report items := by
  rw [← errorOf?_eq_some_iff, errorOf?_build, Option.map_eq_some_iff]
  simp only [eq_comm]

/-- The first crowded sequence has none before it. -/
theorem find?_isCrowded_eq_some_iff {sequences : List (List Plain)} {items : List Plain} :
    sequences.find? isCrowded = some items ↔
      ∃ before after, sequences = before ++ items :: after ∧
        (∀ earlier ∈ before, restCount earlier < 2) ∧ 2 ≤ restCount items := by
  rw [List.find?_eq_some_iff_append]
  constructor
  · rintro ⟨hcrowded, before, after, hsplit, hbefore⟩
    have hearlier : ∀ earlier ∈ before, restCount earlier < 2 := fun earlier hmem =>
      not_isCrowded_iff.mp (hbefore earlier hmem)
    exact ⟨before, after, hsplit, hearlier, isCrowded_iff.mp hcrowded⟩
  · rintro ⟨before, after, hsplit, hbefore, hcrowded⟩
    refine ⟨isCrowded_iff.mpr hcrowded, before, after, hsplit, ?_⟩
    exact fun earlier hearlier => not_isCrowded_iff.mpr (hbefore earlier hearlier)

/-- Building fails if it comes upon a crowded sequence, whichever is the first. -/
theorem exists_build_eq_error_iff {plain : Plain} :
    (∃ e, plain.build = .error e) ↔ ∃ items, plain.HasSequence items ∧ 2 ≤ restCount items := by
  constructor
  · rintro ⟨e, he⟩
    obtain ⟨items, hfound, -⟩ := build_eq_error_iff.mp he
    refine ⟨items, mem_sequences_iff.mp (List.mem_of_find?_eq_some hfound), ?_⟩
    exact isCrowded_iff.mp (List.find?_some hfound)
  · rintro ⟨items, hitems, hcrowded⟩
    -- there is a crowded one, so there is a first
    have hfound : (plain.sequences.find? isCrowded).isSome :=
      List.find?_isSome.mpr ⟨items, mem_sequences_iff.mpr hitems, isCrowded_iff.mpr hcrowded⟩
    obtain ⟨first, hfirst⟩ := Option.isSome_iff_exists.mp hfound
    exact ⟨report first, build_eq_error_iff.mpr ⟨first, hfirst, rfl⟩⟩

/-- What a sequence is built to. -/
theorem exists_of_build_seq_eq_ok {items : List Plain} {p : Pattern}
    (h : (Plain.seq items).build = .ok p) :
    ∃ head middle tail, p = .seq head middle tail ∧ Pattern.PartsInOrder head middle tail ∧
      List.Forall₂ (fun i q => i.build = .ok q) items (head ++ middle.toList ++ tail) ∧
      (middle.isSome ↔ restCount items = 1) := by
  rw [build, buildAll_eq_mapM] at h
  obtain ⟨ps, hps, hsplit⟩ := exists_of_bind_eq_ok h
  have hbuilt := forall₂_of_mapM_eq_ok hps
  have hcount := countP_isRest_of_built hbuilt
  have hle : ps.countP Pattern.isRest ≤ 1 := by
    -- otherwise the split would have failed
    by_contra hcrowded
    have herror := Pattern.errorOf?_ofItems ps
    rw [if_pos (by omega), hsplit] at herror
    cases herror
  obtain ⟨head, middle, tail, hok, hparts, hitems, hmiddle⟩ := Pattern.exists_ofItems_eq_ok hle
  obtain rfl : p = .seq head middle tail := Except.ok.inj (hsplit.symm.trans hok)
  refine ⟨head, middle, tail, rfl, hparts, ?_, ?_⟩
  · rw [hitems]
    exact hbuilt
  · rw [← hcount]
    exact hmiddle

/-- The last entry under the reserved key decides whether a map is exact. -/
theorem isExact_of_last {before after : List (PlainKey × Plain)} (i : Plain)
    (h : ∀ e ∈ after, e.1 ≠ .exact) : isExact (before ++ (.exact, i) :: after) = i.asExact := by
  rw [List.append_cons, isExact_append_of_forall_ne h, isExact_append_exact]

/-- What a map is built to. -/
theorem exists_of_build_map_eq_ok {entries : List (PlainKey × Plain)} {p : Pattern}
    (h : (Plain.map entries).build = .ok p) :
    ∃ stored exact required, p = .map stored exact required ∧ exact = isExact entries := by
  obtain ⟨qs, -, heq⟩ := exists_of_bind_eq_ok h
  obtain rfl := Except.ok.inj heq
  exact ⟨.ofList qs, isExact entries, _, rfl, rfl⟩

/-- **Building fails exactly at crowded sequences.** It fails if and only if it comes upon a
sequence with two or more rests among its items, and the error counts the rests of the first such
sequence; no other error arises. A sequence that is built has its built items in order, as its head,
its rest slot and its tail, and it has a rest slot if and only if one item is a rest. A map is exact
or not by what stands last under the reserved key, and it is not exact if nothing stands there. -/
theorem building_fails_exactly_at_crowded_sequences (plain : Plain) :
    ((∃ e, plain.build = .error e) ↔ ∃ items, plain.HasSequence items ∧ 2 ≤ restCount items) ∧
    (∀ e, plain.build = .error e ↔
      ∃ before items after, plain.sequences = before ++ items :: after ∧
        (∀ earlier ∈ before, restCount earlier < 2) ∧ 2 ≤ restCount items ∧
        e = .multipleRest (restCount items)) ∧
    (∀ items p, (Plain.seq items).build = .ok p →
      ∃ head middle tail, p = .seq head middle tail ∧ Pattern.PartsInOrder head middle tail ∧
        List.Forall₂ (fun i q => i.build = .ok q) items (head ++ middle.toList ++ tail) ∧
        (middle.isSome ↔ restCount items = 1)) ∧
    (∀ entries p, (Plain.map entries).build = .ok p →
      ∃ stored exact required, p = .map stored exact required ∧
        (∀ before i after, entries = before ++ (.exact, i) :: after →
          (∀ e ∈ after, e.1 ≠ .exact) → exact = i.asExact) ∧
        ((∀ e ∈ entries, e.1 ≠ .exact) → exact = false)) := by
  refine ⟨exists_build_eq_error_iff, fun e => ?_, fun items p => exists_of_build_seq_eq_ok, ?_⟩
  · -- the one that is found is the one with none before it
    rw [build_eq_error_iff]
    constructor
    · rintro ⟨items, hfound, he⟩
      obtain ⟨before, after, hsplit, hbefore, hcrowded⟩ := find?_isCrowded_eq_some_iff.mp hfound
      exact ⟨before, items, after, hsplit, hbefore, hcrowded, he⟩
    · rintro ⟨before, items, after, hsplit, hbefore, hcrowded, he⟩
      have hfound := find?_isCrowded_eq_some_iff.mpr ⟨before, after, hsplit, hbefore, hcrowded⟩
      exact ⟨items, hfound, he⟩
  · intro entries p hp
    obtain ⟨stored, exact, required, rfl, rfl⟩ := exists_of_build_map_eq_ok hp
    refine ⟨stored, isExact entries, required, rfl, ?_, ?_⟩
    · rintro before i after rfl hafter
      exact isExact_of_last i hafter
    · intro hnone
      exact isExact_append_of_forall_ne hnone []

/-- A sequence inside is put together before the one around it, so its three rests are reported. -/
example : (Plain.seq [.pattern .rest, .seq [.pattern .rest, .pattern .rest, .pattern .rest],
    .pattern .rest]).build = .error (.multipleRest 3) := rfl

end Plain

end StructMatch
