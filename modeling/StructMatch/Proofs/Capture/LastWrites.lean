import Mathlib.Data.List.Dedup
import StructMatch.Proofs.Capture.View
import StructMatch.Proofs.Matching.Runs

/-!
# Captures and the writes that made them

Captures come about in two ways: keys are bound one by one, and patterns are executed over what is
bound already. `MadeBy` follows both, from a fresh start, and keeps the list of all writes. Either
way the captures are the ones that these writes make when they are done one after another
(`MadeBy.eq_setAll`). For an execution this holds since the state it ends in has exactly the writes
among its effects made on top of the captures it was started with.

Everything that captures show is then a matter of the last write of each key, and `Records` says
what: how a key reads, which keys are bound and how many, what is listed and in which order. Two
sets of captures are compared by the last writes alone too, so the order of the writes does not
matter as long as they end with the same values. Values that hold a word that is not a number do not
equal themselves, and captures that hold such a value do not equal themselves either.
-/

namespace StructMatch

/-- The captures bound so far, in the order in which they were bound. -/
def MatchState.writes (s : MatchState) : List (Key × Value) :=
  s.effects.filterMap Effect.write?

namespace Captures

/-! ### How captures come about -/

/-- Captures, and the writes that made them from a fresh start. -/
inductive MadeBy : Captures → List (Key × Value) → Prop
  | fresh : MadeBy empty []
  | set {c : Captures} {writes : List (Key × Value)} (key : Key) (value : Value) :
    MadeBy c writes → MadeBy (c.set key value) (writes ++ [(key, value)])
  | execute {c : Captures} {writes : List (Key × Value)} {p : Pattern} {v : Value} {ok : Bool}
    {s : MatchState} : MadeBy c writes → p.Constructible → p.run v c = .ok (ok, s) →
    MadeBy s.captures (writes ++ s.writes)

/-- A list of keys bound one after another. -/
theorem madeBy_ofList (pairs : List (Key × Value)) : (ofList pairs).MadeBy pairs := by
  -- the keys are bound on top of any captures, so that the induction goes through
  suffices hfold : ∀ (c : Captures) (writes : List (Key × Value)), c.MadeBy writes →
      (c.setAll pairs).MadeBy (writes ++ pairs) from hfold empty [] .fresh
  induction pairs with
  | nil =>
    intro c writes h
    rw [List.append_nil]
    exact h
  | cons first others ih =>
    intro c writes h
    rw [List.append_cons]
    exact ih _ _ (h.set first.1 first.2)

section MadeBy

variable {c : Captures} {writes : List (Key × Value)}

/-- Every execution goes through, and the captures that it leaves are those it found with the writes
of the outcome made on top. -/
theorem MadeBy.run (h : c.MadeBy writes) {p : Pattern} (hp : p.Constructible) (v : Value) :
    (c.setAll (p.outcome v).writes).MadeBy (writes ++ (p.outcome v).writes) :=
  h.execute hp (hp.run_eq_outcome v c)

/-- **Captures are what their writes make**, one after another. -/
theorem MadeBy.eq_setAll (h : c.MadeBy writes) : c = empty.setAll writes := by
  induction h with
  | fresh => rfl
  -- one more key is one more write
  | set key value _ ih =>
    rw [setAll_append, ← ih]
    rfl
  | @execute c writes p v ok s _ hp hrun ih =>
    -- the state that the run ends in is the outcome over the captures it was started with
    rw [hp.run_eq_outcome v c] at hrun
    obtain ⟨-, rfl⟩ := Prod.mk.inj (Except.ok.inj hrun)
    rw [setAll_append, ← ih]
    rfl

/-! ### What captures show -/

/-- What captures show of the writes that made them. -/
structure Records (c : Captures) (writes : List (Key × Value)) : Prop where
  /-- A key reads as the value of its last write. -/
  get?_eq : ∀ key, c.get? key = lastWrite? key writes
  /-- A key that was not written reads as `nil` where a value is asked for. -/
  getD_eq : ∀ key, c.getD key = (lastWrite? key writes).getD .nil
  /-- The bound keys are those that were written. -/
  contains_iff : ∀ key, c.contains key ↔ key ∈ writes.map Prod.fst
  /-- Keys that were written more than once count once. -/
  size_eq : c.size = (writes.map Prod.fst).dedup.length
  isEmpty_iff : c.isEmpty ↔ c.size = 0
  /-- Every key is listed with the value of its last write. -/
  mem_toList_iff : ∀ key value, (key, value) ∈ c.toList ↔ lastWrite? key writes = some value
  /-- No key is listed twice. -/
  nodup : (c.toList.map Prod.fst).Nodup
  /-- Positions are listed by signed value, and names behind them by their bytes. -/
  ascending : c.toList.Pairwise fun b b' => b.1.Precedes b'.1

/-- A key reads as the value of its last write. -/
theorem MadeBy.get?_eq (h : c.MadeBy writes) (key : Key) : c.get? key = lastWrite? key writes := by
  rw [h.eq_setAll, get?_setAll, get?_empty, Option.or_none]

/-- The bound keys are those that were written. -/
theorem MadeBy.contains_iff (h : c.MadeBy writes) (key : Key) :
    c.contains key ↔ key ∈ writes.map Prod.fst := by
  rw [contains_eq_isSome_get?, h.get?_eq, lastWrite?_isSome_iff]

/-- **Captures record the last writes.** -/
theorem MadeBy.records (h : c.MadeBy writes) : c.Records writes where
  get?_eq := h.get?_eq
  getD_eq key := congrArg (Option.getD · Value.nil) (h.get?_eq key)
  contains_iff := h.contains_iff
  size_eq := size_eq_length (List.nodup_dedup _) fun key =>
    List.mem_dedup.trans (h.contains_iff key).symm
  isEmpty_iff := c.isEmpty_iff
  mem_toList_iff key value := by rw [mem_toList_iff, h.get?_eq]
  nodup := c.nodup_keys
  ascending := c.pairwise_toList

/-- Captures are equal if their writes bind the same keys and end with equal values. -/
theorem MadeBy.equal_iff (h : c.MadeBy writes) {d : Captures} {writes' : List (Key × Value)}
    (h' : d.MadeBy writes') : c == d ↔
      (∀ key, key ∈ writes.map Prod.fst ↔ key ∈ writes'.map Prod.fst) ∧
      ∀ key a b, lastWrite? key writes = some a → lastWrite? key writes' = some b → a == b := by
  rw [Captures.equal_iff]
  -- keys and values are compared, and both are settled by the writes
  refine and_congr (forall_congr' fun key => ?_) ?_
  · rw [Bool.eq_iff_iff, h.contains_iff, h'.contains_iff]
  · simp only [h.get?_eq, h'.get?_eq]

/-- Captures equal themselves unless a last write is not a value that does. -/
theorem MadeBy.equal_self_iff (h : c.MadeBy writes) :
    c == c ↔ ∀ key v, lastWrite? key writes = some v → v.NaNFree := by
  rw [Captures.equal_self_iff]
  simp only [h.get?_eq]

/-- **Captures show the last writes, and nothing else.** Captures that were made by writes, keys
bound one by one and patterns executed in any order, record these writes. Executing a further
pattern goes through and adds its writes to them. Two sets of captures are equal just if they bind
the same keys to equal values, in whatever order they were written, and so one does not equal itself
if it holds a word that is not a number. -/
theorem captures_show_their_last_writes (h : c.MadeBy writes) :
    c.Records writes ∧
    (∀ p : Pattern, p.Constructible → ∀ v, ∃ ok s, p.run v c = .ok (ok, s) ∧
      s.captures.MadeBy (writes ++ s.writes)) ∧
    (∀ d writes', d.MadeBy writes' → (c == d ↔
      (∀ key, key ∈ writes.map Prod.fst ↔ key ∈ writes'.map Prod.fst) ∧
      ∀ key a b, lastWrite? key writes = some a → lastWrite? key writes' = some b → a == b)) ∧
    (c == c ↔ ∀ key v, lastWrite? key writes = some v → v.NaNFree) := by
  refine ⟨h.records, fun p hp v => ?_, fun d writes' h' => h.equal_iff h', h.equal_self_iff⟩
  -- the run of the pattern is what its outcome says, over these captures too
  exact ⟨_, _, hp.run_eq_outcome v c, h.run hp v⟩

end MadeBy

/-- Three keys bound one by one, and then a pattern executed that writes the last of them twice. -/
def retriedWrites : List (Key × Value) :=
  [(.name "é", .float .canonicalNaN), (.index (-3), .nil), (.index 1, .str "first"),
    (.index 1, .int 2), (.index 1, .seq [.int 2, .int 5, .int 7])]

theorem madeBy_retriedWrites : (empty.setAll retriedWrites).MadeBy retriedWrites := by
  have hwrites : ((Pattern.twoTries ⟨"any", fun _ => true⟩).outcome
      (.seq [.int 2, .int 5, .int 7])).writes = retriedWrites.drop 3 := rfl
  -- the first three keys are bound one by one, and the pattern is executed on top
  have hmade := (madeBy_ofList (retriedWrites.take 3)).run
    (Pattern.constructible_twoTries ⟨"any", fun _ => true⟩) (.seq [.int 2, .int 5, .int 7])
  rw [hwrites, List.take_append_drop] at hmade
  exact hmade

/-- The theorem at captures that were bound one by one and by an execution, with keys of both kinds,
a key that was written three times, and a word that is not a number. -/
theorem captures_show_their_last_writes_of_retriedWrites :
    (empty.setAll retriedWrites).MadeBy retriedWrites ∧
    (empty.setAll retriedWrites).Records retriedWrites ∧
    (∀ p : Pattern, p.Constructible → ∀ v, ∃ ok s,
      p.run v (empty.setAll retriedWrites) = .ok (ok, s) ∧
      s.captures.MadeBy (retriedWrites ++ s.writes)) ∧
    (∀ d writes', d.MadeBy writes' → (empty.setAll retriedWrites == d ↔
      (∀ key, key ∈ retriedWrites.map Prod.fst ↔ key ∈ writes'.map Prod.fst) ∧
      ∀ key a b, lastWrite? key retriedWrites = some a → lastWrite? key writes' = some b →
        a == b)) ∧
    (empty.setAll retriedWrites == empty.setAll retriedWrites ↔
      ∀ key v, lastWrite? key retriedWrites = some v → v.NaNFree) :=
  ⟨madeBy_retriedWrites, captures_show_their_last_writes madeBy_retriedWrites⟩

end Captures

end StructMatch
