import StructMatch.Proofs.Matching.Frame
import StructMatch.Proofs.Matching.Meaning

/-!
# Keys that a match is sure to bind

Nothing that a failed branch has bound is ever undone, so after a match a key may hold something
that was left behind on the way. There are keys of which this cannot happen, and they can be read
off the pattern (`Pattern.DefinitelyBinds`): a sequence and a conjunction have those of all their
parts, a disjunction those that all of its alternatives have, and a map those of the entries that a
subject must have. Whenever the pattern matches, it has written all of them itself.

The argument is about outcomes. If an outcome *settles* a key, then as a success it has written the
key (`Outcome.Settles`). A success of two outcomes in a row is a success of both, so either of them
may settle the key; of two alternatives only one need have succeeded, so both must. The induction
over `DefinitelyBinds` puts these together, one case for each rule. Apart from this it needs to know
that no part of a sequence and no required entry of a map is passed over: if the length of the
subject fits, every pattern in head and tail has an item to be tested on, and an entry without a
value only passes if it is optional.

What is read under a settled key is then the last write of the outcome, whatever was bound before
(`DefinitelyBinds.exists_get?_setAll`).
-/

namespace StructMatch

namespace Outcome

/-! ### Outcomes that settle a key -/

/-- If the outcome is a success, the key is among those written. -/
def Settles (o : Outcome) (key : Key) : Prop :=
  o.ok → key ∈ o.writes.map Prod.fst

variable {key : Key}

/-- A failure settles every key, as there is nothing to show. -/
theorem settles_failure : failure.Settles key :=
  nofun

/-- A success of two outcomes in a row has made the writes of both. -/
theorem writes_andThen {a b : Outcome} (h : a.ok) :
    (a.andThen b).writes = a.writes ++ b.writes := by
  unfold writes andThen
  rw [if_pos h, List.filterMap_append]

/-- A second alternative that is tried has its writes made behind those of the first. -/
theorem writes_orElse_of_not_ok {a b : Outcome} (h : a.ok = false) :
    (a.orElse b).writes = a.writes ++ b.writes := by
  unfold writes orElse
  rw [if_neg (Bool.eq_false_iff.mp h), List.filterMap_append]

/-- A key settled by the first of two outcomes in a row is settled by both: what comes behind takes
no write away. -/
theorem Settles.andThen_left {a : Outcome} (h : a.Settles key) (b : Outcome) :
    (a.andThen b).Settles key := by
  intro hok
  rw [andThen_ok, Bool.and_eq_true] at hok
  rw [writes_andThen hok.1, List.map_append]
  exact List.mem_append_left _ (h hok.1)

/-- A key settled by the second of two outcomes in a row is settled by both: a success of both has
reached it. -/
theorem Settles.andThen_right {b : Outcome} (h : b.Settles key) (a : Outcome) :
    (a.andThen b).Settles key := by
  intro hok
  rw [andThen_ok, Bool.and_eq_true] at hok
  rw [writes_andThen hok.1, List.map_append]
  exact List.mem_append_right _ (h hok.2)

/-- Of two alternatives either may have succeeded, so both must settle the key. -/
theorem Settles.orElse {a b : Outcome} (ha : a.Settles key) (hb : b.Settles key) :
    (a.orElse b).Settles key := by
  intro hok
  cases hfirst : a.ok with
  | true =>
    have hsame : a.orElse b = a := if_pos hfirst
    rw [hsame]
    exact ha hfirst
  | false =>
    -- what the failed first alternative has written stays, in front of the writes of the second
    rw [orElse_ok, hfirst, Bool.false_or] at hok
    rw [writes_orElse_of_not_ok hfirst, List.map_append]
    exact List.mem_append_right _ (hb hok)

end Outcome

namespace Pattern

/-! ### Definite keys -/

/-- The pattern binds the key whenever it matches. -/
inductive DefinitelyBinds (key : Key) : Pattern → Prop
  | named : DefinitelyBinds key (.named key)
  | head {p : Pattern} {head middle tail} : p ∈ head → DefinitelyBinds key p →
    DefinitelyBinds key (.seq head middle tail)
  | middle {r : Pattern} {head tail} : DefinitelyBinds key r →
    DefinitelyBinds key (.seq head (some r) tail)
  | tail {p : Pattern} {head middle tail} : p ∈ tail → DefinitelyBinds key p →
    DefinitelyBinds key (.seq head middle tail)
  /-- Only an entry that the subject must have is sure to be looked into. -/
  | entry {e : Value × Pattern} {entries : Assoc Value Pattern} {exact required} :
    e ∈ entries.entries → e.2.isOpt = false → DefinitelyBinds key e.2 →
    DefinitelyBinds key (.map entries exact required)
  | opt {inner : Pattern} : DefinitelyBinds key inner → DefinitelyBinds key (.opt inner)
  | and {p : Pattern} {items} : p ∈ items → DefinitelyBinds key p → DefinitelyBinds key (.and items)
  /-- It is open which alternative matches. -/
  | or {items : List Pattern} : (∀ p ∈ items, DefinitelyBinds key p) →
    DefinitelyBinds key (.or items)
  | origin {origin : Pattern} {slots code source} : DefinitelyBinds key origin →
    DefinitelyBinds key (.compiled origin slots code source)

/-- Every outcome of the pattern settles the key. -/
def Settles (p : Pattern) (key : Key) : Prop :=
  ∀ v, (p.outcome v).Settles key

variable {key : Key}

section Lists

variable {p : Pattern} {ps : List Pattern} (h : p.Settles key) (hp : p ∈ ps)
include h hp

/-- A conjunction that succeeds has run all its items. -/
theorem settles_outcomeAll (v : Value) : (outcomeAll ps v).Settles key := by
  induction ps with
  | nil => cases hp
  | cons q ps ih =>
    rcases List.mem_cons.mp hp with rfl | hp
    · exact (h v).andThen_left _
    · exact (ih hp).andThen_right _

/-- Every pattern has an item of its own to be tested on. -/
theorem settles_outcomeEach {vs : List Value} (hle : ps.length ≤ vs.length) :
    (outcomeEach ps vs).Settles key := by
  induction ps generalizing vs with
  | nil => cases hp
  | cons q ps ih =>
    cases vs with
    | nil => exact absurd hle (Nat.not_succ_le_zero _)
    | cons v vs =>
      rcases List.mem_cons.mp hp with rfl | hp
      · exact (h v).andThen_left _
      · exact (ih hp (Nat.le_of_succ_le_succ hle)).andThen_right _

end Lists

/-- A disjunction settles what all of its items settle; without items it never succeeds. -/
theorem settles_outcomeAny {ps : List Pattern} (h : ∀ p ∈ ps, p.Settles key) (v : Value) :
    (outcomeAny ps v).Settles key := by
  induction ps with
  | nil => exact Outcome.settles_failure
  | cons p ps ih =>
    obtain ⟨hp, hps⟩ := List.forall_mem_cons.mp h
    exact (hp v).orElse (ih hps)

/-- A required entry passes only if it was tested on a value. -/
theorem settles_outcomeEntries {e : Value × Pattern} {es : List (Value × Pattern)}
    (h : e.2.Settles key) (he : e ∈ es) (hrequired : e.2.isOpt = false) (m : ValueMap) :
    (outcomeEntries es m).Settles key := by
  induction es with
  | nil => cases he
  | cons f es ih =>
    obtain ⟨k, p⟩ := f
    rw [outcomeEntries_cons]
    rcases List.mem_cons.mp he with rfl | he
    · refine Outcome.Settles.andThen_left ?_ _
      cases m.get? k with
      | some w => exact h w
      | none =>
        -- without a value the entry passes by its flag alone, which a required entry has not
        intro hok
        rw [outcomeEntry, hrequired] at hok
        cases hok
    · exact (ih he).andThen_right _

/-- What a sequence comes to where it does not fail at once. -/
theorem settles_seq {head tail : List Pattern} {middle : Option Pattern}
    (h : ∀ items : List Value, leastLength head tail ≤ items.length →
      ((outcomeEach head items).andThen ((outcomeEach tail (lastItems tail.length items)).andThen
        (outcomeMiddle middle (.seq (middleItems head.length tail.length items))))).Settles key) :
    (Pattern.seq head middle tail).Settles key := by
  intro v
  cases v with
  | seq items =>
    by_cases hfit : sizeFits middle.isSome (leastLength head tail) items.length
    · rw [outcome_seq hfit]
      exact h items (le_of_sizeFits hfit)
    · rw [outcome_seq_of_not_fits hfit]
      exact Outcome.settles_failure
  | _ => exact Outcome.settles_failure

/-- **A pattern settles its definite keys.** -/
theorem DefinitelyBinds.settles {p : Pattern} (h : p.DefinitelyBinds key) : p.Settles key := by
  induction h with
  -- the outcome has the one write
  | named => exact fun v _ => List.mem_singleton_self key
  | head hmem _ ih =>
    refine settles_seq fun items hle => ?_
    have hlength : _ ≤ items.length := Nat.le_trans (Nat.le_add_right _ _) hle
    exact (settles_outcomeEach ih hmem hlength).andThen_left _
  | @tail p head middle tail hmem _ ih =>
    refine settles_seq fun items hle => ?_
    -- the tail is tested on as many items as it has patterns
    have hlength : tail.length ≤ (lastItems tail.length items).length := by
      rw [leastLength] at hle
      rw [lastItems, List.length_drop]
      omega
    exact ((settles_outcomeEach ih hmem hlength).andThen_left _).andThen_right _
  -- the rest slot comes last, and is executed on some run whatever its length
  | middle _ ih =>
    exact settles_seq fun items _ => ((ih _).andThen_right _).andThen_right _
  | entry hmem hrequired _ ih =>
    intro v
    cases v with
    | map m =>
      rw [outcome_map]
      split
      · exact settles_outcomeEntries ih hmem hrequired m
      · exact Outcome.settles_failure
    | _ => exact Outcome.settles_failure
  | opt _ ih => exact ih
  | and hmem _ ih => exact settles_outcomeAll ih hmem
  | or _ ih => exact settles_outcomeAny ih
  -- a program has the outcome of its pattern
  | origin _ ih => exact ih

/-- What a match finds under a definite key, whatever was bound before. -/
theorem DefinitelyBinds.exists_get?_setAll {p : Pattern} (h : p.DefinitelyBinds key) {v : Value}
    (hok : (p.outcome v).ok) :
    ∃ w, ∀ captures : Captures, (captures.setAll (p.outcome v).writes).get? key = some w := by
  have hwritten := (Captures.lastWrite?_isSome_iff key _).mpr (h.settles v hok)
  obtain ⟨w, hw⟩ := Option.isSome_iff_exists.mp hwritten
  refine ⟨w, fun captures => ?_⟩
  rw [Captures.get?_setAll, hw, Option.some_or]

end Pattern

end StructMatch
