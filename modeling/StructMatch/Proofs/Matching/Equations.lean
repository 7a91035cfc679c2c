import StructMatch.Matching.Execution
import StructMatch.Proofs.Matching.Outcome

/-!
# Equations of execution

The cases of `Pattern.execute` in the connectives `both` and `either`. Conjunctions, disjunctions,
pairwise tests and the entries of a map are connected lists by definition. A sequence takes some
work: the arithmetic on positions is done here once, and `execute_seq` says what is left of it, the
head against the front of the items, the tail against their end and the rest slot against what
stands between (`middleItems`). Neither a subtraction nor a slice of it can run into a fault,
because the length test comes first.
-/

namespace StructMatch

/-! ### Parts of a sequence -/

/-- The items in front of the last `back` ones and behind the first `front` ones. -/
def middleItems (front back : Nat) (items : List Value) : List Value :=
  (items.take (items.length - back)).drop front

/-- The last `back` items. -/
def lastItems (back : Nat) (items : List Value) : List Value :=
  items.drop (items.length - back)

/-- A length that fits leaves room for every named item, whether or not there is a rest slot. -/
theorem le_of_sizeFits {hasRest : Bool} {named length : Nat} (h : sizeFits hasRest named length) :
    named ≤ length := by
  unfold sizeFits at h
  split at h
  · exact of_decide_eq_true h
  · exact Nat.le_of_eq (beq_iff_eq.mp h)

namespace MatchM

/-- Taking away what is there is no fault. -/
theorem remaining_of_le {whole part : Nat} (h : part ≤ whole) :
    remaining whole part = pure (whole - part) :=
  if_pos h

/-- A slice between ordered bounds inside the sequence is no fault. -/
theorem slice_of_le {items : List Value} {start stop : Nat} (h : start ≤ stop)
    (h' : stop ≤ items.length) : slice items start stop = pure ((items.take stop).drop start) :=
  if_pos ⟨h, h'⟩

/-- Reading an item inside the sequence is no fault. -/
theorem item_of_lt {items : List Value} {position : Nat} (h : position < items.length) :
    item items position = pure items[position] := by
  unfold item
  rw [List.getElem?_eq_getElem h]

end MatchM

namespace Pattern

/-! ### Connected lists -/

@[simp] theorem executeAll_nil (v : Value) : executeAll [] v = pure true := rfl

@[simp] theorem executeAll_cons (p : Pattern) (ps : List Pattern) (v : Value) :
    executeAll (p :: ps) v = .both (p.execute v) (executeAll ps v) := rfl

@[simp] theorem executeAny_nil (v : Value) : executeAny [] v = pure false := rfl

@[simp] theorem executeAny_cons (p : Pattern) (ps : List Pattern) (v : Value) :
    executeAny (p :: ps) v = .either (p.execute v) (executeAny ps v) := rfl

@[simp] theorem executeEach_nil (vs : List Value) : executeEach [] vs = pure true := rfl

/-- Without items nothing is tested; that there are enough of them is known before. -/
@[simp] theorem executeEach_nil_right (ps : List Pattern) : executeEach ps [] = pure true := by
  cases ps <;> rfl

@[simp] theorem executeEach_cons (p : Pattern) (ps : List Pattern) (v : Value) (vs : List Value) :
    executeEach (p :: ps) (v :: vs) = .both (p.execute v) (executeEach ps vs) := rfl

/-- Test what a map holds under the key of an entry; an absent value passes if the entry may be
absent. -/
def executeEntry (p : Pattern) : Option Value → MatchM Bool
  | some v => p.execute v
  | none => pure p.isOpt

@[simp] theorem executeEntries_nil (m : ValueMap) : executeEntries [] m = pure true := rfl

/-- An entry is tested before the entries behind it. -/
@[simp] theorem executeEntries_cons (k : Value) (p : Pattern) (es : List (Value × Pattern))
    (m : ValueMap) :
    executeEntries ((k, p) :: es) m = .both (executeEntry p (m.get? k)) (executeEntries es m) := by
  rw [executeEntries]
  unfold executeEntry
  cases m.get? k <;> rfl

/-- Test the run of items between head and tail, if there is a rest slot for it. -/
def executeMiddle : Option Pattern → Value → MatchM Bool
  | none, _ => pure true
  | some r, v => r.execute v

/-! ### Nodes -/

@[simp] theorem execute_and (items : List Pattern) (v : Value) :
    (Pattern.and items).execute v = executeAll items v := rfl

@[simp] theorem execute_or (items : List Pattern) (v : Value) :
    (Pattern.or items).execute v = executeAny items v := rfl

@[simp] theorem execute_opt (inner : Pattern) (v : Value) :
    (Pattern.opt inner).execute v = inner.execute v := rfl

/-- **A sequence.** If the length fits, the head is tested against the first items, then the tail
against the last ones, then the rest slot against the items between. The bare markers in the rest
slot are no exception: they succeed on whatever they are given. -/
theorem execute_seq {head tail : List Pattern} {middle : Option Pattern} {items : List Value}
    (hfit : sizeFits middle.isSome (leastLength head tail) items.length) :
    (Pattern.seq head middle tail).execute (.seq items)
      = .both (executeEach head items) (.both (executeEach tail (lastItems tail.length items))
          (executeMiddle middle (.seq (middleItems head.length tail.length items)))) := by
  -- the length test is all that the positions need
  have hle : head.length + tail.length ≤ items.length := le_of_sizeFits hfit
  -- the tail is read from the end of the items, the rest slot between head and tail
  have hlast : MatchM.slice items (items.length - tail.length) items.length
      = pure (lastItems tail.length items) := by
    rw [MatchM.slice_of_le (Nat.sub_le _ _) (Nat.le_refl _), List.take_length]
    rfl
  have hmiddle : MatchM.slice items head.length (items.length - tail.length)
      = pure (middleItems head.length tail.length items) :=
    MatchM.slice_of_le (by omega) (Nat.sub_le _ _)
  rw [execute, if_pos hfit, MatchM.remaining_of_le (by omega)]
  simp only [pure_bind, hlast, hmiddle]
  -- a rest slot with a bare marker is not executed, and executing it would return true
  cases middle with
  | none => rfl
  | some r => cases r <;> rfl

/-- A sequence of the wrong length fails at once, without an effect. -/
theorem execute_seq_of_not_fits {head tail : List Pattern} {middle : Option Pattern}
    {items : List Value} (hfit : ¬ sizeFits middle.isSome (leastLength head tail) items.length) :
    (Pattern.seq head middle tail).execute (.seq items) = pure false := by
  rw [execute, if_neg hfit]

/-- A map is tested entry by entry once its keys are accepted, and else fails without an effect. -/
theorem execute_map (entries : Assoc Value Pattern) (exact : Bool) (required : Nat)
    (m : ValueMap) :
    (Pattern.map entries exact required).execute (.map m)
      = if mapFits entries exact required m then executeEntries entries.entries m
        else pure false := rfl

end Pattern

/-! ### Slots of a program -/

/-- Test a subject against a slot. -/
def Slot.execute : Slot Pattern → Value → MatchM Bool
  | .literal lit, v => lit.test v
  | .fallback p, v => p.execute v

/-- A slot that is there is tested as it stands. -/
theorem Pattern.executeSlot_of_getElem? {slots : List (Slot Pattern)} {left : Nat}
    {slot : Slot Pattern} (h : slots[left]? = some slot) (size position : Nat) (v : Value) :
    executeSlot slots size position left v = slot.execute v := by
  induction slots generalizing left with
  | nil => exact absurd h (by simp)
  | cons s ss ih =>
    -- the walk takes one slot and one from the position at each step, so both end together
    cases left with
    | zero =>
      obtain rfl : s = slot := by simpa using h
      cases s <;> rfl
    | succ left =>
      have htail : ss[left]? = some slot := by simpa using h
      rw [← ih htail]
      cases s <;> rfl

end StructMatch
