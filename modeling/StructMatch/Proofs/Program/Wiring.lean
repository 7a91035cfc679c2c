import StructMatch.Proofs.Program.Induction
import StructMatch.Proofs.Program.Layout

/-!
# Code and its table

Code refers to slots by position and does not know what they hold. The code that a lowering leaves
is nevertheless made for one table: where it accepts by a literal the slot holds a literal, where it
falls back on a pattern the slot holds a pattern, and the items that it tests are among those that
the sequence names. `Code.Wired` is this condition.

The positions are handed out during the lowering, before the table is complete, and not all code
that is made is kept. That the code is wired in the end rests on two things. The slots of a pattern
stand together in the table, from wherever they begin; and a part has its slots among those of the
pattern, unless it is cut off a disjunction, in which case its code is cut off as well. The
induction (`codeFrom_wired`) is over the pattern with the first slot left open, so that the parts of
a node can begin where the slots of the parts before them end.
-/

namespace StructMatch

namespace Code

/-- The code is made for the table: its slots hold what it takes them for, and the items that it
tests in a sequence are among those that the sequence names. -/
inductive Wired (table : List (Slot Pattern)) : Code → Prop
  | literal {slot : Nat} {lit : Literal} :
    table[slot]? = some (.literal lit) → Wired table (.literal slot)
  | fallback {slot : Nat} {p : Pattern} :
    table[slot]? = some (.fallback p) → Wired table (.fallback slot)
  | bind (key : Key) : Wired table (.bind key)
  | seq {hasRest : Bool} {front back : Nat} {head tail : List (Nat × Code)} {middle : Option Code} :
    (∀ e ∈ head, e.1 < front) → (∀ e ∈ tail, e.1 < back) → (∀ e ∈ head, Wired table e.2) →
    (∀ e ∈ tail, Wired table e.2) → (∀ c ∈ middle, Wired table c) →
    Wired table (.seq hasRest front back head tail middle)
  | all {parts : List Code} : (∀ c ∈ parts, Wired table c) → Wired table (.all parts)
  | any {parts : List Code} : (∀ c ∈ parts, Wired table c) → Wired table (.any parts)
  | tryThenTrue {parts : List Code} :
    (∀ c ∈ parts, Wired table c) → Wired table (.tryThenTrue parts)
  | never : Wired table .never

section Parts

variable {table : List (Slot Pattern)} {cs : List Code} (h : ∀ c ∈ cs, c.Wired table)
include h

/-- A conjunction of wired parts is wired, simplified or not. -/
theorem wired_of_mem_conjunction : ∀ c ∈ conjunction cs, c.Wired table := by
  intro c hc
  rcases cs with _ | ⟨d, _ | ⟨d', ds⟩⟩
  · cases hc
  · obtain rfl := Option.mem_some.mp hc
    exact h d List.mem_cons_self
  · obtain rfl := Option.mem_some.mp hc
    exact .all h

/-- A disjunction of wired parts is wired, whether or not it ends in success. -/
theorem wired_of_mem_disjunction {ends : Bool} : ∀ c ∈ disjunction ends cs, c.Wired table := by
  intro c hc
  cases ends with
  | true =>
    rcases cs with _ | ⟨d, _ | ⟨d', ds⟩⟩
    · cases hc
    -- whatever is kept is run for its effects, a single part as well
    · obtain rfl := Option.mem_some.mp hc
      exact .tryThenTrue h
    · obtain rfl := Option.mem_some.mp hc
      exact .tryThenTrue h
  | false =>
    rcases cs with _ | ⟨d, _ | ⟨d', ds⟩⟩
    · obtain rfl := Option.mem_some.mp hc
      exact .never
    · obtain rfl := Option.mem_some.mp hc
      exact h d List.mem_cons_self
    · obtain rfl := Option.mem_some.mp hc
      exact .any h

end Parts

end Code

namespace Pattern

/-! ### Slots in a table -/

/-- The table holds the given slots from position `first` on. -/
def HeldFrom (slots table : List (Slot Pattern)) (first : Nat) : Prop :=
  slots <+: table.drop first

namespace HeldFrom

variable {slots slots' table : List (Slot Pattern)} {first : Nat}

/-- The first of joined slots stand where the joined slots begin. -/
theorem left (h : HeldFrom (slots ++ slots') table first) : HeldFrom slots table first :=
  (List.prefix_append slots slots').trans h

/-- The others stand behind them. -/
theorem right (h : HeldFrom (slots ++ slots') table first) :
    HeldFrom slots' table (first + slots.length) := by
  obtain ⟨others, hothers⟩ := h
  unfold HeldFrom
  rw [← List.drop_drop, ← hothers, List.append_assoc, List.drop_left]
  exact List.prefix_append slots' others

/-- The one slot of a node stands at its position. -/
theorem singleton {slot : Slot Pattern} (h : HeldFrom [slot] table first) :
    table[first]? = some slot := by
  obtain ⟨others, hothers⟩ := h
  rw [← Nat.add_zero first, ← List.getElem?_drop, ← hothers]
  rfl

end HeldFrom

/-! ### The code of a pattern -/

/-- Over every table that holds the slots of the pattern, from wherever they begin, the code of the
pattern is wired. -/
def CodeWired (table : List (Slot Pattern)) (p : Pattern) : Prop :=
  ∀ first, HeldFrom p.slots table first → ∀ c ∈ p.codeFrom first, c.Wired table

section Lists

variable {table : List (Slot Pattern)} {ps : List Pattern} (h : ∀ p ∈ ps, p.CodeWired table)
include h

/-- The code of the items of a sequence is wired, and the positions that it is listed with are those
of items. -/
theorem wired_of_mem_codeOfItems {first : Nat} (hheld : HeldFrom (slotsAll ps) table first)
    (position : Nat) : ∀ e ∈ codeOfItems ps position first,
      e.1 < position + ps.length ∧ e.2.Wired table := by
  induction ps generalizing first position with
  | nil => exact nofun
  | cons p ps ih =>
    obtain ⟨hp, hps⟩ := List.forall_mem_cons.mp h
    intro e he
    rw [codeOfItems] at he
    rw [List.length_cons]
    rcases List.mem_append.mp he with he | he
    · obtain ⟨c, hc, rfl⟩ := Option.map_eq_some_iff.mp (Option.mem_toList.mp he)
      exact ⟨by omega, hp first hheld.left c hc⟩
    · -- the others are counted from the next position, and their slots begin behind those of `p`
      obtain ⟨hposition, hwired⟩ := ih hps hheld.right (position + 1) e he
      exact ⟨by omega, hwired⟩

/-- The code of the items of a conjunction is wired. -/
theorem wired_of_mem_codeOfAll {first : Nat} (hheld : HeldFrom (slotsAll ps) table first) :
    ∀ c ∈ codeOfAll ps first, c.Wired table := by
  induction ps generalizing first with
  | nil => exact nofun
  | cons p ps ih =>
    obtain ⟨hp, hps⟩ := List.forall_mem_cons.mp h
    intro c hc
    rw [codeOfAll] at hc
    rcases List.mem_append.mp hc with hc | hc
    · exact hp first hheld.left c (Option.mem_toList.mp hc)
    · exact ih hps hheld.right c hc

/-- An item that has code has its slots in the table, and behind one that has none there is neither
code nor a slot. -/
theorem wired_of_mem_codeOfReached (hmet : ∀ p ∈ ps, p.meetsProgram = false) {first : Nat}
    (hheld : HeldFrom (slotsReached ps) table first) :
    ∀ c ∈ codeOfReached ps first, c.Wired table := by
  induction ps generalizing first with
  | nil => exact nofun
  | cons p ps ih =>
    obtain ⟨hp, hps⟩ := List.forall_mem_cons.mp h
    obtain ⟨hmetFirst, hmetOthers⟩ := List.forall_mem_cons.mp hmet
    intro c hc
    rw [codeOfReached] at hc
    cases hcode : p.codeFrom first with
    -- the disjunction is cut off here, so there is no code to speak of
    | none =>
      rw [hcode] at hc
      cases hc
    | some d =>
      -- an item with code is not where the disjunction is cut off, so its slots are in the table
      have hnot : ¬ p.alwaysMatches := by
        rw [← codeFrom_eq_none_iff hmetFirst first, hcode]
        exact Option.some_ne_none d
      rw [slotsReached, if_neg hnot] at hheld
      rw [hcode] at hc
      rcases List.mem_cons.mp hc with rfl | hc
      · exact hp first hheld.left c hcode
      · exact ih hps hmetOthers hheld.right c hc

end Lists

/-- **The code of a pattern is wired** over every table that holds the slots of the pattern. -/
theorem codeFrom_wired {p : Pattern} (hmet : p.meetsProgram = false) (table : List (Slot Pattern)) :
    p.CodeWired table := by
  induction p with
  | any | rest => exact fun _ _ => nofun
  | named key =>
    intro first _ c hc
    obtain rfl := Option.mem_some.mp hc
    exact .bind key
  | literal lit =>
    intro first hheld c hc
    obtain rfl := Option.mem_some.mp hc
    exact .literal hheld.singleton
  | map | opt =>
    intro first hheld c hc
    obtain rfl := Option.mem_some.mp hc
    exact .fallback hheld.singleton
  | compiled => exact absurd hmet.symm Bool.false_ne_true
  | and items ih =>
    intro first hheld
    have hitems := anyMeetsProgram_eq_false_iff.mp hmet
    have hparts := wired_of_mem_codeOfAll (fun p hp => ih p hp (hitems p hp)) hheld
    exact Code.wired_of_mem_conjunction hparts
  | or items ih =>
    intro first hheld
    have hitems := anyMeetsProgram_eq_false_iff.mp hmet
    have hparts := wired_of_mem_codeOfReached (fun p hp => ih p hp (hitems p hp)) hitems hheld
    exact Code.wired_of_mem_disjunction hparts
  | seq head middle tail ihHead ihMiddle ihTail =>
    intro first hheld c hc
    rw [meetsProgram_seq, Bool.or_eq_false_iff, Bool.or_eq_false_iff] at hmet
    obtain ⟨hhead, htail, hmiddle⟩ := hmet
    rw [anyMeetsProgram_eq_false_iff] at hhead htail hmiddle
    -- the slots of the head come first, then those of the tail, then those of the rest slot
    rw [slots_seq] at hheld
    rw [codeFrom_seq] at hc
    obtain rfl := Option.mem_some.mp hc
    have hheads : ∀ e ∈ codeOfItems head 0 first, e.1 < 0 + head.length ∧ e.2.Wired table :=
      wired_of_mem_codeOfItems (fun p hp => ihHead p hp (hhead p hp)) hheld.left.left 0
    have htails : ∀ e ∈ codeOfItems tail 0 (first + (slotsAll head).length),
        e.1 < 0 + tail.length ∧ e.2.Wired table :=
      wired_of_mem_codeOfItems (fun p hp => ihTail p hp (htail p hp)) hheld.left.right 0
    rw [Nat.zero_add] at hheads htails
    refine .seq (fun e he => (hheads e he).1) (fun e he => (htails e he).1)
      (fun e he => (hheads e he).2) (fun e he => (htails e he).2) fun c hc => ?_
    -- code in the rest slot comes from the pattern there, whose slots are the last
    obtain ⟨r, rfl, hcode⟩ := Option.bind_eq_some_iff.mp hc
    have hright := hheld.right
    rw [Option.toList_some, slotsAll, List.length_append, ← Nat.add_assoc] at hright
    exact ihMiddle r rfl (hmiddle r (List.mem_singleton_self r)) _ hright.left c hcode

/-- The code of a program that was made by specializing is wired to the table it comes with. -/
theorem wired_of_specialize {p origin : Pattern} {slots : List (Slot Pattern)}
    {code : Option Code} {source : String}
    (h : p.specialize = .ok (.compiled origin slots code source)) :
    ∀ c ∈ code, c.Wired slots := by
  obtain ⟨hmet, heq⟩ := specialize_eq_ok_iff.mp h
  obtain ⟨rfl, rfl, rfl, -⟩ := Pattern.compiled.inj heq
  exact codeFrom_wired hmet p.slots 0 (List.prefix_refl _)

end Pattern

end StructMatch
