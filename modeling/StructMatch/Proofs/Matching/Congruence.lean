import StructMatch.Proofs.Assoc.Distinct
import StructMatch.Proofs.Program.Running
import StructMatch.Proofs.Value.Equality

/-!
# Patterns that can stand in for one another

What stands around a pattern uses two things of it: its flags, and how it is executed. The rest slot
of a sequence asks for the one flag, the entries of a map ask for the other, conjunctions and
disjunctions hand both on, and everything else only executes its parts. Two patterns that agree in
these two respects are `Interchangeable`, and interchangeable parts make interchangeable patterns,
one lemma for each kind of node.

The executions are compared as computations, so that nothing has to be assumed about the state in
which they are started or about whether they come to an end.

A pattern without a flag is interchangeable with its program (`Interchangeable.specialize`). With a
flag it is not, since a program carries none.
-/

namespace StructMatch

namespace Pattern

/-- The patterns carry the same flags and are executed alike. -/
structure Interchangeable (p q : Pattern) : Prop where
  flags_eq : p.flags = q.flags
  execute_eq : p.execute = q.execute

/-- Entries under the same key whose patterns are interchangeable. -/
def InterchangeableEntries (e f : Value × Pattern) : Prop :=
  e.1 = f.1 ∧ e.2.Interchangeable f.2

theorem Interchangeable.refl (p : Pattern) : p.Interchangeable p :=
  ⟨rfl, rfl⟩

theorem Interchangeable.symm {p q : Pattern} (h : p.Interchangeable q) : q.Interchangeable p :=
  ⟨h.flags_eq.symm, h.execute_eq.symm⟩

theorem Interchangeable.trans {p q r : Pattern} (h : p.Interchangeable q)
    (h' : q.Interchangeable r) : p.Interchangeable r :=
  ⟨h.flags_eq.trans h'.flags_eq, h.execute_eq.trans h'.execute_eq⟩

/-- Both may stand in a rest slot, or neither. -/
theorem Interchangeable.isRest_eq {p q : Pattern} (h : p.Interchangeable q) :
    p.isRest = q.isRest :=
  congrArg Flags.rest h.flags_eq

/-- Both let their entry be absent, or neither does. -/
theorem Interchangeable.isOpt_eq {p q : Pattern} (h : p.Interchangeable q) : p.isOpt = q.isOpt :=
  congrArg Flags.opt h.flags_eq

/-- The program of a pattern without a flag can stand in for it. -/
theorem Interchangeable.specialize {p c : Pattern} (hflags : p.flags = .none)
    (hc : p.specialize = .ok c) : c.Interchangeable p where
  flags_eq := by
    obtain ⟨-, rfl⟩ := specialize_eq_ok_iff.mp hc
    exact hflags.symm
  execute_eq := funext (execute_specialize hc)

/-! ### Lists of parts -/

/-- The flags of several patterns are those of others with the same flags, pairwise. -/
theorem flagsUnion_congr {R : Pattern → Pattern → Prop}
    (hflags : ∀ {p q}, R p q → p.flags = q.flags) {ps qs : List Pattern}
    (h : List.Forall₂ R ps qs) : flagsUnion ps = flagsUnion qs := by
  induction h with
  | nil => rfl
  | cons hpq _ ih => rw [flagsUnion, flagsUnion, hflags hpq, ih]

section Lists

variable {ps qs : List Pattern} (h : List.Forall₂ Interchangeable ps qs)
include h

/-- Interchangeable items are tested alike against the same values. -/
theorem executeEach_congr (vs : List Value) : executeEach ps vs = executeEach qs vs := by
  induction h generalizing vs with
  | nil => rfl
  | cons hpq _ ih =>
    cases vs with
    | nil => rfl
    | cons v vs => rw [executeEach_cons, executeEach_cons, hpq.execute_eq, ih]

/-- A conjunction of interchangeable items does what it did. -/
theorem executeAll_congr (v : Value) : executeAll ps v = executeAll qs v := by
  induction h with
  | nil => rfl
  | cons hpq _ ih => rw [executeAll_cons, executeAll_cons, hpq.execute_eq, ih]

/-- A disjunction of interchangeable items does what it did. -/
theorem executeAny_congr (v : Value) : executeAny ps v = executeAny qs v := by
  induction h with
  | nil => rfl
  | cons hpq _ ih => rw [executeAny_cons, executeAny_cons, hpq.execute_eq, ih]

end Lists

section Entries

variable {es fs : List (Value × Pattern)} (h : List.Forall₂ InterchangeableEntries es fs)
include h

/-- Interchangeable entries leave as many of them required. -/
theorem requiredCount_congr : requiredCount es = requiredCount fs := by
  rw [requiredCount, requiredCount]
  induction h with
  | nil => rfl
  | cons hef _ ih => rw [List.countP_cons, List.countP_cons, hef.2.isOpt_eq, ih]

/-- Interchangeable entries are tested alike, also where the map lacks their key. -/
theorem executeEntries_congr (m : ValueMap) : executeEntries es m = executeEntries fs m := by
  induction h with
  | nil => rfl
  | @cons e f es fs hef _ ih =>
    obtain ⟨k, p⟩ := e
    obtain ⟨k', q⟩ := f
    obtain ⟨rfl, hpq⟩ := hef
    -- an absent value is the one place where the flags are asked for while executing
    have hentry : ∀ found, executeEntry p found = executeEntry q found := by
      intro found
      cases found with
      | none => rw [executeEntry, executeEntry, hpq.isOpt_eq]
      | some v => rw [executeEntry, executeEntry, hpq.execute_eq]
    rw [executeEntries_cons, executeEntries_cons, hentry, ih]

/-- Which keys a map may have does not depend on the patterns of the entries. -/
theorem mapFits_congr (exact : Bool) (required : Nat) (m : ValueMap) :
    mapFits ⟨es⟩ exact required m = mapFits ⟨fs⟩ exact required m := by
  rw [mapFits, mapFits, Assoc.contains_eq_of_keys_eq (Assoc.keys_eq_of_forall₂ And.left h)]

end Entries

/-! ### Nodes -/

/-- Interchangeable rest slots are executed alike; an empty one is interchangeable only with an
empty one. -/
theorem executeMiddle_congr {middle middle' : Option Pattern}
    (h : Option.Rel Interchangeable middle middle') (v : Value) :
    executeMiddle middle v = executeMiddle middle' v := by
  cases h with
  | none => rfl
  | some hpq => exact congrFun hpq.execute_eq v

/-- Sequences with as many parts in the same places take subjects of the same lengths. -/
theorem sizeFits_congr {R : Pattern → Pattern → Prop} {head head' tail tail' : List Pattern}
    {middle middle' : Option Pattern} (hhead : List.Forall₂ R head head')
    (hmiddle : Option.Rel R middle middle') (htail : List.Forall₂ R tail tail') (length : Nat) :
    sizeFits middle.isSome (leastLength head tail) length
      = sizeFits middle'.isSome (leastLength head' tail') length := by
  have hsome : middle.isSome = middle'.isSome := by cases hmiddle <;> rfl
  rw [hsome, leastLength, leastLength, hhead.length_eq, htail.length_eq]

namespace Interchangeable

/-- Interchangeable parts in the same places make interchangeable sequences. A sequence carries no
flag, so its parts are only executed. -/
theorem seq {head head' tail tail' : List Pattern} {middle middle' : Option Pattern}
    (hhead : List.Forall₂ Interchangeable head head')
    (hmiddle : Option.Rel Interchangeable middle middle')
    (htail : List.Forall₂ Interchangeable tail tail') :
    (Pattern.seq head middle tail).Interchangeable (.seq head' middle' tail') where
  flags_eq := rfl
  execute_eq := by
    funext v
    cases v with
    | seq items =>
      -- the test of the length is the same, and then the three parts are compared one by one
      have hsame := sizeFits_congr hhead hmiddle htail items.length
      by_cases hfit : sizeFits middle.isSome (leastLength head tail) items.length
      · have hfit' : sizeFits middle'.isSome (leastLength head' tail') items.length := hsame ▸ hfit
        rw [execute_seq hfit, execute_seq hfit', hhead.length_eq, htail.length_eq,
          executeEach_congr hhead, executeEach_congr htail, executeMiddle_congr hmiddle]
      · have hfit' : ¬ sizeFits middle'.isSome (leastLength head' tail') items.length :=
          hsame ▸ hfit
        rw [execute_seq_of_not_fits hfit, execute_seq_of_not_fits hfit']
    | _ => rfl

/-- Interchangeable entries make interchangeable maps, whatever number of them is noted as required.
-/
theorem map {es fs : List (Value × Pattern)} (h : List.Forall₂ InterchangeableEntries es fs)
    (exact : Bool) (required : Nat) :
    (Pattern.map ⟨es⟩ exact required).Interchangeable (.map ⟨fs⟩ exact required) where
  flags_eq := rfl
  execute_eq := by
    funext v
    cases v with
    | map m => rw [execute_map, execute_map, mapFits_congr h, executeEntries_congr h]
    | _ => rfl

theorem opt {p q : Pattern} (h : p.Interchangeable q) :
    (Pattern.opt p).Interchangeable (.opt q) where
  flags_eq := rfl
  execute_eq := h.execute_eq

/-- A conjunction hands on the flags of its items and executes them. -/
theorem and {ps qs : List Pattern} (h : List.Forall₂ Interchangeable ps qs) :
    (Pattern.and ps).Interchangeable (.and qs) where
  flags_eq := flagsUnion_congr flags_eq h
  execute_eq := funext (executeAll_congr h)

/-- A disjunction hands on the flags of its items and executes them. -/
theorem or {ps qs : List Pattern} (h : List.Forall₂ Interchangeable ps qs) :
    (Pattern.or ps).Interchangeable (.or qs) where
  flags_eq := flagsUnion_congr flags_eq h
  execute_eq := funext (executeAny_congr h)

end Interchangeable

end Pattern

end StructMatch
