import StructMatch.Proofs.Matching.Parts
import StructMatch.Proofs.Program.Layout

/-!
# Which patterns cannot be specialized

A program refers to a table of its own, so it cannot become part of the code of another program. It
is in the way exactly where a lowering would take the pattern apart: below sequences, conjunctions
and disjunctions, but not below a map or an optional pattern, which become slots as they stand.
`LoweredIn` is this notion of standing in the way, said without the lowering.

Two walks decide about it, the lowering itself and the rejection of the items of a disjunction that
the lowering cuts off. Both refuse exactly the patterns in which they meet a program
(`lower_run`, `rejectCompiled_eq`), so what remains is to say when they meet one
(`meetsProgram_iff`). The main result is `specialize_refuses_exactly_programs_in_the_way`.
-/

namespace StructMatch

namespace Pattern

/-- `q.LoweredIn p`: a lowering of `p` takes `p` apart down to `q`, or would do so if it did not cut
a disjunction off before. -/
inductive LoweredIn (q : Pattern) : Pattern → Prop
  | self : LoweredIn q q
  | head {p : Pattern} {head middle tail} : p ∈ head → LoweredIn q p →
    LoweredIn q (.seq head middle tail)
  | middle {r : Pattern} {head tail} : LoweredIn q r → LoweredIn q (.seq head (some r) tail)
  | tail {p : Pattern} {head middle tail} : p ∈ tail → LoweredIn q p →
    LoweredIn q (.seq head middle tail)
  | and {p : Pattern} {items} : p ∈ items → LoweredIn q p → LoweredIn q (.and items)
  | or {p : Pattern} {items} : p ∈ items → LoweredIn q p → LoweredIn q (.or items)

/-- A program stands where a lowering would take the pattern apart. -/
def HasProgramInTheWay (p : Pattern) : Prop :=
  ∃ q : Pattern, q.LoweredIn p ∧ q.isCompiled

/-- A program is met in a list if it is met in some pattern of it. -/
theorem anyMeetsProgram_iff {ps : List Pattern} :
    anyMeetsProgram ps ↔ ∃ p ∈ ps, p.meetsProgram := by
  rw [← Bool.not_eq_false, anyMeetsProgram_eq_false_iff]
  simp

/-- A program is met in a sequence if it is met in head, tail or rest slot. -/
theorem meetsProgram_seq_iff {head tail : List Pattern} {middle : Option Pattern} :
    (Pattern.seq head middle tail).meetsProgram ↔
      (∃ p ∈ head, p.meetsProgram) ∨ (∃ p ∈ tail, p.meetsProgram) ∨
        ∃ r ∈ middle, r.meetsProgram := by
  rw [meetsProgram_seq, Bool.or_eq_true, Bool.or_eq_true, anyMeetsProgram_iff, anyMeetsProgram_iff,
    anyMeetsProgram_iff]
  simp only [Option.mem_toList, Option.mem_def]

/-- A program in the way is met. -/
theorem meetsProgram_of_loweredIn {p q : Pattern} (h : q.LoweredIn p) (hq : q.meetsProgram) :
    p.meetsProgram := by
  -- by induction on the way down, so from the part back up to the whole
  induction h with
  | self => exact hq
  | head hmem _ ih => exact meetsProgram_seq_iff.mpr (.inl ⟨_, hmem, ih⟩)
  | middle _ ih => exact meetsProgram_seq_iff.mpr (.inr (.inr ⟨_, rfl, ih⟩))
  | tail hmem _ ih => exact meetsProgram_seq_iff.mpr (.inr (.inl ⟨_, hmem, ih⟩))
  | and hmem _ ih => exact anyMeetsProgram_iff.mpr ⟨_, hmem, ih⟩
  | or hmem _ ih => exact anyMeetsProgram_iff.mpr ⟨_, hmem, ih⟩

/-- A program is met at once. -/
theorem meetsProgram_of_isCompiled {p : Pattern} (h : p.isCompiled) : p.meetsProgram := by
  cases p with
  | compiled => rfl
  | _ => exact absurd h Bool.false_ne_true

/-- A program that is met is in the way. -/
theorem hasProgramInTheWay_of_meetsProgram {p : Pattern} (h : p.meetsProgram) :
    p.HasProgramInTheWay := by
  induction p with
  | compiled => exact ⟨_, .self, rfl⟩
  | seq head middle tail ihHead ihMiddle ihTail =>
    -- by induction on the pattern, which gives the way down from the part to the program
    rcases meetsProgram_seq_iff.mp h with ⟨p, hmem, hp⟩ | ⟨p, hmem, hp⟩ | ⟨r, hmem, hr⟩
    · obtain ⟨q, hq, hc⟩ := ihHead p hmem hp
      exact ⟨q, .head hmem hq, hc⟩
    · obtain ⟨q, hq, hc⟩ := ihTail p hmem hp
      exact ⟨q, .tail hmem hq, hc⟩
    · obtain rfl : middle = some r := hmem
      obtain ⟨q, hq, hc⟩ := ihMiddle r rfl hr
      exact ⟨q, .middle hq, hc⟩
  | and items ih =>
    obtain ⟨p, hmem, hp⟩ := anyMeetsProgram_iff.mp h
    obtain ⟨q, hq, hc⟩ := ih p hmem hp
    exact ⟨q, .and hmem hq, hc⟩
  | or items ih =>
    obtain ⟨p, hmem, hp⟩ := anyMeetsProgram_iff.mp h
    obtain ⟨q, hq, hc⟩ := ih p hmem hp
    exact ⟨q, .or hmem hq, hc⟩
  -- a map and an optional pattern become slots, and below them nothing is met
  | _ => exact absurd h Bool.false_ne_true

/-- A program is met exactly if one is in the way: the Boolean search and the paths down agree. -/
theorem meetsProgram_iff {p : Pattern} : p.meetsProgram ↔ p.HasProgramInTheWay :=
  ⟨hasProgramInTheWay_of_meetsProgram,
    fun ⟨_, hq, hc⟩ => meetsProgram_of_loweredIn hq (meetsProgram_of_isCompiled hc)⟩

/-- What a lowering takes a pattern apart into are nodes of it. -/
theorem LoweredIn.occursIn {p q : Pattern} (h : q.LoweredIn p) : q.OccursIn p := by
  induction h with
  | self => exact .self
  | head hmem _ ih => exact .head hmem ih
  | middle _ ih => exact .middle ih
  | tail hmem _ ih => exact .tail hmem ih
  | and hmem _ ih => exact .and hmem ih
  | or hmem _ ih => exact .or hmem ih

/-- No node of the pattern is a program. -/
def ProgramFree (p : Pattern) : Prop :=
  ∀ q : Pattern, q.OccursIn p → q.isCompiled = false

/-- Without a program there is none in the way. -/
theorem ProgramFree.exists_specialize {p : Pattern} (h : p.ProgramFree) :
    ∃ c, p.specialize = .ok c := by
  have hmeets : p.meetsProgram = false := by
    rw [← Bool.not_eq_true, meetsProgram_iff]
    rintro ⟨q, hq, hcompiled⟩
    rw [h q hq.occursIn] at hcompiled
    cases hcompiled
  exact ⟨_, specialize_eq_ok_iff.mpr ⟨hmeets, rfl⟩⟩

/-- The one error of a specialization, and when it arises. -/
theorem specialize_eq_error_iff {p : Pattern} {e : PatternError} :
    p.specialize = .error e ↔ p.HasProgramInTheWay ∧ e = .alreadyCompiled := by
  rw [specialize_eq, refusing_eq_error_iff, meetsProgram_iff]

/-- The lowering refuses what the rejection refuses, over whatever table it is run and under
whatever name. -/
theorem lower_run_eq_error_iff {p : Pattern} {target : String} {table : List (Slot Pattern)}
    {e : PatternError} :
    (p.lower target).run table = .error e ↔ p.rejectCompiled = .error e := by
  rw [lower_run_target, rejectCompiled_eq, refusing_eq_error_iff, refusing_eq_error_iff]

/-! ### What is cut off a disjunction -/

section CutOff

variable {a : Pattern} (ha : a.alwaysMatches) (before after : List Pattern)
include ha

/-- No slots come from behind an item that always matches. -/
theorem slotsReached_cut :
    slotsReached (before ++ a :: after) = slotsReached (before ++ [a]) := by
  induction before with
  | nil => rw [List.nil_append, List.nil_append, slotsReached, slotsReached, if_pos ha, if_pos ha]
  | cons p ps ih => rw [List.cons_append, List.cons_append, slotsReached, slotsReached, ih]

/-- No code comes from there either, as such an item has none itself. -/
theorem codeOfReached_cut (hmet : a.meetsProgram = false) (first : Nat) :
    codeOfReached (before ++ a :: after) first = codeOfReached (before ++ [a]) first := by
  induction before generalizing first with
  | nil =>
    have hnone : a.codeFrom first = none := (codeFrom_eq_none_iff hmet first).mpr ha
    rw [List.nil_append, List.nil_append, codeOfReached_eq_nil_iff.mpr hnone,
      codeOfReached_eq_nil_iff.mpr hnone]
  | cons p ps ih => rw [List.cons_append, List.cons_append, codeOfReached, codeOfReached, ih]

/-- The items behind one that always matches leave nothing in the program: it is the program of the
disjunction that ends there. -/
theorem specialize_cut {c : Pattern}
    (hc : (Pattern.or (before ++ a :: after)).specialize = .ok c) :
    ∃ slots code source, c = .compiled (.or (before ++ a :: after)) slots code source ∧
      (Pattern.or (before ++ [a])).specialize
        = .ok (.compiled (.or (before ++ [a])) slots code source) := by
  obtain ⟨hmet, rfl⟩ := specialize_eq_ok_iff.mp hc
  have hitems : ∀ p ∈ before ++ a :: after, p.meetsProgram = false :=
    anyMeetsProgram_eq_false_iff.mp hmet
  -- the shorter disjunction meets no program, because the longer one meets none
  have hcut : ∀ p ∈ before ++ [a], p.meetsProgram = false := by
    intro p hp
    refine hitems p ?_
    rw [← List.singleton_append, ← List.append_assoc]
    exact List.mem_append_left after hp
  -- either disjunction ends in an item that always matches
  have hany : ∀ bs, (before ++ a :: bs).any alwaysMatches = true := fun bs =>
    List.any_eq_true.mpr ⟨a, List.mem_append_right before List.mem_cons_self, ha⟩
  refine ⟨_, _, _, rfl, specialize_eq_ok_iff.mpr ⟨anyMeetsProgram_eq_false_iff.mpr hcut, ?_⟩⟩
  rw [slots, slots, codeFrom, codeFrom, slotsReached_cut ha before after,
    codeOfReached_cut ha before after (hcut a (List.mem_append_right before List.mem_cons_self)),
    hany, hany]

end CutOff

/-- The program of a pattern is itself in the way, wherever it stands. -/
theorem specialize_eq_error_of_specialized {p c q : Pattern} (hc : p.specialize = .ok c)
    (hq : c.LoweredIn q) : q.specialize = .error .alreadyCompiled := by
  obtain ⟨-, rfl⟩ := specialize_eq_ok_iff.mp hc
  exact specialize_eq_error_iff.mpr ⟨⟨_, hq, rfl⟩, rfl⟩

/-- **Specialization refuses exactly the patterns with a program in the way.** It fails if and only
if a program stands where the lowering would take the pattern apart, and with no other error. The
lowering and the rejection refuse the same patterns, over every table and under every name of the
subject. The items of a disjunction behind one that always matches count, although they leave
nothing in the program. What specialization has made can never be specialized again, at whatever
place in the way it stands. -/
theorem specialize_refuses_exactly_programs_in_the_way (p : Pattern) :
    ((∃ e, p.specialize = .error e) ↔ p.HasProgramInTheWay) ∧
    (∀ e, p.specialize = .error e → e = .alreadyCompiled) ∧
    (∀ target table e,
      (p.lower target).run table = .error e ↔ p.rejectCompiled = .error e) ∧
    (∀ before a after, p = .or (before ++ a :: after) → a.alwaysMatches →
      ((∃ q ∈ after, q.HasProgramInTheWay) → p.specialize = .error .alreadyCompiled) ∧
      (∀ c, p.specialize = .ok c → ∃ slots code source, c = .compiled p slots code source ∧
        (Pattern.or (before ++ [a])).specialize
          = .ok (.compiled (.or (before ++ [a])) slots code source))) ∧
    (∀ c, p.specialize = .ok c →
      ∀ q, c.LoweredIn q → q.specialize = .error .alreadyCompiled) := by
  refine ⟨⟨?_, ?_⟩, ?_, ?_, ?_, ?_⟩
  · rintro ⟨e, he⟩
    exact (specialize_eq_error_iff.mp he).1
  · intro h
    exact ⟨_, specialize_eq_error_iff.mpr ⟨h, rfl⟩⟩
  · intro e he
    exact (specialize_eq_error_iff.mp he).2
  · exact fun target table e => lower_run_eq_error_iff
  · -- an item behind the cut is in the way like any other
    rintro before a after rfl ha
    refine ⟨?_, fun c hc => specialize_cut ha before after hc⟩
    rintro ⟨q, hq, r, hr, hcompiled⟩
    have hmem : q ∈ before ++ a :: after := List.mem_append_right before (List.mem_cons_of_mem a hq)
    exact specialize_eq_error_iff.mpr ⟨⟨r, .or hmem hr, hcompiled⟩, rfl⟩
  · exact fun c hc q hq => specialize_eq_error_of_specialized hc hq

end Pattern

end StructMatch
