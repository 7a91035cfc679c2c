import StructMatch.Proofs.Matching.Runs
import StructMatch.Proofs.Program.Induction

/-!
# The slots that code reads

A lowering hands out positions in a table while it goes through a pattern, and it drops parts and
cuts disjunctions off on the way. Every pattern that it comes to gets a *window* of the table, the
positions from where the table ended to where it ends after the pattern's own slots.

`Code.references` lists the positions that code refers to, in the order in which they stand in it.
For the code of a pattern this is its window, from the first position to the last
(`references_codeFrom`): every slot of the window is referred to, once and in order, and nothing
outside of it. So what is dropped has left no slot behind, and the windows of parts follow one
another.

That code reads no other slots than those it refers to is a fact about all code (`run_congr`): two
tests that agree on these slots run it in the same way. Together, the code of a pattern can be run
over any table that has the right slots in its window
(`lowering_appends_and_reads_its_own_slots`).
-/

namespace StructMatch

namespace Code

/-! ### References -/

mutual

/-- The positions of the slots that code refers to, in the order in which they stand in it. -/
def references : Code → List Nat
  | .literal slot => [slot]
  | .fallback slot => [slot]
  | .bind _ => []
  | .seq _ _ _ head tail middle =>
    referencesOfItems head ++ referencesOfItems tail ++
      match middle with
      | none => []
      | some c => references c
  | .all parts => referencesOfParts parts
  | .any parts => referencesOfParts parts
  | .tryThenTrue parts => referencesOfParts parts
  | .never => []
termination_by structural c => c

/-- The positions that the code of items refers to. -/
def referencesOfItems : List (Nat × Code) → List Nat
  | [] => []
  | (_, c) :: rest => references c ++ referencesOfItems rest
termination_by structural cs => cs

/-- The positions that several parts refer to. -/
def referencesOfParts : List Code → List Nat
  | [] => []
  | c :: rest => references c ++ referencesOfParts rest
termination_by structural cs => cs

end

/-- The positions that code refers to, if there is any. -/
def referencesOption : Option Code → List Nat
  | none => []
  | some c => c.references

/-- The references of a sequence: head, tail, rest slot. -/
theorem references_seq (hasRest : Bool) (front back : Nat) (head tail : List (Nat × Code))
    (middle : Option Code) :
    (Code.seq hasRest front back head tail middle).references
      = referencesOfItems head ++ referencesOfItems tail ++ referencesOption middle := by
  cases middle <;> rfl

/-- The references of joined items follow one another. -/
theorem referencesOfItems_append (cs cs' : List (Nat × Code)) :
    referencesOfItems (cs ++ cs') = referencesOfItems cs ++ referencesOfItems cs' := by
  induction cs with
  | nil => rfl
  | cons c cs ih =>
    rw [List.cons_append, referencesOfItems, referencesOfItems, ih, List.append_assoc]

/-- An item with code refers to what its code refers to, and one without to nothing. -/
theorem referencesOfItems_toList (position : Nat) (code : Option Code) :
    referencesOfItems (code.map fun c => (position, c)).toList = referencesOption code := by
  cases code with
  | none => rfl
  | some c => exact List.append_nil c.references

/-- The references of joined parts follow one another. -/
theorem referencesOfParts_append (cs cs' : List Code) :
    referencesOfParts (cs ++ cs') = referencesOfParts cs ++ referencesOfParts cs' := by
  induction cs with
  | nil => rfl
  | cons c cs ih =>
    rw [List.cons_append, referencesOfParts, referencesOfParts, ih, List.append_assoc]

/-- So it is for a part with or without code. -/
theorem referencesOfParts_toList (code : Option Code) :
    referencesOfParts code.toList = referencesOption code := by
  cases code with
  | none => rfl
  | some c => exact List.append_nil c.references

/-- Putting parts together neither adds nor drops a reference. -/
theorem referencesOption_conjunction (cs : List Code) :
    referencesOption (conjunction cs) = referencesOfParts cs := by
  rcases cs with _ | ⟨c, _ | ⟨d, cs⟩⟩
  · rfl
  · exact (List.append_nil c.references).symm
  · rfl

/-- A disjunction keeps the references of its parts as well; the code that fails has none. -/
theorem referencesOption_disjunction (ends : Bool) (cs : List Code) :
    referencesOption (disjunction ends cs) = referencesOfParts cs := by
  rcases cs with _ | ⟨c, _ | ⟨d, cs⟩⟩
  · cases ends <;> rfl
  · cases ends with
    | true => rfl
    | false => exact (List.append_nil c.references).symm
  · cases ends <;> rfl

/-! ### Reading -/

variable {test test' : Nat → Value → MatchM Bool}

/-- The code is run alike by two tests that agree on the slots it refers to. -/
def ReadsReferences (test test' : Nat → Value → MatchM Bool) (c : Code) : Prop :=
  (∀ i ∈ c.references, test i = test' i) → c.run test = c.run test'

/-- Items are run alike by tests that agree on what their code refers to. -/
theorem runItems_congr {cs : List (Nat × Code)} (h : ∀ e ∈ cs, e.2.ReadsReferences test test')
    (htest : ∀ i ∈ referencesOfItems cs, test i = test' i) :
    runItems test cs = runItems test' cs := by
  induction cs with
  | nil => rfl
  | cons e cs ih =>
    obtain ⟨position, c⟩ := e
    obtain ⟨hc, hcs⟩ := List.forall_mem_cons.mp h
    rw [referencesOfItems, List.forall_mem_append] at htest
    funext items offset
    rw [runItems, runItems, hc htest.1, ih hcs htest.2]

section Parts

variable {cs : List Code} (h : ∀ c ∈ cs, c.ReadsReferences test test')
  (htest : ∀ i ∈ referencesOfParts cs, test i = test' i)
include h htest

/-- So are the parts of a conjunction. -/
theorem runAll_congr : runAll test cs = runAll test' cs := by
  induction cs with
  | nil => rfl
  | cons c cs ih =>
    obtain ⟨hc, hcs⟩ := List.forall_mem_cons.mp h
    rw [referencesOfParts, List.forall_mem_append] at htest
    funext v
    rw [runAll_cons, runAll_cons, hc htest.1, ih hcs htest.2]

/-- So are the parts of a disjunction. -/
theorem runAny_congr : runAny test cs = runAny test' cs := by
  induction cs with
  | nil => rfl
  | cons c cs ih =>
    obtain ⟨hc, hcs⟩ := List.forall_mem_cons.mp h
    rw [referencesOfParts, List.forall_mem_append] at htest
    funext v
    rw [runAny_cons, runAny_cons, hc htest.1, ih hcs htest.2]

end Parts

/-- **Code reads only the slots that it refers to.** -/
theorem run_congr (c : Code) : c.ReadsReferences test test' := by
  induction c with
  | literal slot => exact fun htest => htest slot (List.mem_singleton_self slot)
  | fallback slot => exact fun htest => htest slot (List.mem_singleton_self slot)
  | bind key => exact fun _ => rfl
  | never => exact fun _ => rfl
  | all parts ih => exact fun htest => runAll_congr ih htest
  | any parts ih => exact fun htest => runAny_congr ih htest
  | tryThenTrue parts ih =>
    intro htest
    funext v
    rw [run, run, runAny_congr ih htest]
  | seq hasRest front back head tail middle ihHead ihTail ihMiddle =>
    intro htest
    rw [references_seq, List.forall_mem_append, List.forall_mem_append] at htest
    obtain ⟨⟨hhead, htail⟩, hmiddle⟩ := htest
    -- the tests agree on each of the three parts, as they agree on all
    have hmiddles : ∀ c ∈ middle, c.run test = c.run test' := by
      rintro c rfl
      exact ihMiddle c rfl hmiddle
    funext v
    cases v with
    | seq items =>
      rw [run, run, runItems_congr ihHead hhead, runItems_congr ihTail htail]
      cases middle with
      | none => rfl
      | some c => simp only [hmiddles c rfl]
    | _ => rfl

/-- So is code that may be missing. -/
theorem runOption_congr {code : Option Code}
    (htest : ∀ i ∈ referencesOption code, test i = test' i) :
    runOption test code = runOption test' code := by
  cases code with
  | none => rfl
  | some c =>
    funext v
    exact congrFun (c.run_congr htest) v

end Code

namespace Pattern

/-! ### Windows -/

/-- The code of the pattern refers to the slots of its window, once each and in order, wherever the
window begins. -/
def RefersToWindow (p : Pattern) : Prop :=
  ∀ first, Code.referencesOption (p.codeFrom first) = List.range' first p.slots.length

section Lists

variable {ps : List Pattern} (h : ∀ p ∈ ps, p.RefersToWindow)
include h

/-- The windows of the items of a sequence follow one another. -/
theorem references_codeOfItems (position first : Nat) :
    Code.referencesOfItems (codeOfItems ps position first)
      = List.range' first (slotsAll ps).length := by
  induction ps generalizing position first with
  | nil => rfl
  | cons p ps ih =>
    obtain ⟨hp, hps⟩ := List.forall_mem_cons.mp h
    -- two windows of which one begins where the other ends are one window
    rw [codeOfItems, Code.referencesOfItems_append, Code.referencesOfItems_toList, hp, ih hps,
      slotsAll, List.length_append, List.range'_append_1]

/-- The windows of the items of a conjunction follow one another. -/
theorem references_codeOfAll (first : Nat) :
    Code.referencesOfParts (codeOfAll ps first) = List.range' first (slotsAll ps).length := by
  induction ps generalizing first with
  | nil => rfl
  | cons p ps ih =>
    obtain ⟨hp, hps⟩ := List.forall_mem_cons.mp h
    rw [codeOfAll, Code.referencesOfParts_append, Code.referencesOfParts_toList, hp, ih hps,
      slotsAll, List.length_append, List.range'_append_1]

/-- Where the code is cut off, the slots are cut off as well. -/
theorem references_codeOfReached (hmet : ∀ p ∈ ps, p.meetsProgram = false) (first : Nat) :
    Code.referencesOfParts (codeOfReached ps first)
      = List.range' first (slotsReached ps).length := by
  induction ps generalizing first with
  | nil => rfl
  | cons p ps ih =>
    obtain ⟨hp, hps⟩ := List.forall_mem_cons.mp h
    obtain ⟨hmetFirst, hmetOthers⟩ := List.forall_mem_cons.mp hmet
    have halways := codeFrom_eq_none_iff hmetFirst first
    have hwindow := hp first
    rw [codeOfReached, slotsReached]
    cases hcode : p.codeFrom first with
    -- no code, and no slots either: the window is empty
    | none =>
      rw [if_pos (halways.mp hcode)]
      rfl
    | some c =>
      have hnot : ¬ p.alwaysMatches := by
        rw [← halways, hcode]
        exact Option.some_ne_none c
      rw [hcode, Code.referencesOption] at hwindow
      rw [if_neg hnot, Code.referencesOfParts, hwindow, ih hps hmetOthers, List.length_append,
        List.range'_append_1]

end Lists

/-- **The code of a pattern refers to its window**, from the first slot to the last. -/
theorem references_codeFrom {p : Pattern} (hmet : p.meetsProgram = false) : p.RefersToWindow := by
  induction p with
  | any | rest | named | literal | map | opt => exact fun _ => rfl
  | compiled => exact absurd hmet.symm Bool.false_ne_true
  | and items ih =>
    intro first
    have hitems := anyMeetsProgram_eq_false_iff.mp hmet
    rw [codeFrom, Code.referencesOption_conjunction]
    exact references_codeOfAll (fun p hp => ih p hp (hitems p hp)) first
  | or items ih =>
    intro first
    have hitems := anyMeetsProgram_eq_false_iff.mp hmet
    rw [codeFrom, Code.referencesOption_disjunction]
    exact references_codeOfReached (fun p hp => ih p hp (hitems p hp)) hitems first
  | seq head middle tail ihHead ihMiddle ihTail =>
    intro first
    rw [meetsProgram_seq, Bool.or_eq_false_iff, Bool.or_eq_false_iff] at hmet
    obtain ⟨hhead, htail, hmiddle⟩ := hmet
    rw [anyMeetsProgram_eq_false_iff] at hhead htail hmiddle
    -- the three windows follow one another in the order in which the parts are executed
    have hheads := references_codeOfItems (fun p hp => ihHead p hp (hhead p hp)) 0 first
    have htails := references_codeOfItems (fun p hp => ihTail p hp (htail p hp)) 0
      (first + (slotsAll head).length)
    have hrest : ∀ start, Code.referencesOption (middle.bind (·.codeFrom start))
        = List.range' start (slotsAll middle.toList).length := by
      intro start
      cases middle with
      | none => rfl
      | some r =>
        have hr := ihMiddle r rfl (hmiddle r (List.mem_singleton_self r)) start
        rw [Option.toList_some, slotsAll, slotsAll, List.append_nil]
        exact hr
    rw [codeFrom_seq, slots_seq, Code.referencesOption, Code.references_seq, hheads, htails, hrest,
      List.range'_append_1, List.length_append, List.length_append, Nat.add_assoc,
      List.range'_append_1]

/-! ### Tables -/

/-- The test of the slots of a table, by which a program runs its code. -/
def testSlots (table : List (Slot Pattern)) : Nat → Value → MatchM Bool :=
  fun i v => executeSlot table table.length i i v

/-- A slot of the table is tested as it stands. -/
theorem testSlots_of_getElem? {table : List (Slot Pattern)} {i : Nat} {slot : Slot Pattern}
    (h : table[i]? = some slot) : testSlots table i = slot.execute := by
  funext v
  exact executeSlot_of_getElem? h table.length i v

/-- A program runs its code by testing the slots of its table. -/
theorem execute_compiled (origin : Pattern) (slots : List (Slot Pattern)) (code : Option Code)
    (source : String) :
    (Pattern.compiled origin slots code source).execute
      = Code.runOption (testSlots slots) code := by
  cases code <;> rfl

/-- Over two tables that hold the same slots in the window that the code refers to, the code is run
alike. -/
theorem runOption_testSlots_congr {code : Option Code} {first count : Nat}
    (hcode : Code.referencesOption code = List.range' first count)
    {final other : List (Slot Pattern)} (hfinal : first + count ≤ final.length)
    (hsame : ∀ i, first ≤ i → i < first + count → other[i]? = final[i]?) :
    Code.runOption (testSlots other) code = Code.runOption (testSlots final) code := by
  refine Code.runOption_congr fun i hi => ?_
  -- the positions that the code refers to are those of the window, and there the tables agree
  rw [hcode, List.mem_range'_1] at hi
  have hlt : i < final.length := Nat.lt_of_lt_of_le hi.2 hfinal
  have hslot : final[i]? = some final[i] := List.getElem?_eq_getElem hlt
  rw [testSlots_of_getElem? hslot, testSlots_of_getElem? ((hsame i hi.1 hi.2).trans hslot)]

/-- **A lowering appends the slots of the pattern, and the code reads no others.** The table of a
program is the list of slots of its pattern. Its code refers to each of them once and in order, and
the program runs this code over this table. The lowering of any part, under any name and from any
table, appends the slots of the part and does nothing else to the table; the code that it answers
refers to the slots of this window, once and in order, and whatever table the walk ends with, the
code is run alike over all tables that hold the same slots in the window. -/
theorem lowering_appends_and_reads_its_own_slots {p c : Pattern} (hc : p.specialize = .ok c) :
    (∃ code source, c = .compiled p p.slots code source ∧
      Code.referencesOption code = List.range p.slots.length ∧
      c.execute = Code.runOption (testSlots p.slots) code) ∧
    ∀ (q : Pattern) (target : String) (table : List (Slot Pattern)) (lowered : Option Lowered)
      (table' : List (Slot Pattern)), (q.lower target).run table = .ok (lowered, table') →
      table' = table ++ q.slots ∧
      Code.referencesOption (lowered.map (·.code)) = List.range' table.length q.slots.length ∧
      ∀ final other : List (Slot Pattern), table' <+: final →
        (∀ i, table.length ≤ i → i < table.length + q.slots.length → other[i]? = final[i]?) →
        Code.runOption (testSlots other) (lowered.map (·.code))
          = Code.runOption (testSlots final) (lowered.map (·.code)) := by
  refine ⟨?_, ?_⟩
  · obtain ⟨hmet, rfl⟩ := specialize_eq_ok_iff.mp hc
    refine ⟨p.codeFrom 0, _, rfl, ?_, execute_compiled p p.slots (p.codeFrom 0) _⟩
    rw [references_codeFrom hmet 0, List.range_eq_range']
  · intro q target table lowered table' hlower
    rw [lower_run_target, refusing_eq_ok_iff] at hlower
    obtain ⟨hmet, heq⟩ := hlower
    obtain ⟨rfl, rfl⟩ := Prod.mk.inj heq
    -- the code of the walk is the code of the layout; the text beside it plays no part
    have hcode : ((q.codeFrom table.length).map (Lowered.ofCode target .subject)).map (·.code)
        = q.codeFrom table.length := by
      cases q.codeFrom table.length <;> rfl
    rw [hcode]
    have hwindow := references_codeFrom hmet table.length
    refine ⟨rfl, hwindow, fun final other hfinal hsame => ?_⟩
    have hle : table.length + q.slots.length ≤ final.length := by
      rw [← List.length_append]
      exact hfinal.length_le
    exact runOption_testSlots_congr hwindow hle hsame

/-- The theorem at a pattern in which markers and captures leave no slots, and at the second literal
of it, whose code is run alike over every table with this literal in the second place. -/
theorem lowering_appends_and_reads_its_own_slots_of_twoTries :
    ∃ c code source, (twoTries ⟨"any", fun _ => true⟩).specialize = .ok c ∧
      c = .compiled (twoTries ⟨"any", fun _ => true⟩) (twoTries ⟨"any", fun _ => true⟩).slots code
        source ∧
      Code.referencesOption code = [0, 1] ∧
      ∀ other : List (Slot Pattern), other[1]? = some (.literal (.value (.int 0))) →
        Code.runOption (testSlots other) (some (.literal 1))
          = Code.runOption (testSlots (twoTries ⟨"any", fun _ => true⟩).slots)
              (some (.literal 1)) := by
  have hc : (twoTries ⟨"any", fun _ => true⟩).specialize = .ok _ := rfl
  obtain ⟨⟨code, source, hcompiled, hreferences, -⟩, hparts⟩ :=
    lowering_appends_and_reads_its_own_slots hc
  refine ⟨_, code, source, hc, hcompiled, hreferences, fun other hother => ?_⟩
  obtain ⟨-, -, hruns⟩ := hparts (.literal (.value (.int 0))) "_obj_elm"
    [.literal (.predicate ⟨"any", fun _ => true⟩)] (some ⟨.literal 1, _⟩) _ rfl
  refine hruns _ other (List.prefix_refl _) fun i hle hlt => ?_
  -- there is one position in the window
  obtain rfl : i = 1 := Nat.le_antisymm (Nat.le_of_lt_succ hlt) hle
  exact hother

end Pattern

end StructMatch
