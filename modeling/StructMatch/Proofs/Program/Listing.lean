import StructMatch.Proofs.Program.Evaluation
import StructMatch.Proofs.Program.Windows
import StructMatch.Proofs.Program.Wiring

/-!
# Listings tell the truth

The text of a program is written beside its code and never run. It says what the program does all
the same. It is the written form of an expression (`specialize_eq`), and this expression, evaluated
in a store in which the subject has its name, comes to what executing the program comes to, with the
same verdict, captures and predicate calls (`source_listings_tell_the_truth`).

Code and listing differ in three ways. Code is handed its subject, where a listing finds it in a
variable; that this variable survives is the business of `Listing.Follows`. Code reads a slot and
tests whatever it holds, where a listing says which kind of slot it means; that it says the right
one is known of code that is wired to its table. And code counts positions from the front, where a
listing counts those of the tail from the end; the two meet because a position from which the
execution could read an item is one that exists.

The induction is over wired code (`Code.Wired.told`), with one lemma for each way in which parts are
put together. Only executions that come to an end are spoken of, and these are all.
-/

namespace StructMatch

open Listing

/-! ### Equations -/

namespace Listing

namespace Evaluation

/-- A condition that is true may stand first. -/
theorem andAlso_true_left (y : Evaluation Bool) : andAlso (pure true) y = y := by
  simp [andAlso]

/-- Conditions may be grouped either way. -/
theorem andAlso_assoc (x y z : Evaluation Bool) :
    andAlso (andAlso x y) z = andAlso x (andAlso y z) := by
  unfold andAlso
  rw [bind_assoc]
  congr 1
  funext ok
  cases ok <;> simp

end Evaluation

/-- Joined lists of conditions are evaluated one after the other. -/
theorem evalAll_append (table : List (Slot Pattern)) (es es' : List Listing) :
    evalAll table (es ++ es')
      = Evaluation.andAlso (evalAll table es) (evalAll table es') := by
  induction es with
  | nil => exact (Evaluation.andAlso_true_left _).symm
  | cons e es ih => rw [List.cons_append, evalAll, evalAll, ih, Evaluation.andAlso_assoc]

end Listing

namespace Code

variable {table : List (Slot Pattern)}

/-- The expression of the code says what running it does, wherever its subject is kept. -/
def Told (table : List (Slot Pattern)) (c : Code) : Prop :=
  ∀ v w, Follows v w (eval table (ofCode c v)) (c.run (Pattern.testSlots table) w)

/-! ### Parts with one subject -/

section Parts

variable {cs : List Code} (h : ∀ c ∈ cs, c.Told table)
include h

/-- The parts of a conjunction are told one after another. -/
theorem follows_runAll (v : Variable) (w : Value) :
    Follows v w (evalAll table (ofParts cs v)) (runAll (Pattern.testSlots table) cs w) := by
  induction cs with
  | nil => exact .pure true
  | cons c cs ih =>
    obtain ⟨hc, hcs⟩ := List.forall_mem_cons.mp h
    exact (hc v w).andAlso (ih hcs)

/-- The parts of a disjunction are told one after another. -/
theorem follows_runAny (v : Variable) (w : Value) :
    Follows v w (evalAny table (ofParts cs v)) (runAny (Pattern.testSlots table) cs w) := by
  induction cs with
  | nil => exact .pure false
  | cons c cs ih =>
    obtain ⟨hc, hcs⟩ := List.forall_mem_cons.mp h
    exact (hc v w).orElse (ih hcs)

end Parts

/-! ### Parts of a sequence -/

/-- Items are tested one after another. An access has to find what stands at a position that there
is, and where there is none the execution does not come to an end. -/
theorem follows_runItems {cs : List (Nat × Code)} (h : ∀ e ∈ cs, e.2.Told table)
    {items : List Value} {offset : Nat} {access : Nat → Access}
    (haccess : ∀ position u, items[offset + position]? = some u →
      (access position).take? items = some u) (v : Variable) :
    Follows v (.seq items) (evalAll table (ofItems cs v access))
      (runItems (Pattern.testSlots table) cs items offset) := by
  induction cs with
  | nil => exact .pure true
  | cons e cs ih =>
    obtain ⟨position, c⟩ := e
    obtain ⟨hc, hcs⟩ := List.forall_mem_cons.mp h
    cases hitem : items[offset + position]? with
    | none =>
      -- the execution faults here, so there is nothing to follow
      intro s hs ok t hrun
      rw [runItems, MatchM.item, hitem] at hrun
      cases hrun
    | some u =>
      have hrun : runItems (Pattern.testSlots table) ((position, c) :: cs) items offset
          = .both (c.run (Pattern.testSlots table) u)
            (runItems (Pattern.testSlots table) cs items offset) := by
        rw [runItems, MatchM.item, hitem]
        rfl
      rw [hrun]
      have hpart := haccess position u hitem
      exact (Follows.ofPart hpart (Nat.lt_succ_self _) (hc (.item v) u)).andAlso (ih hcs)

/-- A position counted from the last item is the position of the item in the tail, if there is such
an item. -/
theorem take?_back {items : List Value} {back position : Nat} {u : Value}
    (hle : back ≤ items.length) (hitem : items[items.length - back + position]? = some u) :
    (Access.back (back - position)).take? items = some u := by
  obtain ⟨hlt, -⟩ := List.getElem?_eq_some_iff.mp hitem
  have hbounds : 1 ≤ back - position ∧ back - position ≤ items.length := by omega
  have hsame : items.length - (back - position) = items.length - back + position := by omega
  rw [Access.take?, if_pos hbounds, hsame]
  exact hitem

/-- A run with both ends included is the slice that ends before the tail. It may be empty, when it
ends one before it begins. -/
theorem take?_run {items : List Value} {front back : Nat} (hle : front + back ≤ items.length) :
    (Access.run front (back + 1)).take? items = some (.seq (middleItems front back items)) := by
  -- one more than the last position is where the tail begins
  have hbounds : 1 ≤ back + 1 ∧ front + (back + 1) ≤ items.length + 1 := by omega
  have hstop : items.length + 1 - (back + 1) = items.length - back := by omega
  rw [Access.take?, if_pos hbounds, hstop]
  rfl

/-- The rest slot is told of the run that is read for it. -/
theorem follows_runOption {middle : Option Code} (h : ∀ c ∈ middle, c.Told table)
    {items : List Value} {front back : Nat} (hle : front + back ≤ items.length) (v : Variable) :
    Follows v (.seq items) (evalAll table (ofMiddle middle v front back))
      (runOption (Pattern.testSlots table) middle (.seq (middleItems front back items))) := by
  cases middle with
  | none => exact .pure true
  | some c =>
    have hpart := Follows.ofPart (take?_run hle) (Nat.lt_succ_self v.depth) (h c rfl (.middle v) _)
    have hlast := hpart.andAlso (.pure true)
    rw [MatchM.both_true_right] at hlast
    exact hlast

/-- The value is a sequence whose length fits. -/
def fits (hasRest : Bool) (named : Nat) : Value → Bool
  | .seq items => sizeFits hasRest named items.length
  | _ => false

/-- The two tests of a sequence say whether its length fits. The second one makes sense only of
sequences, and of others it is not evaluated. -/
theorem follows_fits (table : List (Slot Pattern)) (hasRest : Bool) (named : Nat) (v : Variable)
    (w : Value) :
    Follows v w (evalAll table [.isSeq v, .hasLength v hasRest named])
      (pure (fits hasRest named w)) := by
  intro s hs ok t h
  obtain ⟨rfl, rfl⟩ := Prod.mk.inj (Except.ok.inj h)
  refine ⟨s.store, ?_, .refl _⟩
  have hread := run_read hs
  rw [evalAll, Evaluation.andAlso]
  cases w with
  | seq items =>
    have hseq : (eval table (.isSeq v)).run s = some (true, s) := by
      rw [eval, run_bind_of_run hread]
      rfl
    have hlength : (eval table (.hasLength v hasRest named)).run s
        = some (sizeFits hasRest named items.length, s) := by
      rw [eval, run_bind_of_run hread]
      cases hasRest with
      | true => rfl
      | false =>
        rw [sizeFits, if_neg Bool.false_ne_true, Bool.beq_comm]
        rfl
    rw [run_bind_of_run hseq, if_pos rfl, evalAll, Evaluation.andAlso, run_bind_of_run hlength,
      fits]
    cases sizeFits hasRest named items.length <;> rfl
  | _ =>
    have hseq : (eval table (.isSeq v)).run s = some (false, s) := by
      rw [eval, run_bind_of_run hread]
      rfl
    rw [run_bind_of_run hseq]
    rfl

/-- A sequence that does not fit is a failure at once. -/
theorem run_seq_of_not_fits {test : Nat → Value → MatchM Bool} {hasRest : Bool} {front back : Nat}
    {head tail : List (Nat × Code)} {middle : Option Code} {w : Value}
    (h : fits hasRest (front + back) w = false) :
    (Code.seq hasRest front back head tail middle).run test w = pure false := by
  cases w with
  | seq items =>
    have hfit : ¬ sizeFits hasRest (front + back) items.length := Bool.eq_false_iff.mp h
    rw [run, if_neg hfit]
  | _ => rfl

/-- A sequence is told if its parts are: the tests first, then head and tail item by item, then the
rest slot. -/
theorem Told.seq {hasRest : Bool} {front back : Nat} {head tail : List (Nat × Code)}
    {middle : Option Code} (hhead : ∀ e ∈ head, e.2.Told table) (htail : ∀ e ∈ tail, e.2.Told table)
    (hmiddle : ∀ c ∈ middle, c.Told table) :
    (Code.seq hasRest front back head tail middle).Told table := by
  intro v w
  -- both sides are four parts connected by conjunctions: the tests, head, tail and rest slot
  rw [ofCode_seq, eval, evalAll_append, evalAll_append, evalAll_append, Evaluation.andAlso_assoc,
    Evaluation.andAlso_assoc]
  have htests := follows_fits table hasRest (front + back) v w
  cases hfits : fits hasRest (front + back) w with
  | false =>
    -- what follows the tests would get stuck, but it is not evaluated
    rw [hfits] at htests
    rw [run_seq_of_not_fits hfits]
    exact htests.andAlso_of_fails _
  | true =>
    rw [hfits] at htests
    cases w with
    | seq items =>
      have hle : front + back ≤ items.length := le_of_sizeFits hfits
      rw [run_seq hfits, ← MatchM.both_true_left (MatchM.both _ _)]
      -- the items of the head are counted from the front, and those of the tail from the end
      refine htests.andAlso (.andAlso ?_ (.andAlso ?_ ?_))
      · refine follows_runItems hhead (fun position u hitem => ?_) v
        rwa [Nat.zero_add] at hitem
      · exact follows_runItems htail (fun position u => take?_back (by omega)) v
      · exact follows_runOption hmiddle hle v
    | _ => cases hfits

/-! ### All code -/

/-- **The listing of wired code is true.** -/
theorem Wired.told {c : Code} (h : c.Wired table) : c.Told table := by
  induction h with
  -- the slot holds a literal, as the listing says
  | @literal slot lit hslot =>
    intro v w
    rw [ofCode, eval, hslot, run, Pattern.testSlots_of_getElem? hslot]
    exact .perform lit.test
  | @fallback slot p hslot =>
    intro v w
    rw [ofCode, eval, hslot, run, Pattern.testSlots_of_getElem? hslot]
    exact .perform p.execute
  -- the step binds the value of the variable, and then the truth is evaluated
  | bind key =>
    intro v w s hs ok t hrun
    obtain ⟨rfl, rfl⟩ := Prod.mk.inj (Except.ok.inj hrun)
    have hbind : (Step.bind key v).eval.run s
        = some ((), ⟨s.store, s.matching.after [.bound key w]⟩) := by
      rw [Step.eval, run_bind_of_run (run_read hs)]
      exact run_perform rfl
    refine ⟨s.store, ?_, .refl _⟩
    rw [ofCode, eval, run_bind_of_run hbind]
    rfl
  | seq _ _ _ _ _ ihHead ihTail ihMiddle => exact .seq ihHead ihTail ihMiddle
  | all _ ih => exact follows_runAll ih
  | any _ ih => exact follows_runAny ih
  | tryThenTrue _ ih =>
    intro v w
    rw [run, ← MatchM.either_true_right]
    exact (follows_runAny ih v w).orElse (.pure true)
  | never => exact fun _ _ => .pure false

end Code

namespace Pattern

/-- The listing of a program is true, over the table of the program. -/
theorem follows_execute_compiled {p origin : Pattern} {slots : List (Slot Pattern)}
    {code : Option Code} {source : String}
    (hc : p.specialize = .ok (.compiled origin slots code source)) (v : Value) :
    Follows .subject v (eval slots (Listing.ofProgram code))
      ((Pattern.compiled origin slots code source).execute v) := by
  rw [execute_compiled]
  cases code with
  | none => exact .pure true
  | some c => exact (wired_of_specialize hc c rfl).told .subject v

/-- **The source listing tells the truth.** The text of the listing of a program spells an
expression. In every store in which the subject has its name, whatever else is in the store, this
expression evaluates without getting stuck, and it comes to the same verdict and to the same state
as the execution of the program, with the same captures and the same predicate calls. -/
theorem source_listings_tell_the_truth {p c : Pattern} (hp : p.Constructible)
    (hc : p.specialize = .ok c) :
    ∃ slots code source, ∃ e : Listing, c = .compiled p slots code source ∧
      c.source? = some e.render ∧
      ∀ (v : Value) (before : MatchState) (store : Store), store "_obj" = some v →
        ∃ ok after store', (c.execute v).run before = .ok (ok, after) ∧
          (e.eval slots).run ⟨store, before⟩ = some (ok, ⟨store', after⟩) := by
  obtain ⟨-, rfl⟩ := specialize_eq_ok_iff.mp hc
  -- the text of the program is the written form of this expression, by the induction over the walk
  refine ⟨_, _, _, Listing.ofProgram (p.codeFrom 0), rfl, rfl, fun v before store hstore => ?_⟩
  have hrun := (Constructible.specialized hp hc).realizes v before
  obtain ⟨store', heval, -⟩ := follows_execute_compiled hc v ⟨store, before⟩ hstore _ _ hrun
  exact ⟨_, _, store', hrun, heval⟩

/-- The listing of a program with all kinds of access in it. -/
example :
    (twoTries ⟨"any", fun _ => true⟩).specialize.toOption.bind source? = some (String.join [
      "((seq?(_obj)) &&\n",
      "(len(_obj) >= 2) &&\n",
      "((_obj_elm = _obj[0]; (_match[1] = _obj_elm; true) &&\n",
      "(_ctx[0] === _obj_elm))) &&\n",
      "((_obj_elm = _obj[-1]; _ctx[1] === _obj_elm)) &&\n",
      "((_obj_r = _obj[1..-2]; _match[:between] = _obj_r; true))) ||\n",
      "(_match[1] = _obj; true)"]) := by
  decide +kernel

/-- The theorem at this listing and at a subject that fails the first try, in a store that holds
nothing else. -/
theorem source_listings_tell_the_truth_of_twoTries :
    ∃ c slots code source, ∃ e : Listing,
      (twoTries ⟨"any", fun _ => true⟩).specialize = .ok c ∧
      c = .compiled (twoTries ⟨"any", fun _ => true⟩) slots code source ∧
      c.source? = some e.render ∧
      ∃ ok after store',
        (c.execute (.seq [.int 2, .int 5, .int 7])).run (.start .empty) = .ok (ok, after) ∧
        (e.eval slots).run ⟨Function.update (fun _ => none) "_obj"
          (some (.seq [.int 2, .int 5, .int 7])), .start .empty⟩ = some (ok, ⟨store', after⟩) := by
  obtain ⟨slots, code, source, e, hcompiled, hsource, htruth⟩ :=
    source_listings_tell_the_truth (constructible_twoTries ⟨"any", fun _ => true⟩) rfl
  exact ⟨_, slots, code, source, e, rfl, hcompiled, hsource,
    htruth _ _ _ (Function.update_self ..)⟩

end Pattern

end StructMatch
