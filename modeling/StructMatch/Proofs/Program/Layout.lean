import StructMatch.Program.Listing
import StructMatch.Proofs.Pattern.Induction

/-!
# What a lowering produces

`Pattern.lower` is one walk with a table in its state and an error on the way. Here the four things
it computes are taken apart:

* `Pattern.slots`, the slots it adds to the table;
* `Pattern.codeFrom`, the code, given the position of the first of these slots;
* the text, which is the written form of the expression `Listing.ofCode` that belongs to the code;
* the error, which is the error of `Pattern.rejectCompiled`.

`lower_run` says that the walk is these four put together. `Pattern.alwaysMatches` names the
patterns that leave no code.

The walk writes its text bottom up, with the name of the subject handed down as its target. So the
induction speaks of any variable under any name of the subject: a part of a sequence is lowered
under the name of a part of the variable. `Lowered.ofCode` is the text beside the code by the other
account, and there is one lemma for each way in which the walk puts texts together.
-/

namespace StructMatch

namespace Code

/-- The code of a conjunction of parts that have code. -/
def conjunction : List Code → Option Code
  | [] => none
  | [c] => some c
  | parts => some (.all parts)

/-- The code of a disjunction of parts that have code. When it `ends` in a part that always
succeeds, the parts before it still run for their effects. -/
def disjunction (ends : Bool) : List Code → Option Code
  | [] => if ends then none else some .never
  | [c] => if ends then some (.tryThenTrue [c]) else some c
  | parts => some (if ends then .tryThenTrue parts else .any parts)

/-- A conjunction has no code if none of its parts has. -/
theorem conjunction_eq_none_iff {cs : List Code} : conjunction cs = none ↔ cs = [] := by
  rcases cs with _ | ⟨c, _ | ⟨d, cs⟩⟩ <;> simp [conjunction]

/-- A disjunction has no code if it succeeds before any part with code; without that it has at least
the code that fails. -/
theorem disjunction_eq_none_iff {ends : Bool} {cs : List Code} :
    disjunction ends cs = none ↔ ends ∧ cs = [] := by
  rcases cs with _ | ⟨c, _ | ⟨d, cs⟩⟩ <;> cases ends <;> simp [disjunction]

end Code

namespace Pattern

/-! ### Patterns that leave no code -/

mutual

/-- The pattern succeeds on everything without an effect: a bare marker, a conjunction of such
patterns, or a disjunction that starts with one. -/
def alwaysMatches : Pattern → Bool
  | .any => true
  | .rest => true
  | .and items => allAlwaysMatch items
  | .or [] => false
  | .or (p :: _) => alwaysMatches p
  | _ => false
termination_by structural p => p

/-- Every pattern of a list succeeds on everything without an effect. -/
def allAlwaysMatch : List Pattern → Bool
  | [] => true
  | p :: ps => alwaysMatches p && allAlwaysMatch ps
termination_by structural ps => ps

end

/-! ### Slots -/

mutual

/-- The slots that the lowering of a pattern adds to the table, in order. -/
def slots : Pattern → List (Slot Pattern)
  | .literal lit => [.literal lit]
  | .map entries exact required => [.fallback (.map entries exact required)]
  | .opt inner => [.fallback (.opt inner)]
  | .seq head middle tail =>
    slotsAll head ++ slotsAll tail ++
      match middle with
      | none => []
      | some r => slots r
  | .and items => slotsAll items
  | .or items => slotsReached items
  | _ => []
termination_by structural p => p

/-- The slots of several patterns. -/
def slotsAll : List Pattern → List (Slot Pattern)
  | [] => []
  | p :: ps => slots p ++ slotsAll ps
termination_by structural ps => ps

/-- The slots of the items of a disjunction before the first that always matches. -/
def slotsReached : List Pattern → List (Slot Pattern)
  | [] => []
  | p :: ps => if p.alwaysMatches then [] else slots p ++ slotsReached ps
termination_by structural ps => ps

end

/-! ### Code -/

mutual

/-- The code of a pattern whose slots stand in the table from position `first` on; none when the
pattern leaves no code. -/
def codeFrom : Pattern → Nat → Option Code
  | .literal _, first => some (.literal first)
  | .named key, _ => some (.bind key)
  | .map .., first => some (.fallback first)
  | .opt _, first => some (.fallback first)
  | .seq head middle tail, first =>
    let firstOfTail := first + (slotsAll head).length
    let middleCode := match middle with
      | none => none
      | some r => codeFrom r (firstOfTail + (slotsAll tail).length)
    some (.seq middle.isSome head.length tail.length (codeOfItems head 0 first)
      (codeOfItems tail 0 firstOfTail) middleCode)
  | .and items, first => Code.conjunction (codeOfAll items first)
  | .or items, first => Code.disjunction (items.any alwaysMatches) (codeOfReached items first)
  | _, _ => none
termination_by structural p => p

/-- The code of the items of a sequence that have code, with their positions. -/
def codeOfItems : List Pattern → Nat → Nat → List (Nat × Code)
  | [], _, _ => []
  | p :: ps, position, first =>
    ((codeFrom p first).map fun c => (position, c)).toList
      ++ codeOfItems ps (position + 1) (first + p.slots.length)
termination_by structural ps => ps

/-- The code of the items of a conjunction that have code. -/
def codeOfAll : List Pattern → Nat → List Code
  | [], _ => []
  | p :: ps, first => (codeFrom p first).toList ++ codeOfAll ps (first + p.slots.length)
termination_by structural ps => ps

/-- The code of the items of a disjunction before the first that has none. -/
def codeOfReached : List Pattern → Nat → List Code
  | [], _ => []
  | p :: ps, first =>
    match codeFrom p first with
    | none => []
    | some c => c :: codeOfReached ps (first + p.slots.length)
termination_by structural ps => ps

end

/-! ### Programs met on the way -/

mutual

/-- The walk of a lowering meets a program. -/
def meetsProgram : Pattern → Bool
  | .compiled .. => true
  | .seq head middle tail =>
    anyMeetsProgram head || anyMeetsProgram tail ||
      match middle with
      | none => false
      | some r => meetsProgram r
  | .and items => anyMeetsProgram items
  | .or items => anyMeetsProgram items
  | _ => false
termination_by structural p => p

/-- The walk meets a program in one of several patterns. -/
def anyMeetsProgram : List Pattern → Bool
  | [] => false
  | p :: ps => meetsProgram p || anyMeetsProgram ps
termination_by structural ps => ps

end

/-! ### The parts of a sequence as lists

With the rest slot read as a list of at most one pattern, the functions above treat the three parts
of a sequence alike. -/

/-- The slots of a sequence stand in the table in the order head, tail, rest slot. -/
theorem slots_seq (head : List Pattern) (middle : Option Pattern) (tail : List Pattern) :
    (Pattern.seq head middle tail).slots
      = slotsAll head ++ slotsAll tail ++ slotsAll middle.toList := by
  cases middle with
  | none => rfl
  | some r => rw [Option.toList_some, slotsAll, slotsAll, List.append_nil]; rfl

/-- The code of the tail refers to slots behind those of the head, and that of the rest slot to
slots behind both. -/
theorem codeFrom_seq (head : List Pattern) (middle : Option Pattern) (tail : List Pattern)
    (first : Nat) :
    (Pattern.seq head middle tail).codeFrom first
      = some (.seq middle.isSome head.length tail.length (codeOfItems head 0 first)
          (codeOfItems tail 0 (first + (slotsAll head).length))
          (middle.bind
            (·.codeFrom (first + (slotsAll head).length + (slotsAll tail).length)))) := by
  cases middle <;> rfl

/-- A program is met in a sequence if it is met in one of its three parts. -/
theorem meetsProgram_seq (head : List Pattern) (middle : Option Pattern) (tail : List Pattern) :
    (Pattern.seq head middle tail).meetsProgram
      = (anyMeetsProgram head || (anyMeetsProgram tail || anyMeetsProgram middle.toList)) := by
  rw [← Bool.or_assoc]
  cases middle with
  | none => rfl
  | some r => rw [Option.toList_some, anyMeetsProgram, anyMeetsProgram, Bool.or_false]; rfl

/-- No program is met in a list if none is met in any of its patterns. -/
theorem anyMeetsProgram_eq_false_iff {ps : List Pattern} :
    anyMeetsProgram ps = false ↔ ∀ p ∈ ps, p.meetsProgram = false := by
  induction ps with
  | nil => exact ⟨fun _ _ h => absurd h List.not_mem_nil, fun _ => rfl⟩
  | cons p ps ih => rw [anyMeetsProgram, Bool.or_eq_false_iff, ih, List.forall_mem_cons]

/-! ### No code, no slots -/

section NoCode

variable {ps : List Pattern}

/-- The items of a conjunction leave no code if each of them always matches. -/
private theorem codeOfAll_eq_nil_iff
    (h : ∀ p ∈ ps, ∀ first, p.codeFrom first = none ↔ p.alwaysMatches) (first : Nat) :
    codeOfAll ps first = [] ↔ allAlwaysMatch ps := by
  induction ps generalizing first with
  | nil => exact ⟨fun _ => rfl, fun _ => rfl⟩
  | cons p ps ih =>
    obtain ⟨hp, hps⟩ := List.forall_mem_cons.mp h
    rw [codeOfAll, allAlwaysMatch, List.append_eq_nil_iff, Option.toList_eq_nil_iff,
      Bool.and_eq_true, hp, ih hps]

/-- A disjunction is cut off at the start if its first item has no code. -/
theorem codeOfReached_eq_nil_iff {p : Pattern} {first : Nat} :
    codeOfReached (p :: ps) first = [] ↔ p.codeFrom first = none := by
  rw [codeOfReached]
  cases p.codeFrom first <;> simp

/-- Items that always match add no slots. -/
private theorem slotsAll_eq_nil (h : ∀ p ∈ ps, p.alwaysMatches → p.slots = [])
    (hall : allAlwaysMatch ps) : slotsAll ps = [] := by
  induction ps with
  | nil => rfl
  | cons p ps ih =>
    obtain ⟨hp, hps⟩ := List.forall_mem_cons.mp h
    rw [allAlwaysMatch, Bool.and_eq_true] at hall
    rw [slotsAll, hp hall.1, ih hps hall.2]
    rfl

end NoCode

/-- A pattern that always matches adds no slot. -/
theorem slots_eq_nil_of_alwaysMatches {p : Pattern} (hp : p.alwaysMatches) : p.slots = [] := by
  induction p with
  | any | rest => rfl
  | and items ih => exact slotsAll_eq_nil ih hp
  | or items =>
    cases items with
    | nil => rfl
    | cons p ps => exact if_pos hp
  | _ => exact absurd hp Bool.false_ne_true

/-- Unless it meets a program, the walk answers no code exactly for the patterns that always
match. -/
theorem codeFrom_eq_none_iff {p : Pattern} (hp : p.meetsProgram = false) (first : Nat) :
    p.codeFrom first = none ↔ p.alwaysMatches := by
  induction p generalizing first with
  | any | rest => exact ⟨fun _ => rfl, fun _ => rfl⟩
  | and items ih =>
    have hitems := anyMeetsProgram_eq_false_iff.mp hp
    rw [codeFrom, Code.conjunction_eq_none_iff]
    exact codeOfAll_eq_nil_iff (fun p hmem first => ih p hmem (hitems p hmem) first) first
  | or items ih =>
    rw [codeFrom, Code.disjunction_eq_none_iff]
    cases items with
    | nil => exact ⟨fun h => absurd h.1 Bool.false_ne_true, fun h => absurd h Bool.false_ne_true⟩
    | cons p ps =>
      -- the first item alone decides, on either side
      have hmet := anyMeetsProgram_eq_false_iff.mp hp p List.mem_cons_self
      have hfirst := ih p List.mem_cons_self hmet first
      rw [codeOfReached_eq_nil_iff, hfirst, alwaysMatches, List.any_cons]
      exact ⟨fun h => h.2, fun h => ⟨by rw [h]; rfl, h⟩⟩
  | compiled => exact absurd hp.symm Bool.false_ne_true
  | literal | named | map | opt =>
    exact ⟨nofun, fun h => absurd h Bool.false_ne_true⟩
  | seq =>
    rw [codeFrom_seq]
    exact ⟨nofun, fun h => absurd h Bool.false_ne_true⟩

end Pattern

/-! ### Texts -/

namespace Listing

/-- The expression for the run of items between head and tail, if there is code for it. -/
def ofMiddle (middle : Option Code) (v : Variable) (front back : Nat) : List Listing :=
  match middle with
  | none => []
  | some c =>
    [.group (.after (.assign (.middle v) v (.run front (back + 1))) (ofCode c (.middle v)))]

/-- The expression for a sequence is a conjunction: the two tests, then head, tail and rest slot. -/
theorem ofCode_seq (hasRest : Bool) (front back : Nat) (head tail : List (Nat × Code))
    (middle : Option Code) (v : Variable) :
    ofCode (.seq hasRest front back head tail middle) v
      = .all ([.isSeq v, .hasLength v hasRest (front + back)] ++ ofItems head v .front
          ++ ofItems tail v (fun position => .back (back - position))
          ++ ofMiddle middle v front back) := by
  cases middle <;> rfl

end Listing

namespace Lowered

open Listing

/-- Code beside the written form of its expression, where the subject of the code is in the given
variable. -/
def ofCode (base : String) (v : Variable) (c : Code) : Lowered :=
  ⟨c, (Listing.ofCode c v).renderOver base⟩

/-- Code for an item beside the written form of its expression. -/
def ofItemCode (base : String) (v : Variable) (e : Nat × Code) : Nat × Lowered :=
  (e.1, ofCode base v e.2)

variable {base : String} {v : Variable}

/-- The code of the walk is the code that was laid out. -/
theorem map_code_ofCode (cs : List Code) : (cs.map (ofCode base v)).map code = cs := by
  rw [List.map_map]
  exact List.map_id cs

/-- So is the code of items, at the positions that they have. -/
theorem map_code_ofItemCode (cs : List (Nat × Code)) :
    (cs.map (ofItemCode base v)).map (fun e => (e.1, e.2.code)) = cs := by
  rw [List.map_map]
  exact List.map_id cs

/-- The parts of a joined list are written one after another. -/
theorem renderParts_append (es es' : List Listing) :
    renderParts base (es ++ es') = renderParts base es ++ renderParts base es' := by
  induction es with
  | nil => rfl
  | cons e es ih => rw [List.cons_append, renderParts, renderParts, ih, List.cons_append]

/-- The walk joins the texts of parts as the expression of the parts is written. -/
theorem joined_ofCode (operator : String) (cs : List Code) :
    joined operator (cs.map (ofCode base v))
      = operator.intercalate (renderParts base (ofParts cs v)) := by
  rw [joined]
  congr 1
  induction cs with
  | nil => rfl
  | cons c cs ih => rw [List.map_cons, List.map_cons, ofParts, renderParts, ih]; rfl

/-- The walk puts a conjunction together as its code and its expression are: a single part stands
for itself, and several are joined. -/
theorem conjunction_ofCode (cs : List Code) :
    conjunction (cs.map (ofCode base v)) = (Code.conjunction cs).map (ofCode base v) := by
  rcases cs with _ | ⟨c, _ | ⟨d, cs⟩⟩
  · rfl
  · rfl
  · have hparts : conjunction ((c :: d :: cs).map (ofCode base v))
        = some ⟨.all (((c :: d :: cs).map (ofCode base v)).map code),
            joined " &&\n" ((c :: d :: cs).map (ofCode base v))⟩ := rfl
    rw [hparts, joined_ofCode, map_code_ofCode]
    rfl

/-- The walk puts a disjunction together as its code and its expression are, with the truth written
behind the parts if one of the items always succeeds. -/
theorem disjunction_ofCode (ends : Bool) (cs : List Code) :
    disjunction ends (cs.map (ofCode base v)) = (Code.disjunction ends cs).map (ofCode base v) := by
  rcases cs with _ | ⟨c, _ | ⟨d, cs⟩⟩
  · cases ends <;> rfl
  · cases ends <;> rfl
  · -- two parts or more: the texts are joined, and the code is the list of codes
    have hparts : disjunction ends ((c :: d :: cs).map (ofCode base v))
        = if ends then
            some ⟨.tryThenTrue (((c :: d :: cs).map (ofCode base v)).map code),
              joined " ||\n" ((c :: d :: cs).map (ofCode base v)) ++ " ||\ntrue"⟩
          else
            some ⟨.any (((c :: d :: cs).map (ofCode base v)).map code),
              joined " ||\n" ((c :: d :: cs).map (ofCode base v))⟩ := rfl
    rw [hparts, joined_ofCode, map_code_ofCode]
    cases ends <;> rfl

/-- The texts of items, each of which is first read into the variable for items. -/
theorem renderParts_ofItems (access : Nat → Access) (cs : List (Nat × Code)) :
    renderParts base (ofItems cs v access)
      = (cs.map (ofItemCode base (.item v))).map fun e =>
        parenthesized (reading (elementName (v.renderOver base))
          ((access e.1).renderOver (v.renderOver base)) e.2) := by
  induction cs with
  | nil => rfl
  | cons e cs ih =>
    obtain ⟨position, c⟩ := e
    rw [ofItems, renderParts, ih]
    rfl

/-- The text of the rest slot, which is first read into a variable of its own. -/
theorem renderParts_ofMiddle (middle : Option Code) (front back : Nat) :
    renderParts base (ofMiddle middle v front back)
      = (middle.map (ofCode base (.middle v))).toList.map fun l =>
        parenthesized (reading (runName (v.renderOver base))
          ((Access.run front (back + 1)).renderOver (v.renderOver base)) l) := by
  cases middle <;> rfl

/-- **The text of a sequence.** The walk puts it together from the texts of the parts, and it comes
out as the expression for the whole sequence is written. -/
theorem sequence_ofCode (hasRest : Bool) (front back : Nat) (head tail : List (Nat × Code))
    (middle : Option Code) :
    sequence (v.renderOver base) hasRest front back (head.map (ofItemCode base (.item v)))
        (tail.map (ofItemCode base (.item v))) (middle.map (ofCode base (.middle v)))
      = ofCode base v (.seq hasRest front back head tail middle) := by
  have hsource : sequenceSource (v.renderOver base) hasRest front back
      (head.map (ofItemCode base (.item v))) (tail.map (ofItemCode base (.item v)))
      (middle.map (ofCode base (.middle v)))
      = (Listing.ofCode (.seq hasRest front back head tail middle) v).renderOver base := by
    -- the parts of the expression are written in the order in which the walk joins their texts
    rw [ofCode_seq, renderOver, renderParts_append, renderParts_append, renderParts_append,
      renderParts_ofItems, renderParts_ofItems, renderParts_ofMiddle, sequenceSource]
    simp only [List.map_append, List.map_map]
    rfl
  rw [sequence, hsource, map_code_ofItemCode, map_code_ofItemCode, Option.map_map]
  cases middle <;> rfl

/-- **The text of a binding.** It is a step with the truth after it. -/
theorem bind_ofCode (key : Key) :
    ⟨.bind key, "_match[" ++ key.render ++ "] = " ++ v.renderOver base ++ "; true"⟩
      = ofCode base v (.bind key) := by
  -- the walk writes the end of the step and the truth in one, and the expression has them apart
  have hend : "; true" = "; " ++ "true" := by decide
  rw [hend, ← String.append_assoc]
  rfl

end Lowered

namespace Pattern

/-! ### The walk, taken apart -/

/-- An answer that is refused if a program was met. -/
def refusing {α : Type} (met : Bool) (a : α) : Except PatternError α :=
  if met then .error .alreadyCompiled else .ok a

/-- Two walks in a row refuse what either of them refuses. -/
theorem refusing_bind {α β : Type} {met met' : Bool} {a : α} {f : α → Except PatternError β} {b : β}
    (h : f a = refusing met' b) : (refusing met a >>= f) = refusing (met || met') b := by
  cases met with
  | false => exact h
  | true => rfl

/-- Going on without meeting a program. -/
theorem refusing_map {α β : Type} {met : Bool} {a : α} {f : α → Except PatternError β} {b : β}
    (h : f a = .ok b) : (refusing met a >>= f) = refusing met b := by
  cases met with
  | false => exact h
  | true => rfl

/-- What is not refused has met no program. -/
theorem refusing_eq_ok_iff {α : Type} {met : Bool} {a b : α} :
    refusing met a = .ok b ↔ met = false ∧ a = b := by
  cases met <;> simp [refusing]

/-- What is refused has met one, and there is no other error. -/
theorem refusing_eq_error_iff {α : Type} {met : Bool} {a : α} {e : PatternError} :
    refusing met a = .error e ↔ met = true ∧ e = .alreadyCompiled := by
  cases met with
  | false => simp [refusing]
  | true => simp [refusing, eq_comm]

/-- Several rejections in a row refuse what one of them refuses. -/
private theorem rejectAll_eq_refusing {ps : List Pattern}
    (h : ∀ p ∈ ps, p.rejectCompiled = refusing p.meetsProgram ()) :
    rejectAll ps = refusing (anyMeetsProgram ps) () := by
  induction ps with
  | nil => rfl
  | cons p ps ih =>
    obtain ⟨hp, hps⟩ := List.forall_mem_cons.mp h
    rw [rejectAll, hp]
    exact refusing_bind (ih hps)

/-- Rejection refuses the patterns in which it meets a program, and no others. -/
theorem rejectCompiled_eq (p : Pattern) : p.rejectCompiled = refusing p.meetsProgram () := by
  induction p with
  | seq head middle tail ihHead ihMiddle ihTail =>
    rw [rejectCompiled, rejectAll_eq_refusing ihHead, meetsProgram_seq]
    refine refusing_bind ?_
    cases middle with
    | none =>
      rw [Option.toList_none, anyMeetsProgram, Bool.or_false]
      exact rejectAll_eq_refusing ihTail
    | some r =>
      -- here the rest slot comes before the tail, which cannot be told from the answer
      change (r.rejectCompiled >>= fun _ => rejectAll tail) = _
      rw [Option.toList_some, anyMeetsProgram, anyMeetsProgram, Bool.or_false, Bool.or_comm,
        ihMiddle r rfl]
      exact refusing_bind (rejectAll_eq_refusing ihTail)
  | and items ih => exact rejectAll_eq_refusing ih
  | or items ih => exact rejectAll_eq_refusing ih
  | _ => rfl

/-- Rejection refuses the lists in which it meets a program. -/
theorem rejectAll_eq (ps : List Pattern) : rejectAll ps = refusing (anyMeetsProgram ps) () :=
  rejectAll_eq_refusing fun p _ => rejectCompiled_eq p

/-- The lowering of a pattern under the name of any variable adds its slots, answers its code with
the written form of its expression, and fails if it meets a program. -/
def LowersAsLaidOut (p : Pattern) : Prop :=
  ∀ base v table, (p.lower (v.renderOver base)).run table
    = refusing p.meetsProgram ((p.codeFrom table.length).map (Lowered.ofCode base v),
        table ++ p.slots)

section Walks

variable {ps : List Pattern} (h : ∀ p ∈ ps, p.LowersAsLaidOut) (base : String)
  (v : Listing.Variable)
include h

/-- The walk over the items of a sequence. Each item starts from the table that the items before it
have left, which is where the layout has its slots begin, and an item without code is passed over in
the answer only. -/
private theorem lowerItems_run (position : Nat) (table : List (Slot Pattern)) :
    (lowerItems ps (v.renderOver base) position).run table = refusing (anyMeetsProgram ps)
      ((codeOfItems ps position table.length).map (Lowered.ofItemCode base v),
        table ++ slotsAll ps) := by
  induction ps generalizing position table with
  | nil => rw [slotsAll, List.append_nil]; rfl
  | cons p ps ih =>
    obtain ⟨hp, hps⟩ := List.forall_mem_cons.mp h
    rw [lowerItems, StateT.run_bind, hp base v table]
    refine refusing_bind ?_
    rw [StateT.run_bind, ih hps]
    refine refusing_map ?_
    -- the others are lowered over the table that already has the slots of the first
    rw [codeOfItems, slotsAll, List.length_append, List.append_assoc]
    cases p.codeFrom table.length <;> rfl

/-- The walk over the items of a conjunction, in the same way and without positions. -/
private theorem lowerAll_run (table : List (Slot Pattern)) :
    (lowerAll ps (v.renderOver base)).run table = refusing (anyMeetsProgram ps)
      ((codeOfAll ps table.length).map (Lowered.ofCode base v), table ++ slotsAll ps) := by
  induction ps generalizing table with
  | nil => rw [slotsAll, List.append_nil]; rfl
  | cons p ps ih =>
    obtain ⟨hp, hps⟩ := List.forall_mem_cons.mp h
    rw [lowerAll, StateT.run_bind, hp base v table]
    refine refusing_bind ?_
    rw [StateT.run_bind, ih hps]
    refine refusing_map ?_
    rw [codeOfAll, slotsAll, List.length_append, List.append_assoc]
    cases p.codeFrom table.length <;> rfl

/-- The walk over the items of a disjunction. It ends at the first item without code, which is the
first that always matches; behind it programs are still refused, and nothing is added. -/
private theorem lowerAlternatives_run (table : List (Slot Pattern)) :
    (lowerAlternatives ps (v.renderOver base)).run table = refusing (anyMeetsProgram ps)
      (((codeOfReached ps table.length).map (Lowered.ofCode base v), ps.any alwaysMatches),
        table ++ slotsReached ps) := by
  induction ps generalizing table with
  | nil => rw [slotsReached, List.append_nil]; rfl
  | cons p ps ih =>
    obtain ⟨hp, hps⟩ := List.forall_mem_cons.mp h
    rw [lowerAlternatives, StateT.run_bind, hp base v table, anyMeetsProgram]
    cases hmet : p.meetsProgram with
    -- a program in the first item is refused before the others are looked at
    | true => rfl
    | false =>
      have halways := codeFrom_eq_none_iff hmet table.length
      refine refusing_bind ?_
      rw [codeOfReached, slotsReached, List.any_cons]
      cases hc : p.codeFrom table.length with
      | none =>
        -- the walk ends here, and the others are only looked through for programs
        have htrue : p.alwaysMatches := halways.mp hc
        have hrejected : (rejectAll ps >>= fun u => pure (u, table))
            = refusing (anyMeetsProgram ps) ((), table) := by
          rw [rejectAll_eq]
          exact refusing_map rfl
        rw [slots_eq_nil_of_alwaysMatches htrue, if_pos htrue, htrue, Bool.true_or, List.append_nil]
        change ((rejectAll ps >>= fun u => pure (u, table)) >>=
          fun q => pure (([], true), q.2)) = _
        rw [hrejected]
        exact refusing_map rfl
      | some c =>
        have hfalse : p.alwaysMatches = false := by simpa [hc] using halways
        simp only [hfalse, Bool.false_or, Bool.false_eq_true, if_false, Option.map_some]
        rw [StateT.run_bind, ih hps]
        refine refusing_map ?_
        rw [List.length_append, List.append_assoc]
        rfl

end Walks

/-- The walk over a sequence: the items of the head, those of the tail, and the rest slot last. -/
theorem LowersAsLaidOut.seq {head tail : List Pattern} {middle : Option Pattern}
    (hhead : ∀ p ∈ head, p.LowersAsLaidOut) (hmiddle : ∀ r ∈ middle, r.LowersAsLaidOut)
    (htail : ∀ p ∈ tail, p.LowersAsLaidOut) : (Pattern.seq head middle tail).LowersAsLaidOut := by
  intro base v table
  -- the items are lowered under a name that is the name of a variable for items
  have hname : Lowered.elementName (v.renderOver base)
      = (Listing.Variable.item v).renderOver base := rfl
  rw [lower, hname, StateT.run_bind, lowerItems_run hhead, meetsProgram_seq, codeFrom_seq,
    slots_seq, Option.map_some, ← Lowered.sequence_ofCode]
  -- the head is refused with a program in it; else the tail is lowered over what it left
  refine refusing_bind ?_
  rw [StateT.run_bind, lowerItems_run htail]
  refine refusing_bind ?_
  cases middle with
  | none =>
    rw [Option.toList_none, slotsAll, List.append_nil, List.append_assoc, List.length_append]
    rfl
  | some r =>
    -- the rest slot is lowered over a table with the slots of head and tail
    change (r.lower ((Listing.Variable.middle v).renderOver base) >>=
      fun run => pure (some (Lowered.sequence _ _ _ _ _ _ run))).run _ = _
    rw [StateT.run_bind, hmiddle r rfl, Option.toList_some, anyMeetsProgram, anyMeetsProgram,
      Bool.or_false, slotsAll, slotsAll, List.append_nil]
    refine refusing_map ?_
    simp only [List.length_append, List.append_assoc, Nat.add_assoc]
    rfl

/-- **The walk of a lowering, taken apart**: what it adds to the table, what it answers and when it
fails. In particular the text that it writes is the written form of an expression that belongs to
the code. -/
theorem lower_run (p : Pattern) : p.LowersAsLaidOut := by
  induction p with
  | seq head middle tail ihHead ihMiddle ihTail => exact .seq ihHead ihMiddle ihTail
  | and items ih =>
    intro base v table
    rw [lower, StateT.run_bind, lowerAll_run ih, codeFrom, ← Lowered.conjunction_ofCode]
    exact refusing_map rfl
  | or items ih =>
    intro base v table
    rw [lower, StateT.run_bind, lowerAlternatives_run ih, codeFrom, ← Lowered.disjunction_ofCode]
    exact refusing_map rfl
  | any | rest =>
    intro base v table
    change Except.ok (_, table) = Except.ok (_, table ++ [])
    rw [List.append_nil]
    rfl
  | named key =>
    intro base v table
    have hslots : (Pattern.named key).slots = [] := rfl
    rw [hslots, List.append_nil, codeFrom, Option.map_some, ← Lowered.bind_ofCode]
    rfl
  -- one slot is added, and the code refers to the place where the table ended
  | literal | map | opt | compiled => exact fun base v table => rfl

/-- The walk under any name at all, which is the name of a subject. -/
theorem lower_run_target (p : Pattern) (target : String) (table : List (Slot Pattern)) :
    (p.lower target).run table
      = refusing p.meetsProgram
          ((p.codeFrom table.length).map (Lowered.ofCode target .subject), table ++ p.slots) :=
  p.lower_run target .subject table

/-- **Specialization, taken apart.** The program of a pattern holds the pattern, its slots, its code
over a table that starts with these slots, and the written form of the listing of this code. -/
theorem specialize_eq (p : Pattern) :
    p.specialize = refusing p.meetsProgram
      (.compiled p p.slots (p.codeFrom 0) (Listing.ofProgram (p.codeFrom 0)).render) := by
  rw [specialize, lower_run_target]
  refine refusing_map ?_
  rw [List.length_nil]
  cases p.codeFrom 0 <;> rfl

/-- A pattern has a program if no program is met, and then the program is this one. -/
theorem specialize_eq_ok_iff {p c : Pattern} :
    p.specialize = .ok c ↔ p.meetsProgram = false ∧
      .compiled p p.slots (p.codeFrom 0) (Listing.ofProgram (p.codeFrom 0)).render = c := by
  rw [specialize_eq, refusing_eq_ok_iff]

end Pattern

end StructMatch
