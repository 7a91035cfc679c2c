import StructMatch.Pattern.Error

/-!
# Specializing patterns

`Pattern.specialize` turns a pattern into a program that behaves like it. One walk over the pattern,
depth first and in the order of execution, collects its literals in a table of slots and leaves code
that refers to them by position. Map patterns and optional patterns are not taken apart: each
becomes a slot that is executed as it stands.

Beside the code the walk writes a text that says what the code does, as an expression over named
variables. A part is lowered under the name of the variable that holds its subject, its *target*:
the whole pattern under `_obj`, the items of a sequence under a name of their own, and the run of
items for the rest slot under another. The text is kept for readers. It is never run.

A part that always succeeds without an effect leaves no code: the two bare markers, and conjunctions
of such parts. A disjunction ends at its first such item, since what comes after it is never
reached; the items after it leave no slots either.

A program cannot be part of the code of another program, for its code refers to a table of its own.
A program met on the walk is an error, also among the items of a disjunction that are never reached.
Inside a map pattern or an optional pattern there is no walk, and programs may stand there.
-/

namespace StructMatch

/-- The walk of a lowering: it adds slots to a table and may fail. -/
abbrev Lowering := StateT (List (Slot Pattern)) (Except PatternError)

/-- Add a slot at the end of the table and return its position. -/
def Lowering.push (slot : Slot Pattern) : Lowering Nat :=
  modifyGet fun slots => (slots.length, slots ++ [slot])

/-- Code, and the text that says what it does. -/
structure Lowered where
  code : Code
  source : String

namespace Lowered

/-- A text in parentheses. -/
def parenthesized (text : String) : String :=
  "(" ++ text ++ ")"

/-- The texts of parts, each in parentheses, with an operator between them. -/
def joined (operator : String) (parts : List Lowered) : String :=
  operator.intercalate (parts.map fun l => parenthesized l.source)

/-- A conjunction of parts that have code. -/
def conjunction : List Lowered → Option Lowered
  | [] => none
  | [l] => some l
  | parts => some ⟨.all (parts.map code), joined " &&\n" parts⟩

/-- A disjunction of parts that have code. When it `ends` in a part that always succeeds, the parts
before it still run for their effects. -/
def disjunction (ends : Bool) : List Lowered → Option Lowered
  | [] => if ends then none else some ⟨.never, "false"⟩
  | [l] => if ends then some ⟨.tryThenTrue [l.code], joined " ||\n" [l] ++ " ||\ntrue"⟩ else some l
  | parts =>
    if ends then some ⟨.tryThenTrue (parts.map code), joined " ||\n" parts ++ " ||\ntrue"⟩
    else some ⟨.any (parts.map code), joined " ||\n" parts⟩

/-- The text of a part of a sequence: what is read out of the sequence under a name, and then the
text of the part. -/
def reading (name accessed : String) (l : Lowered) : String :=
  parenthesized (name ++ " = " ++ accessed ++ "; " ++ l.source)

/-- The variable that holds an item of the sequence in another variable. -/
def elementName (target : String) : String := target ++ "_elm"

/-- The variable that holds the run of items for the rest slot. -/
def runName (target : String) : String := target ++ "_r"

/-- The text of a sequence pattern of `headLength` and `tailLength` items, some of which have code,
and of its rest slot. Items of the tail are counted from the end, and the run for the rest slot is
written with both of its ends included. -/
def sequenceSource (target : String) (hasRest : Bool) (headLength tailLength : Nat)
    (head tail : List (Nat × Lowered)) (middle : Option Lowered) : String :=
  let tests :=
    ["seq?(" ++ target ++ ")",
      "len(" ++ target ++ ") " ++ (if hasRest then ">=" else "==") ++ " "
        ++ toString (headLength + tailLength)]
  let heads := head.map fun e =>
    reading (elementName target) (target ++ "[" ++ toString e.1 ++ "]") e.2
  let tails := tail.map fun e =>
    reading (elementName target) (target ++ "[-" ++ toString (tailLength - e.1) ++ "]") e.2
  let middles := middle.toList.map fun l =>
    reading (runName target)
      (target ++ "[" ++ toString headLength ++ "..-" ++ toString (tailLength + 1) ++ "]") l
  " &&\n".intercalate ((tests ++ heads ++ tails ++ middles).map parenthesized)

/-- A sequence of parts, some of which have code. -/
def sequence (target : String) (hasRest : Bool) (headLength tailLength : Nat)
    (head tail : List (Nat × Lowered)) (middle : Option Lowered) : Lowered where
  code := .seq hasRest headLength tailLength (head.map fun e => (e.1, e.2.code))
    (tail.map fun e => (e.1, e.2.code)) (middle.map code)
  source := sequenceSource target hasRest headLength tailLength head tail middle

end Lowered

namespace Pattern

/-- A pattern that becomes a slot as it stands. -/
def lowerWhole (p : Pattern) (target : String) : Lowering (Option Lowered) := do
  let slot ← Lowering.push (.fallback p)
  return some ⟨.fallback slot, "_ctx[" ++ toString slot ++ "].execute(_match, " ++ target ++ ")"⟩

mutual

/-- Refuse programs where a lowering would meet them. -/
def rejectCompiled : Pattern → Except PatternError Unit
  | .compiled .. => .error .alreadyCompiled
  | .seq head middle tail => do
    rejectAll head
    match middle with
    | none => pure ()
    | some r => rejectCompiled r
    rejectAll tail
  | .and items => rejectAll items
  | .or items => rejectAll items
  | _ => .ok ()
termination_by structural p => p

/-- Refuse programs in any of several patterns. -/
def rejectAll : List Pattern → Except PatternError Unit
  | [] => .ok ()
  | p :: ps => do
    rejectCompiled p
    rejectAll ps
termination_by structural ps => ps

end

mutual

/-- The code of a pattern with its text, in which the subject is named by the target; none when the
pattern always succeeds without an effect. -/
def lower : Pattern → String → Lowering (Option Lowered)
  | .any, _ => return none
  | .rest, _ => return none
  | .literal lit, target => do
    let slot ← Lowering.push (.literal lit)
    return some ⟨.literal slot, "_ctx[" ++ toString slot ++ "] === " ++ target⟩
  | .named key, target =>
    return some ⟨.bind key, "_match[" ++ key.render ++ "] = " ++ target ++ "; true"⟩
  | .map entries exact required, target =>
    lowerWhole (.map entries exact required) target
  | .opt inner, target => lowerWhole (.opt inner) target
  | .seq head middle tail, target => do
    let heads ← lowerItems head (Lowered.elementName target) 0
    let tails ← lowerItems tail (Lowered.elementName target) 0
    let run ← match middle with
      | none => pure none
      | some r => lower r (Lowered.runName target)
    return some (.sequence target middle.isSome head.length tail.length heads tails run)
  | .and items, target => return Lowered.conjunction (← lowerAll items target)
  | .or items, target => do
    let (parts, ends) ← lowerAlternatives items target
    return Lowered.disjunction ends parts
  | .compiled .., _ => throw .alreadyCompiled
termination_by structural p => p

/-- The code of the items of a sequence that have code, with their positions. -/
def lowerItems : List Pattern → String → Nat → Lowering (List (Nat × Lowered))
  | [], _, _ => return []
  | p :: ps, target, position => do
    let lowered ← lower p target
    let others ← lowerItems ps target (position + 1)
    match lowered with
    | none => return others
    | some l => return (position, l) :: others
termination_by structural ps => ps

/-- The code of the items of a conjunction that have code. -/
def lowerAll : List Pattern → String → Lowering (List Lowered)
  | [], _ => return []
  | p :: ps, target => do
    let lowered ← lower p target
    let others ← lowerAll ps target
    match lowered with
    | none => return others
    | some l => return l :: others
termination_by structural ps => ps

/-- The code of the items of a disjunction before the first that always succeeds, and whether there
is such an item. -/
def lowerAlternatives : List Pattern → String → Lowering (List Lowered × Bool)
  | [], _ => return ([], false)
  | p :: ps, target => do
    match ← lower p target with
    | none =>
      rejectAll ps
      return ([], true)
    | some l =>
      let (others, ends) ← lowerAlternatives ps target
      return (l :: others, ends)
termination_by structural ps => ps

end

/-- The program of a pattern. -/
def specialize (p : Pattern) : Except PatternError Pattern := do
  let (lowered, slots) ← (p.lower "_obj").run []
  match lowered with
  | some l => return .compiled p slots (some l.code) l.source
  | none => return .compiled p slots none "true"

end Pattern

end StructMatch
