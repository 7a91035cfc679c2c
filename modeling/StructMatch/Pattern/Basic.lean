import StructMatch.Program.Code

/-!
# Patterns

A pattern describes the shape of a value and the constraints on its parts, and names the parts to be
captured. A sequence pattern has a head, an optional rest slot and a tail; a map pattern has entries
from keys to patterns, may be exact, and keeps the number of its required entries.

Two flags of a pattern matter to what stands around it. A pattern with the *rest* flag matches a run
of items and may stand in a rest slot only; a pattern with the *optional* flag lets its map entry be
absent. Both come from the markers `rest` and `opt` and pass through conjunctions and disjunctions,
but through nothing else (`Pattern.flags`).

Sequences and maps are made by `Pattern.sequence` and `Pattern.mapping`, which keep the rest flag
where it belongs, hold keys apart and count the required entries.
-/

namespace StructMatch

/-- A slot of a program: a literal, or a pattern that is executed as it stands. -/
inductive Slot (π : Type) where
  | literal (lit : Literal)
  | fallback (p : π)

/-- A pattern. -/
inductive Pattern where
  /-- The literal accepts the subject. -/
  | literal (lit : Literal)
  /-- Anything matches. -/
  | any
  /-- Anything matches and is bound. -/
  | named (key : Key)
  /-- A run of items of any length. -/
  | rest
  /-- A sequence of the items of `head`, then a run for the rest slot, then the items of `tail`. -/
  | seq (head : List Pattern) (rest : Option Pattern) (tail : List Pattern)
  /-- A map with the given entries, `required` of them not optional; an exact pattern allows no
  other keys. -/
  | map (entries : Assoc Value Pattern) (exact : Bool) (required : Nat)
  /-- A map entry that may be absent. -/
  | opt (inner : Pattern)
  /-- Every item matches. -/
  | and (items : List Pattern)
  /-- Some item matches. -/
  | or (items : List Pattern)
  /-- The program that `origin` was specialized to: a table of slots, code unless the program always
  succeeds, and a text that says what the program does. -/
  | compiled (origin : Pattern) (slots : List (Slot Pattern)) (code : Option Code) (source : String)

/-- What the surroundings of a pattern need to know about it. -/
structure Flags where
  rest : Bool
  opt : Bool
deriving DecidableEq, Repr

namespace Flags

/-- No flag is set. -/
def none : Flags := ⟨false, false⟩

/-- The flags set on either side. -/
def union (f g : Flags) : Flags := ⟨f.rest || g.rest, f.opt || g.opt⟩

end Flags

namespace Pattern

instance : Inhabited Pattern := ⟨.any⟩

mutual

/-- The flags of a pattern. -/
def flags : Pattern → Flags
  | .rest => ⟨true, false⟩
  | .opt _ => ⟨false, true⟩
  | .and items => flagsUnion items
  | .or items => flagsUnion items
  | _ => .none
termination_by structural p => p

/-- The flags set on some pattern of a list. -/
def flagsUnion : List Pattern → Flags
  | [] => .none
  | p :: ps => (flags p).union (flagsUnion ps)
termination_by structural ps => ps

end

/-- The pattern matches a run of items. -/
def isRest (p : Pattern) : Bool :=
  p.flags.rest

/-- The pattern lets its map entry be absent. -/
def isOpt (p : Pattern) : Bool :=
  p.flags.opt

/-- The pattern is a program. -/
def isCompiled : Pattern → Bool
  | .compiled .. => true
  | _ => false

/-- The text of a program that says what it does. -/
def source? : Pattern → Option String
  | .compiled _ _ _ source => some source
  | _ => none

/-- Both patterns match, the left one first. -/
instance : AndOp Pattern := ⟨fun p q => .and [p, q]⟩

/-- One of two patterns matches, the left one tried first. -/
instance : OrOp Pattern := ⟨fun p q => .or [p, q]⟩

/-- The pattern `p` with its subject bound under `key`. -/
def capturedAs (p : Pattern) (key : Key) : Pattern :=
  p &&& .named key

/-- The least number of items that a sequence with the given head and tail can have. -/
def leastLength (head tail : List Pattern) : Nat :=
  head.length + tail.length

/-- The number of entries whose pattern is not optional. -/
def requiredCount (entries : List (Value × Pattern)) : Nat :=
  entries.countP fun e => !e.2.isOpt

/-- A map pattern with the given entries. An entry whose key equals an earlier one replaces the
pattern of the earlier entry. -/
def mapping (entries : List (Value × Pattern)) (exact : Bool) : Pattern :=
  let distinct := Assoc.ofList entries
  .map distinct exact (requiredCount distinct.entries)

end Pattern

end StructMatch
