import StructMatch.Text.CaseFold
import StructMatch.Text.CharRange

/-!
# Sets of characters

A set of characters is kept as ascending ranges of code points that do not touch, so a set has one
form and its complement is the list of the gaps. The code points from `0xD800` to `0xDFFF` are no
characters; a complement leaves them out.

`CharSet.ignoreCase` closes a set under variants in case. It goes through the runs of case folding
twice: the first time it adds the common form of every member, the second time every letter whose
common form is a member by then.
-/

namespace StructMatch

/-- A set of characters, as ascending ranges that do not touch. -/
structure CharSet where
  ranges : List CharRange
deriving DecidableEq, Repr, Inhabited

namespace CharSet

/-- The code point is one of the set. -/
def holdsCode (s : CharSet) (n : Nat) : Bool :=
  CharRange.anyHolds n s.ranges

/-- The character is one of the set. -/
def holds (s : CharSet) (c : Char) : Bool :=
  s.holdsCode c.toNat

/-- The set without members. -/
def empty : CharSet := ⟨[]⟩

/-- The characters between two others, both included. -/
def range (first last : Char) : CharSet := ⟨[⟨first.toNat, last.toNat⟩]⟩

/-- A single character. -/
def single (c : Char) : CharSet := range c c

/-- The only member of a set that has exactly one. -/
def onlyMember? (s : CharSet) : Option Char :=
  match s.ranges with
  | [r] => if r.first == r.last then some (Char.ofNat r.first) else none
  | _ => none

/-- Ranges in the order of their first code points, those that meet or overlap made one. -/
def coalesce (r : CharRange) : List CharRange → List CharRange
  | [] => [r]
  | s :: rest =>
    if s.first ≤ r.last + 1 then coalesce ⟨r.first, max r.last s.last⟩ rest
    else r :: coalesce s rest

/-- The characters of either of two sets. -/
def union (s t : CharSet) : CharSet :=
  match s.ranges.merge t.ranges (fun r q => r.first ≤ q.first) with
  | [] => empty
  | r :: rest => ⟨coalesce r rest⟩

/-- The union of a list of sets. -/
def unions (ss : List CharSet) : CharSet :=
  ss.foldl union empty

/-- The greatest code point. -/
def greatestCode : Nat := 0x10FFFF

/-- The code points that are no characters. -/
def surrogates : CharSet := ⟨[⟨0xD800, 0xDFFF⟩]⟩

/-- The code points from `next` on that ascending ranges leave out. -/
def gaps (next : Nat) : List CharRange → List CharRange
  | [] => if next ≤ greatestCode then [⟨next, greatestCode⟩] else []
  | r :: rest =>
    if next < r.first then ⟨next, r.first - 1⟩ :: gaps (r.last + 1) rest
    else gaps (r.last + 1) rest

/-- The characters that a set lacks. -/
def complement (s : CharSet) : CharSet :=
  ⟨gaps 0 (s.union surrogates).ranges⟩

/-- The complement if `negated`, otherwise the set itself. -/
def complementIf (negated : Bool) (s : CharSet) : CharSet :=
  if negated then s.complement else s

/-- The characters of both sets. -/
def inter (s t : CharSet) : CharSet :=
  (s.complement.union t.complement).complement

/-- The characters of `s` that `t` lacks. -/
def diff (s t : CharSet) : CharSet := s.inter t.complement

/-- The characters that exactly one of the two sets has. -/
def symmDiff (s t : CharSet) : CharSet := (s.diff t).union (t.diff s)

/-- The set of code points given in ascending order. -/
def ofAscending (codes : List Nat) : CharSet :=
  match codes with
  | [] => empty
  | n :: rest => ⟨coalesce ⟨n, n⟩ (rest.map fun n => ⟨n, n⟩)⟩

/-- The set with the common form of every member. -/
def addCommonForms (s : CharSet) : CharSet :=
  Text.foldRuns.foldl
    (fun t run => t.union (ofAscending ((run.codes.filter s.holdsCode).map run.common))) s

/-- The set with every letter whose common form is a member. -/
def addCaseVariants (s : CharSet) : CharSet :=
  s.union (ofAscending
    (Text.foldRuns.flatMap fun run => run.codes.filter fun n => s.holdsCode (run.common n)))

/-- The set with every variant in case of its members. -/
def ignoreCase (s : CharSet) : CharSet :=
  s.addCommonForms.addCaseVariants

/-- The basic alphabet: the characters that are encoded by one byte. -/
def basic : CharSet := ⟨[⟨0, 0x7F⟩]⟩

/-- All members are of the basic alphabet. -/
def isBasic (s : CharSet) : Bool :=
  s.ranges.all (·.last < 0x80)

/-- The set with the other case of every letter of the basic alphabet. -/
def ignoreBasicCase (s : CharSet) : CharSet :=
  let capitals := List.range' 'A'.toNat 26 |>.filter fun n => s.holdsCode (n + 32)
  let small := List.range' 'a'.toNat 26 |>.filter fun n => s.holdsCode (n - 32)
  s.union (ofAscending (capitals ++ small))

end CharSet

end StructMatch
