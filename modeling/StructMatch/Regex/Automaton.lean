import Std.Data.HashMap
import StructMatch.Regex.Assembly
import StructMatch.Text.Utf8

/-!
# How large the automaton of an expression is

An expression is refused if an automaton that recognizes it would take too much room. The automaton
reads the bytes of the text, forwards or backwards, and both have to fit. Nothing of it is kept: an
`Outline` only counts its states and what they hold beside their fixed size.

* A character of one byte, an anchor and each of the two ends of a numbered group are one state
  each. Backwards, groups are left out.
* A branch is a state that holds a link to each of its continuations. A choice is a branch before
  its alternatives and a state where they meet. A repetition is written out: its least count of
  copies, then a loop, or one optional copy inside the other up to the greatest count.
* A class of single bytes is a state that holds its ranges. Any other class is made of the byte
  sequences of its ranges. Forwards they form a tree in which states with the same continuations are
  shared, backwards a branch over sequences that share their last states.
* A choice between texts is a tree of their common beginnings, or backwards of their common ends.

States are shared as far as they are remembered: `Recall` has a fixed number of slots, and a new
state takes the slot from an earlier one.
-/

namespace StructMatch.Regex

/-- The direction in which an automaton reads. -/
inductive Direction where
  | forwards
  | backwards
deriving DecidableEq, Repr

/-- The size of a part of an automaton: the number of states, and the bytes that they hold beside
their fixed size. -/
structure Extent where
  states : Nat
  held : Nat
deriving DecidableEq, Repr

namespace Extent

/-- The bytes that each state takes. -/
def perState : Nat := 32

/-- The bytes that a link to a state takes. -/
def perLink : Nat := 4

/-- The bytes that a range of bytes with its link takes. -/
def perRange : Nat := 8

/-- The bytes that an automaton may take. -/
def limit : Nat := 10485760

/-- All bytes. -/
def total (e : Extent) : Nat := perState * e.states + e.held

/-- Two parts together. -/
def add (e f : Extent) : Extent := ⟨e.states + f.states, e.held + f.held⟩

end Extent

/-! ### Outlines -/

/-- Counts an automaton as it grows, and fails when it grows beyond the limit. -/
abbrev Outline := StateT Extent Option

namespace Outline

/-- The automaton grows. -/
def grow (e : Extent) : Outline Unit := do
  let whole := (← get).add e
  if Extent.limit < whole.total then failure
  set whole

/-- A new state, which is known by the number of states before it. -/
def state (held : Nat) : Outline Nat := do
  let number := (← get).states
  grow ⟨1, held⟩
  return number

/-- A new state that holds nothing. -/
def plain : Outline Unit := grow ⟨1, 0⟩

/-- Links from branches. -/
def links (count : Nat) : Outline Unit := grow ⟨0, count * Extent.perLink⟩

/-- The link from the end of a part to what comes next. It takes room only if the end is a branch.
-/
def leave (branches : Bool) : Outline Unit :=
  if branches then links 1 else pure ()

end Outline

/-- The outline of a part of an automaton. It says whether the part ends in a branch. -/
abbrev Part := Outline Bool

/-! ### Shared states -/

/-- The states made last, by what they hold. -/
structure Recall where
  capacity : Nat
  slots : Std.HashMap Nat (List Nat × Nat)

namespace Recall

/-- No states yet. -/
def empty (capacity : Nat) : Recall := ⟨capacity, ∅⟩

/-- The slot for a state: the numbers it holds are mixed into a word of 64 bits one by one. -/
def slot (m : Recall) (key : List Nat) : Nat :=
  let mixed : UInt64 :=
    key.foldl (fun h n => (h ^^^ n.toUInt64) * 1099511628211) 14695981039346656037
  mixed.toNat % m.capacity

end Recall

/-- An outline that may share states made before. -/
abbrev SharingOutline := StateT Recall Outline

/-- The state that holds the given numbers: the one remembered, or a new one. -/
def SharingOutline.share (key : List Nat) (held : Nat) : SharingOutline Nat := do
  let m ← get
  let slot := m.slot key
  match m.slots[slot]? with
  | some (known, number) => if known == key then return number
  | none => pure ()
  let number ← (Outline.state held : Outline Nat)
  set { m with slots := m.slots.insert slot (key, number) }
  return number

/-! ### Classes -/

/-- The state from which sequences of byte ranges lead to the state `target`. Sequences that begin
with the same range stand together and go on from one state. -/
def sharedTree (target : Nat) : Nat → List (List ByteRange) → SharingOutline Nat
  | 0, _ => return target
  | depth + 1, sequences => do
    if sequences.all (·.isEmpty) then return target
    let mut key := []
    for group in sequences.splitBy (fun s t => s.head? == t.head?) do
      if let some r := group.head?.bind List.head? then
        let next ← sharedTree target depth (group.map (·.drop 1))
        key := key ++ [r.first, r.last, next]
    SharingOutline.share key (key.length / 3 * Extent.perRange)

/-- The last states of a sequence of byte ranges read backwards, from the state `target`. -/
def sharedPath (target : Nat) : List ByteRange → SharingOutline Nat
  | [] => return target
  | r :: rest => do
    let next ← SharingOutline.share [target, r.first, r.last] 0
    sharedPath next rest

/-- The longest encoding of a character. -/
def longestEncoding : Nat := 4

/-- A character of a set. -/
def outlineSet (d : Direction) (s : CharSet) : Part := do
  if s.isBasic then
    Outline.plain
    let _ ← Outline.state (s.ranges.length * Extent.perRange)
    return false
  let sequences := s.ranges.flatMap CharRange.byteSequences
  match d with
  | .forwards =>
    let target ← Outline.state 0
    let _ ← (sharedTree target longestEncoding sequences).run (.empty 10000)
    return false
  | .backwards =>
    Outline.plain
    let target ← Outline.state 0
    let paths : SharingOutline Unit := sequences.forM fun s => do
      let _ ← sharedPath target s
      (Outline.links 1 : Outline Unit)
    let _ ← paths.run (.empty 1000)
    return false

/-! ### Texts -/

/-- The bytes of a text. -/
def bytesOf (cs : List Char) : List Nat :=
  cs.flatMap fun c => Text.utf8 c.toNat

/-- Words cut at those that are empty. -/
def cutAtEmpty : List (List Nat) → List (List (List Nat))
  | [] => [[]]
  | [] :: rest => [] :: cutAtEmpty rest
  | word :: rest =>
    match cutAtEmpty rest with
    | [] => [[word]]
    | chunk :: chunks => (word :: chunk) :: chunks

/-- The size of a tree of words, its last state left out. The order of the words is kept: where a
word ends, the words before it and those after it are apart. -/
def wordTree : Nat → List (List Nat) → Extent
  | 0, _ => ⟨0, 0⟩
  | depth + 1, words =>
    if words.all (·.isEmpty) then ⟨0, 0⟩
    else
      let words := match words with
        | [] :: rest => [] :: rest.dropWhile (·.isEmpty)
        | words => words
      let chunks := cutAtEmpty words
      let ofChunk (chunk : List (List Nat)) : Extent :=
        let heads := (chunk.filterMap List.head?).eraseDups
        let below := heads.map fun b =>
          wordTree depth ((chunk.filter (·.head? == some b)).map (·.drop 1))
        let own : Extent := match heads with
          | [] => ⟨0, 0⟩
          | [_] => ⟨1, Extent.perLink⟩
          | heads => ⟨1, heads.length * Extent.perRange + Extent.perLink⟩
        below.foldl Extent.add own
      (chunks.map ofChunk).foldl Extent.add ⟨1, (chunks.length - 1) * Extent.perLink⟩

/-- The texts of alternatives, if all of them are texts. -/
def texts? (rs : List RegexTree) : Option (List (List Char)) :=
  rs.mapM fun
    | .text cs => some cs
    | _ => none

/-- A choice between texts. -/
def outlineWords (d : Direction) (words : List (List Char)) : Part := do
  let encoded := words.map bytesOf
  let read := match d with
    | .forwards => encoded
    | .backwards => encoded.map List.reverse
  Outline.plain
  Outline.grow (wordTree ((read.map List.length).foldl max 0 + 1) read)
  return false

/-! ### Sequences, choices and repetitions -/

/-- Parts that follow a part that ends as given. -/
def follow (branches : Bool) : List Part → Part
  | [] => return branches
  | part :: rest => do
    let next ← part
    Outline.leave branches
    follow next rest

/-- Parts one after the other. -/
def inSequence : List Part → Part
  | [] => do
    Outline.plain
    return false
  | part :: rest => do follow (← part) rest

/-- Copies of a part that follow one that ends as given. -/
def followCopies (part : Part) : Nat → Bool → Part
  | 0, branches => return branches
  | count + 1, branches => do
    let next ← part
    Outline.leave branches
    followCopies part count next

/-- Copies of a part. -/
def copies (part : Part) : Nat → Part
  | 0 => do
    Outline.plain
    return false
  | count + 1 => do followCopies part count (← part)

/-- Optional copies of a part, each inside the one before. -/
def optionalCopies (part : Part) : Nat → Bool → Part
  | 0, branches => return branches
  | count + 1, branches => do
    Outline.plain
    let next ← part
    Outline.leave branches
    Outline.links 2
    optionalCopies part count next

/-- An alternative of a choice. -/
def alternative (part : Part) : Outline Unit := do
  let branches ← part
  Outline.links 1
  Outline.leave branches

/-- A choice between parts. -/
def inChoice (parts : List Part) : Part := do
  (parts.take 2).forM alternative
  Outline.grow ⟨2, 0⟩
  (parts.drop 2).forM alternative
  return false

/-- A part that may be passed over. -/
def optional (part : Part) : Part := do
  Outline.plain
  let branches ← part
  Outline.plain
  Outline.links 2
  Outline.leave branches
  return false

/-- A part any number of times. -/
def loop (consumes : Bool) (part : Part) : Part := do
  if consumes then
    Outline.plain
    Outline.leave (← part)
    Outline.links 1
    return true
  else
    Outline.leave (← part)
    Outline.grow ⟨3, 0⟩
    Outline.links 4
    return false

/-- A part at least as many times as given. -/
def atLeast (consumes : Bool) (part : Part) : Nat → Part
  | 0 => loop consumes part
  | 1 => do
    Outline.leave (← part)
    Outline.plain
    Outline.links 1
    return true
  | count + 2 => do
    let before ← copies part (count + 1)
    let last ← part
    Outline.plain
    Outline.leave before
    Outline.leave last
    Outline.links 1
    return true

/-- A part repeated. -/
def timesOutline (consumes : Bool) (part : Part) (least : Nat) : Option Nat → Part
  | none => atLeast consumes part least
  | some most =>
    if least == 0 && most == 1 then optional part
    else if least == most then copies part least
    else do
      let before ← copies part least
      Outline.plain
      Outline.leave (← optionalCopies part (most - least) before)
      return false

/-! ### Expressions -/

mutual

/-- The least number of characters of a match, if there is one. -/
def leastLength? : RegexTree → Option Nat
  | .empty => some 0
  | .text cs => some cs.length
  | .char s => if s.ranges.isEmpty then none else some 1
  | .anchor _ => some 0
  | .group _ r => leastLength? r
  | .sequence rs => (leastLengths? rs).map List.sum
  | .choice rs => (leastLengths? rs).bind List.min?
  | .times r least _ => (leastLength? r).map (least * ·)
termination_by structural r => r

/-- The least lengths of several expressions, if all can match. -/
def leastLengths? : List RegexTree → Option (List Nat)
  | [] => some []
  | r :: rest =>
    match leastLength? r, leastLengths? rest with
    | some n, some ns => some (n :: ns)
    | _, _ => none
termination_by structural rs => rs

end

/-- Every match consumes a character. -/
def consumes (r : RegexTree) : Bool :=
  (leastLength? r).any (0 < ·)

mutual

/-- The outline of an expression. -/
def outline (d : Direction) : RegexTree → Part
  | .empty => do
    Outline.plain
    return false
  | .text cs => do
    Outline.grow ⟨(bytesOf cs).length, 0⟩
    return false
  | .char s => outlineSet d s
  | .anchor _ => do
    Outline.plain
    return false
  | .group _ r =>
    match d with
    | .forwards => do
      Outline.plain
      let branches ← outline d r
      Outline.plain
      Outline.leave branches
      return false
    | .backwards => outline d r
  | .sequence rs =>
    match d with
    | .forwards => inSequence (outlines d rs)
    | .backwards => inSequence (outlines d rs).reverse
  | .choice rs =>
    match texts? rs with
    | some words => outlineWords d words
    | none => inChoice (outlines d rs)
  | .times r least most => timesOutline (consumes r) (outline d r) least most
termination_by structural r => r

/-- The outlines of several expressions. -/
def outlines (d : Direction) : List RegexTree → List Part
  | [] => []
  | r :: rest => outline d r :: outlines d rest
termination_by structural rs => rs

end

mutual

/-- Every match begins at the start of the text. -/
def beginsText : RegexTree → Bool
  | .anchor a => a == .textStart
  | .group _ r => beginsText r
  | .sequence rs => oneBeginsText rs
  | .choice rs => allBeginText rs
  | .times r least _ => 0 < least && beginsText r
  | _ => false
termination_by structural r => r

/-- Among the parts of a sequence up to the first that can consume a character, one begins at the
start of the text. -/
def oneBeginsText : List RegexTree → Bool
  | [] => false
  | r :: rest => beginsText r || (r.isWidthless && oneBeginsText rest)
termination_by structural rs => rs

/-- Each of the alternatives begins at the start of the text. -/
def allBeginText : List RegexTree → Bool
  | [] => true
  | r :: rest => beginsText r && allBeginText rest
termination_by structural rs => rs

end

mutual

/-- Every match ends at the end of the text. -/
def endsText : RegexTree → Bool
  | .anchor a => a == .textEnd
  | .group _ r => endsText r
  | .sequence rs => oneEndsText rs
  | .choice rs => allEndText rs
  | .times r least _ => 0 < least && endsText r
  | _ => false
termination_by structural r => r

/-- Among the parts of a sequence from the last that can consume a character on, one ends at the end
of the text. -/
def oneEndsText : List RegexTree → Bool
  | [] => false
  | r :: rest => oneEndsText rest || (RegexTree.areWidthless rest && endsText r)
termination_by structural rs => rs

/-- Each of the alternatives ends at the end of the text. -/
def allEndText : List RegexTree → Bool
  | [] => true
  | r :: rest => endsText r && allEndText rest
termination_by structural rs => rs

end

/-- The outline of a whole automaton. Unless every match begins where reading begins, a loop over
all bytes comes first. -/
def outlineWhole (d : Direction) (r : RegexTree) : Outline Unit := do
  let fixed := match d with
    | .forwards => beginsText r
    | .backwards => endsText r
  if fixed then Outline.plain
  else
    Outline.grow ⟨3, Extent.perRange⟩
    Outline.links 1
  let branches ← outline d (.group 0 r)
  Outline.plain
  Outline.leave branches
  if fixed then return
  Outline.links 1

/-- The automata of an expression fit into the limit. -/
def fits (r : RegexTree) : Bool :=
  ((outlineWhole .forwards r).run ⟨0, 0⟩).isSome &&
    ((outlineWhole .backwards r).run ⟨0, 0⟩).isSome

end StructMatch.Regex
