import StructMatch.Regex.Automaton
import StructMatch.Regex.Token

/-!
# From tokens to expressions

The tokens are read once, from left to right, over a stack of open groups. An open group holds the
alternatives that a bar has finished, the items of the alternative in progress, and the flags in
force. Flags set inside a group end with it. Every item carries its height, so that an expression
that nests too deep is refused.

A repetition applies to the item just read. At the start of a group or of an alternative there is
nothing to repeat, and neither is there after a setting of flags.
-/

namespace StructMatch.Regex

/-- The modes in force. -/
structure Modes where
  ignoreCase : Bool
  multiLine : Bool
  dotNewline : Bool
  crlf : Bool
  unicode : Bool
deriving DecidableEq, Repr

namespace Modes

/-- The modes an expression begins with. -/
def initial : Modes where
  ignoreCase := false
  multiLine := false
  dotNewline := false
  crlf := false
  unicode := true

/-- One flag set or cleared. Two of the flags do not change what matches: one is about the rounds
that a repetition prefers, the other about blanks between the tokens. -/
def update (m : Modes) : Flag × Bool → Modes
  | (.ignoreCase, value) => { m with ignoreCase := value }
  | (.multiLine, value) => { m with multiLine := value }
  | (.dotNewline, value) => { m with dotNewline := value }
  | (.crlf, value) => { m with crlf := value }
  | (.unicode, value) => { m with unicode := value }
  | (.swapGreed, _) => m
  | (.verbose, _) => m

/-- A class of characters as the modes read it. -/
def set (m : Modes) (c : CharClass) : Except SyntaxFault RegexTree :=
  match c.toSet? ⟨m.ignoreCase, m.unicode⟩ with
  | some s => .ok (.ofSet s)
  | none => .error .beyondBasic

/-- A character as the modes read it. One beyond the basic alphabet stands for itself even where
only that alphabet is known. -/
def char (m : Modes) (c : Char) : Except SyntaxFault RegexTree :=
  if m.unicode || c.toNat < 0x80 then m.set (.single c) else .ok (.text [c])

/-- Any character as the modes read it: all, or all but those that end a line. -/
def anyChar (m : Modes) : Except SyntaxFault RegexTree :=
  let ends : CharSet :=
    if m.dotNewline then .empty
    else if m.crlf then .unions [.single '\n', .single '\r']
    else .single '\n'
  if m.unicode then .ok (.ofSet ends.complement) else .error .beyondBasic

/-- The start of a line as the modes read it. -/
def lineStart (m : Modes) : Anchor :=
  if m.multiLine then .lineStart m.crlf else .textStart

/-- The end of a line as the modes read it. -/
def lineEnd (m : Modes) : Anchor :=
  if m.multiLine then .lineEnd m.crlf else .textEnd

end Modes

/-- An expression and how deep it nests. -/
structure Item where
  tree : RegexTree
  height : Nat

namespace Item

/-- An item that does not nest. -/
def flat (r : RegexTree) : Item := ⟨r, 0⟩

/-- Items one after the other. -/
def inSequence (items : List Item) : Item :=
  ⟨.ofSequence (items.map tree), Nesting.sideBySide (items.map height)⟩

/-- A choice between items. -/
def inChoice (items : List Item) : Item :=
  ⟨.ofChoice (items.map tree), Nesting.sideBySide (items.map height)⟩

/-- An item repeated. -/
def times (item : Item) (least : Nat) (most : Option Nat) : Item :=
  ⟨.repeated item.tree least most, item.height + 1⟩

/-- An item in a group, which may have a number. -/
def inGroup (item : Item) (number : Option Nat) : Item :=
  match number with
  | some n => ⟨.group n item.tree, item.height + 1⟩
  | none => ⟨item.tree, item.height + 1⟩

end Item

/-- An open group, or the whole expression. Alternatives and items are held with the latest first.
-/
structure Group where
  number : Option Nat
  modes : Modes
  branches : List Item
  items : List Item
  repeatable : Bool

namespace Group

/-- A group just opened. -/
def begin (number : Option Nat) (modes : Modes) : Group := ⟨number, modes, [], [], false⟩

/-- Add an item. -/
def add (g : Group) (item : Item) : Group :=
  { g with items := item :: g.items, repeatable := true }

/-- Change flags for the items to come. The change stands among the items and matches nothing. -/
def setFlags (g : Group) (change : FlagChange) : Group :=
  { g with
    modes := change.foldl Modes.update g.modes
    items := .flat .empty :: g.items
    repeatable := false }

/-- Finish the alternative in progress and begin the next one. -/
def bar (g : Group) : Group :=
  { g with
    branches := .inSequence g.items.reverse :: g.branches
    items := []
    repeatable := false }

/-- All alternatives. -/
def close (g : Group) : Item :=
  .inChoice g.bar.branches.reverse

/-- Repeat the item just read. -/
def times (g : Group) (least : Nat) (most : Option Nat) : Except SyntaxFault Group :=
  match g.repeatable, g.items with
  | true, item :: rest => .ok { g with items := item.times least most :: rest }
  | _, _ => .error .nothingToRepeat

end Group

/-- The groups open at a point of the text, the innermost first, the number of groups numbered so
far, and the group names seen. -/
structure Progress where
  top : Group
  outer : List Group
  numbered : Nat
  names : List String

namespace Progress

/-- Nothing read yet. -/
def start : Progress := ⟨.begin none .initial, [], 0, []⟩

/-- Add an item to the innermost group. -/
def add (p : Progress) (item : Item) : Progress :=
  { p with top := p.top.add item }

/-- Open a group. -/
def openGroup (p : Progress) : GroupKind → Except SyntaxFault Progress
  | .numbered name => do
    if name.any p.names.contains then throw .duplicateGroupName
    let number := p.numbered + 1
    return ⟨.begin (some number) p.top.modes, p.top :: p.outer, number, name.toList ++ p.names⟩
  | .plain change =>
    .ok { p with
      top := .begin none (change.foldl Modes.update p.top.modes)
      outer := p.top :: p.outer }

/-- Add an item that does not nest. -/
def addFlat (p : Progress) (r : RegexTree) : Progress :=
  p.add (.flat r)

/-- Take in one token. -/
def step (p : Progress) : Token → Except SyntaxFault Progress
  | .char c => p.addFlat <$> p.top.modes.char c
  | .byte c => p.addFlat <$> p.top.modes.set (.single c)
  | .set c => do return p.add ⟨← p.top.modes.set c, c.height⟩
  | .dot => p.addFlat <$> p.top.modes.anyChar
  | .lineStart => .ok (p.addFlat (.anchor p.top.modes.lineStart))
  | .lineEnd => .ok (p.addFlat (.anchor p.top.modes.lineEnd))
  | .textStart => .ok (p.addFlat (.anchor .textStart))
  | .textEnd => .ok (p.addFlat (.anchor .textEnd))
  | .word place => .ok (p.addFlat (.anchor (.word place p.top.modes.unicode)))
  | .bar => .ok { p with top := p.top.bar }
  | .flags change => .ok { p with top := p.top.setFlags change }
  | .openGroup kind => p.openGroup kind
  | .closeGroup =>
    match p.outer with
    | [] => .error .unopenedGroup
    | below :: others =>
      .ok { p with top := below.add (p.top.close.inGroup p.top.number), outer := others }
  | .times least most => do
    return { p with top := ← p.top.times least most }

end Progress

/-- The expression that tokens spell, unless it nests too deep or its automaton is too large. -/
def ofTokens (ts : List Token) : Except SyntaxFault RegexTree := do
  let p ← ts.foldlM Progress.step .start
  if !p.outer.isEmpty then throw .unclosedGroup
  let whole := p.top.close
  if Nesting.greatestHeight < whole.height then throw .tooDeep
  if !fits whole.tree then throw .tooLarge
  return whole.tree

/-- Read a regular expression. -/
def parse (source : String) : Except SyntaxFault RegexTree := do
  ofTokens (← tokens source)

end StructMatch.Regex
