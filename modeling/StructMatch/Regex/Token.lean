import StructMatch.Regex.Basic
import StructMatch.Regex.CharClass
import StructMatch.Regex.Property
import StructMatch.Text.Alphanumeric

/-!
# The tokens of a regular expression

The text of a regular expression is first cut into tokens: characters, classes, anchors,
repetitions, bars and the two ends of groups. A bracketed class is one token and is read here in
full, with its ranges, nested classes and set operations.

Escapes: a backslash before punctuation means the character itself, a few letters stand for
controls, classes or anchors, hexadecimal digits name a character, a property of characters is named
by its letter or between braces, and every other letter or digit is refused; so are references back
to groups and groups that look around.

A flag lets an expression be written with blanks and comments between its parts. It changes where
tokens end, so it is in force while they are cut, and ends with the group it is set in.
-/

namespace StructMatch.Regex

/-- Why a text is no regular expression. -/
inductive SyntaxFault where
  | danglingBackslash
  | unknownEscape (c : Char)
  | backReference
  | badCharacterNumber
  | unknownProperty
  | badWordPlace
  | unclosedClass
  | anchorInClass
  | reversedRange
  | rangeOfClass
  | lookAround
  | badGroupName
  | duplicateGroupName
  | unknownFlag
  | duplicateFlag
  | danglingFlags
  | unclosedGroup
  | unopenedGroup
  | nothingToRepeat
  | badRepetition
  | beyondBasic
  | tooDeep
  | tooLarge
deriving DecidableEq, Repr

/-- A mode that part of an expression can be read in. -/
inductive Flag where
  | ignoreCase
  | multiLine
  | dotNewline
  | swapGreed
  | unicode
  | crlf
  | verbose
deriving DecidableEq, Repr

/-- Flags to be set or cleared. -/
abbrev FlagChange := List (Flag × Bool)

/-- What a group is for: it is numbered, and may have a name, or it only holds parts together and
may change flags for them. -/
inductive GroupKind where
  | numbered (name : Option String)
  | plain (change : FlagChange)
deriving Repr

/-- One token. A character that is written by two hexadecimal digits can also mean a byte, so it is
told from others. -/
inductive Token where
  | char (c : Char)
  | byte (c : Char)
  | dot
  | set (s : CharClass)
  | lineStart
  | lineEnd
  | textStart
  | textEnd
  | word (place : WordPlace)
  | bar
  | openGroup (kind : GroupKind)
  | closeGroup
  | flags (change : FlagChange)
  | times (least : Nat) (most : Option Nat)

/-! ### Reading characters -/

/-- The characters ahead, and whether blanks and comments between parts are passed over. -/
structure Cursor where
  ahead : List Char
  verbose : Bool

/-- Reads from a list of characters and may find fault with it. -/
abbrev Reader := StateT Cursor (Except SyntaxFault)

/-- The characters after blanks and comments. A comment goes on to the end of its line. -/
def dropBlanks (inComment : Bool) : List Char → List Char
  | [] => []
  | c :: rest =>
    if inComment then dropBlanks (c != '\n') rest
    else if Text.isBlank c then dropBlanks false rest
    else if c == '#' then dropBlanks true rest
    else c :: rest

namespace Reader

/-- The character ahead. -/
def peek : Reader (Option Char) := do
  return (← get).ahead.head?

/-- The character after the one ahead. Blanks before it are passed over, and so is the sign of one
comment, but not its text. -/
def peekBeyond : Reader (Option Char) := do
  let cursor ← get
  let rest := cursor.ahead.drop 1
  if !cursor.verbose then return rest.head?
  match rest.dropWhile Text.isBlank with
  | '#' :: comment => return (comment.dropWhile Text.isBlank).head?
  | beyond => return beyond.head?

/-- Step over the character ahead. -/
def skip : Reader Unit :=
  modify fun cursor => { cursor with ahead := cursor.ahead.drop 1 }

/-- Step over blanks and comments if they do not count. -/
def skipBlanks : Reader Unit :=
  modify fun cursor =>
    if cursor.verbose then { cursor with ahead := dropBlanks false cursor.ahead } else cursor

/-- The next character, or a fault at the end of the text. -/
def next (fault : SyntaxFault) : Reader Char := do
  match ← peek with
  | none => throw fault
  | some c =>
    skip
    return c

/-- Step over the given characters if they are ahead. -/
def eat (expected : List Char) : Reader Bool := do
  let cursor ← get
  if expected.isPrefixOf cursor.ahead then
    set { cursor with ahead := cursor.ahead.drop expected.length }
    return true
  else
    return false

/-- The longest run of characters ahead that pass the test. -/
def takeWhile (test : Char → Bool) : Reader (List Char) := do
  let cursor ← get
  set { cursor with ahead := cursor.ahead.dropWhile test }
  return cursor.ahead.takeWhile test

/-- At most the given number of characters ahead that pass the test, with blanks after each. -/
def takeSpacedRounds (test : Char → Bool) : Nat → Reader (List Char)
  | 0 => return []
  | rounds + 1 => do
    match ← peek with
    | none => return []
    | some c =>
      if !test c then return []
      skip
      skipBlanks
      return c :: (← takeSpacedRounds test rounds)

/-- The longest run of characters ahead that pass the test, with blanks after each. -/
def takeSpaced (test : Char → Bool) : Reader (List Char) := do
  takeSpacedRounds test (← get).ahead.length

end Reader

/-! ### Escapes -/

/-- The value of a hexadecimal digit. -/
def hexValue? (c : Char) : Option Nat :=
  if c.isDigit then some (c.toNat - '0'.toNat)
  else if 'a' ≤ c && c ≤ 'f' then some (c.toNat - 'a'.toNat + 10)
  else if 'A' ≤ c && c ≤ 'F' then some (c.toNat - 'A'.toNat + 10)
  else none

/-- The character whose number is written by hexadecimal digits; at least one digit is wanted. -/
def charOfHex? (digits : List Char) : Option Char := do
  if digits.isEmpty then none
  let n ← digits.foldlM (fun n c => (hexValue? c).map (n * 16 + ·)) 0
  if h : n.isValidChar then some (Char.ofNatAux n h) else none

/-- The rest of an escape by number: digits in braces, or as many digits as the letter asks for. -/
def hexEscape (count : Nat) : Reader Token := do
  Reader.skipBlanks
  let inBraces ← Reader.eat ['\x7b']
  Reader.skipBlanks
  let digits ←
    if inBraces then do
      let digits ← Reader.takeSpaced (· != '\x7d')
      let _ ← Reader.next .badCharacterNumber
      Reader.skipBlanks
      pure digits
    else do
      let digits ← Reader.takeSpacedRounds (fun _ => true) count
      if digits.length < count then throw .badCharacterNumber
      pure digits
  match charOfHex? digits with
  | some c => return if !inBraces && count == 2 then .byte c else .char c
  | none => throw .badCharacterNumber

/-- The rest of an escape by property: a name in braces, or one letter. -/
def propertyEscape (negated : Bool) : Reader Token := do
  Reader.skipBlanks
  let inBraces ← Reader.eat ['\x7b']
  let name ←
    if inBraces then do
      Reader.skipBlanks
      let name ← Reader.takeSpaced (· != '\x7d')
      let _ ← Reader.next .unknownProperty
      pure name
    else do
      let c ← Reader.next .unknownProperty
      Reader.skipBlanks
      pure [c]
  match if inBraces then Property.ofText? name else Property.ofName? name with
  | some s => return .set (.property negated s)
  | none => throw .unknownProperty

/-- The places that are named between braces after the letter of the border of a word. -/
def wordPlaces : List (String × WordPlace) :=
  [("start", .start), ("end", .stop), ("start-half", .startHalf), ("end-half", .stopHalf)]

/-- The rest of an escape for the border of a word. Braces after it name a particular side, unless
they begin like a repetition of the border. -/
def borderEscape : Reader Token := do
  let isNameChar (c : Char) := c.isAlpha || c == '-'
  let afterLetter ← get
  if !(← Reader.eat ['\x7b']) then return .word .border
  Reader.skipBlanks
  match ← Reader.peek with
  | none => throw .badWordPlace
  | some c =>
    if !isNameChar c then
      set afterLetter
      return .word .border
    let name ← Reader.takeSpaced isNameChar
    if !(← Reader.eat ['\x7d']) then throw .badWordPlace
    match wordPlaces.lookup (String.ofList name) with
    | some place => return .word place
    | none => throw .badWordPlace

/-- Punctuation and other characters of the basic alphabet that are neither letters nor digits mean
themselves after a backslash. The two angle brackets are anchors instead. -/
def isEscapable (c : Char) : Bool :=
  c.toNat < 128 && !c.isAlphanum && c != '<' && c != '>'

/-- The rest of an escape, after the backslash. -/
def escape : Reader Token := do
  let c ← Reader.next .danglingBackslash
  if isEscapable c then return .char c
  match c with
  | 'x' => hexEscape 2
  | 'u' => hexEscape 4
  | 'U' => hexEscape 8
  | 'p' => propertyEscape false
  | 'P' => propertyEscape true
  | 'd' => return .set (.digit false)
  | 'D' => return .set (.digit true)
  | 's' => return .set (.blank false)
  | 'S' => return .set (.blank true)
  | 'w' => return .set (.word false)
  | 'W' => return .set (.word true)
  | 'a' => return .char '\x07'
  | 'f' => return .char '\x0c'
  | 't' => return .char '\t'
  | 'n' => return .char '\n'
  | 'r' => return .char '\r'
  | 'v' => return .char '\x0b'
  | 'A' => return .textStart
  | 'z' => return .textEnd
  | 'b' => borderEscape
  | 'B' => return .word .notBorder
  | '<' => return .word .start
  | '>' => return .word .stop
  | c => throw (if c.isDigit then .backReference else .unknownEscape c)

/-! ### Bracketed classes -/

/-- An open bracket: what stands before the last operation, and the items since then, the latest
first. -/
structure Bracket where
  negated : Bool
  pending : Option (CharClass × SetOperation)
  items : List CharClass

namespace Bracket

/-- Add an item. -/
def add (b : Bracket) (c : CharClass) : Bracket :=
  { b with items := c :: b.items }

/-- The items joined to what stands before them. -/
def operand (b : Bracket) : CharClass :=
  let items := CharClass.union b.items.reverse
  match b.pending with
  | none => items
  | some (left, op) => .operation op left items

/-- Begin the right side of an operation; operations associate to the left. -/
def operate (b : Bracket) (op : SetOperation) : Bracket :=
  { b with pending := some (b.operand, op), items := [] }

/-- The class of the whole bracket. -/
def close (b : Bracket) : CharClass :=
  .bracket b.negated b.operand

end Bracket

/-- The named classes of the basic alphabet. -/
def namedClasses : List (String × List (Char × Char)) :=
  [("alnum", [('0', '9'), ('A', 'Z'), ('a', 'z')]),
   ("alpha", [('A', 'Z'), ('a', 'z')]),
   ("ascii", [('\x00', '\x7f')]),
   ("blank", [('\t', '\t'), (' ', ' ')]),
   ("cntrl", [('\x00', '\x1f'), ('\x7f', '\x7f')]),
   ("digit", [('0', '9')]),
   ("graph", [('!', '~')]),
   ("lower", [('a', 'z')]),
   ("print", [(' ', '~')]),
   ("punct", [('!', '/'), (':', '@'), ('[', '\x60'), ('\x7b', '~')]),
   ("space", [('\t', '\r'), (' ', ' ')]),
   ("upper", [('A', 'Z')]),
   ("word", [('0', '9'), ('A', 'Z'), ('_', '_'), ('a', 'z')]),
   ("xdigit", [('0', '9'), ('A', 'F'), ('a', 'f')])]

/-- A named class such as `[:alpha:]`, if one is ahead; otherwise nothing is read. -/
def namedClass? : Reader (Option CharClass) := do
  let start ← get
  if ← Reader.eat ['[', ':'] then
    let negated ← Reader.eat ['^']
    let name ← Reader.takeWhile (· != ':')
    if ← Reader.eat [':', ']'] then
      if let some ranges := namedClasses.lookup (String.ofList name) then
        return some (.named negated ranges)
  set start
  return none

/-- The rest of an opening bracket: a caret negates, hyphens that come first mean themselves, and so
does a closing bracket that comes first of all. -/
def openBracket : Reader Bracket := do
  Reader.skipBlanks
  let negated ← Reader.eat ['^']
  Reader.skipBlanks
  let hyphens ← Reader.takeSpaced (· == '-')
  if !hyphens.isEmpty then return ⟨negated, none, hyphens.map .single⟩
  if ← Reader.eat [']'] then return ⟨negated, none, [.single ']']⟩
  return ⟨negated, none, []⟩

/-- One end of a range, or a class that stands alone. -/
def bracketAtom : Reader Token := do
  let c ← Reader.next .unclosedClass
  if c == '\\' then escape else return .char c

/-- The class that a part of a bracket stands for by itself. -/
def Token.asClass : Token → Except SyntaxFault CharClass
  | .char c | .byte c => .ok (.single c)
  | .set s => .ok s
  | _ => .error .anchorInClass

/-- The character that a part of a bracket names as the end of a range. -/
def Token.asChar : Token → Except SyntaxFault Char
  | .char c | .byte c => .ok c
  | _ => .error .rangeOfClass

/-- An item of a bracket: a range, or a character or class alone. A hyphen before a closing bracket
or before another hyphen makes no range. -/
def bracketItem : Reader CharClass := do
  let first ← bracketAtom
  Reader.skipBlanks
  match ← Reader.peek with
  | none => throw .unclosedClass
  | some '-' =>
    match ← Reader.peekBeyond with
    | some ']' | some '-' => first.asClass
    | _ =>
      Reader.skip
      Reader.skipBlanks
      let last ← bracketAtom
      let low ← first.asChar
      let high ← last.asChar
      if high < low then throw .reversedRange
      return .range low high
  | some _ => first.asClass

/-- The operation ahead, if there is one. -/
def operation? : Reader (Option SetOperation) := do
  if ← Reader.eat ['&', '&'] then return some .inter
  if ← Reader.eat ['-', '-'] then return some .diff
  if ← Reader.eat ['~', '~'] then return some .symmDiff
  return none

/-- Read up to the end of the outermost bracket. Every round reads at least one character, so a
number of rounds beyond the length of the text is never used up. -/
def bracketRounds : Nat → Bracket → List Bracket → Reader CharClass
  | 0, _, _ => throw .unclosedClass
  | rounds + 1, top, outer => do
    Reader.skipBlanks
    match ← Reader.peek with
    | none => throw .unclosedClass
    | some '[' =>
      match ← namedClass? with
      | some s => bracketRounds rounds (top.add s) outer
      | none =>
        Reader.skip
        let inner ← openBracket
        bracketRounds rounds inner (top :: outer)
    | some ']' =>
      Reader.skip
      match outer with
      | [] => return top.close
      | below :: others => bracketRounds rounds (below.add top.close) others
    | some _ =>
      match ← operation? with
      | some operation => bracketRounds rounds (top.operate operation) outer
      | none => bracketRounds rounds (top.add (← bracketItem)) outer

/-- The rest of a bracketed class, after its opening bracket. -/
def bracketed : Reader CharClass := do
  let first ← openBracket
  bracketRounds ((← get).ahead.length + 1) first []

/-! ### Groups and flags -/

/-- The characters of group names: letters and underscores, and from the second one on also numbers,
dots and brackets. -/
def isNameChar (first : Bool) (c : Char) : Bool :=
  c == '_' || Text.isAlphabetic c
    || (!first && (Text.isNumeric c || c == '.' || c == '[' || c == ']'))

/-- The rest of a group name, up to and over its closing angle bracket. -/
def groupName : Reader String := do
  let name ← Reader.takeWhile (· != '>')
  let _ ← Reader.next .badGroupName
  match name with
  | [] => throw .badGroupName
  | c :: rest =>
    if isNameChar true c && rest.all (isNameChar false) then
      return String.ofList name
    else
      throw .badGroupName

/-- The flag a letter stands for. -/
def flag? : Char → Option Flag
  | 'i' => some .ignoreCase
  | 'm' => some .multiLine
  | 's' => some .dotNewline
  | 'U' => some .swapGreed
  | 'u' => some .unicode
  | 'R' => some .crlf
  | 'x' => some .verbose
  | _ => none

/-- Flags written as letters, those after a hyphen cleared. No flag and no hyphen may come twice,
and a hyphen may not come last. -/
def flagChange (value : Bool) : List Char → Except SyntaxFault FlagChange
  | [] => .ok []
  | '-' :: rest =>
    if value && !rest.isEmpty then flagChange false rest
    else .error .danglingFlags
  | c :: rest => do
    match flag? c with
    | none => throw .unknownFlag
    | some flag =>
      let others ← flagChange value rest
      if others.any (·.1 == flag) then throw .duplicateFlag
      return (flag, value) :: others

/-- The rest of an opening parenthesis: a plain or a named group, flags for the rest of the group
around, or a group with flags of its own. -/
def openParen : Reader Token := do
  Reader.skipBlanks
  let cs := (← get).ahead
  if [['?', '='], ['?', '!'], ['?', '<', '='], ['?', '<', '!']].any (·.isPrefixOf cs) then
    throw .lookAround
  if ← Reader.eat ['?', 'P', '<'] then return .openGroup (.numbered (some (← groupName)))
  if ← Reader.eat ['?', '<'] then return .openGroup (.numbered (some (← groupName)))
  if ← Reader.eat ['?'] then
    let letters ← Reader.takeWhile fun c => c != ':' && c != ')'
    let last ← Reader.next .unclosedGroup
    let change ← flagChange true letters
    if last == ':' then return .openGroup (.plain change)
    if change.isEmpty then throw .nothingToRepeat
    return .flags change
  return .openGroup (.numbered none)

/-! ### Repetition -/

/-- The greatest count that a repetition can name. -/
def greatestCount : Nat := 0xffffffff

/-- A count in decimal digits with blanks around them, if there is a digit. -/
def count? : Reader (Option Nat) := do
  let _ ← Reader.takeWhile Text.isBlank
  let digits ← Reader.takeSpaced (·.isDigit)
  let _ ← Reader.takeWhile Text.isBlank
  if digits.isEmpty then return none
  let n := digits.foldl (fun n c => n * 10 + (c.toNat - '0'.toNat)) 0
  if greatestCount < n then throw .badRepetition
  return some n

/-- The rest of a counted repetition, after its opening brace, with the mark that makes it prefer
few rounds. -/
def counts : Reader Token := do
  Reader.skipBlanks
  let some least ← count? | throw .badRepetition
  let most ←
    if ← Reader.eat [','] then
      Reader.skipBlanks
      if (← Reader.peek) == some '\x7d' then pure none
      else
        let some most ← count? | throw .badRepetition
        pure (some most)
    else
      pure (some least)
  if !(← Reader.eat ['\x7d']) then throw .badRepetition
  Reader.skipBlanks
  let _ ← Reader.eat ['?']
  if most.any (· < least) then throw .badRepetition
  return .times least most

/-- A repetition without counts, with the mark that makes it prefer few rounds. -/
def repetition (least : Nat) (most : Option Nat) : Reader Token := do
  let _ ← Reader.eat ['?']
  return .times least most

/-! ### The token sequence -/

/-- The token that begins with the given character. -/
def token : Char → Reader Token
  | '\\' => escape
  | '[' => return .set (← bracketed)
  | '(' => openParen
  | ')' => return .closeGroup
  | '|' => return .bar
  | '.' => return .dot
  | '^' => return .lineStart
  | '$' => return .lineEnd
  | '*' => repetition 0 none
  | '+' => repetition 1 none
  | '?' => repetition 0 (some 1)
  | '\x7b' => counts
  | c => return .char c

/-- Whether blanks count after a token, where the settings of the groups around are given. A group
begins as it stands in the text unless its flags say otherwise, and gives back what was in force. -/
def trackVerbose (outer : List Bool) : Token → Reader (List Bool)
  | .openGroup kind => do
    let cursor ← get
    if let .plain change := kind then
      set { cursor with verbose := (change.lookup Flag.verbose).getD cursor.verbose }
    return cursor.verbose :: outer
  | .closeGroup => do
    modify fun cursor => { cursor with verbose := outer.head?.getD cursor.verbose }
    return outer.tail
  | .flags change => do
    modify fun cursor => { cursor with verbose := (change.lookup Flag.verbose).getD cursor.verbose }
    return outer
  | _ => return outer

/-- At most the given number of tokens. Every token reads at least one character, so as many tokens
as there are characters are all. -/
def tokenRounds : Nat → List Bool → Reader (List Token)
  | 0, _ => return []
  | rounds + 1, outer => do
    Reader.skipBlanks
    match ← Reader.peek with
    | none => return []
    | some c =>
      Reader.skip
      let t ← token c
      let outer ← trackVerbose outer t
      return t :: (← tokenRounds rounds outer)

/-- All tokens of a text. -/
def tokens (text : String) : Except SyntaxFault (List Token) :=
  (tokenRounds text.toList.length []).run' ⟨text.toList, false⟩

end StructMatch.Regex
