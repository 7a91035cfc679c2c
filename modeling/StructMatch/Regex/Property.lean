import StructMatch.Text.Alphanumeric
import StructMatch.Text.Blank
import StructMatch.Text.Category
import StructMatch.Text.Script
import StructMatch.Text.WordChar

/-!
# Properties of characters by name

A regular expression can name a property of characters: a general category or a group of them, a
script, or one of a few properties that are true or false of every character. A category and a
script may be named as the value of a property, all of them may stand alone.

Names are compared without regard to case. Blanks, hyphens and underscores in them do not count, nor
do characters outside the basic alphabet, nor does the word "is" in front. Other properties, such as
the edition a character appeared in, the classes that lines and sentences are broken by, or scripts
that share a character, are not known by any name here.
-/

namespace StructMatch.Regex.Property

/-- The form in which names are compared. Without its first two letters the name `isc` would be the
name of a category, so it is left as it is. -/
def normalize (name : List Char) : String :=
  let counts (c : Char) := c.toNat < 128 && c != ' ' && c != '_' && c != '-'
  let (hasIs, rest) := match name with
    | a :: b :: rest => if a.toLower == 'i' && b.toLower == 's' then (true, rest) else (false, name)
    | _ => (false, name)
  let short := (rest.filter counts).map Char.toLower
  String.ofList (if hasIs && short == ['c'] then ['i', 's', 'c'] else short)

/-- The characters of several tables. -/
def ofTables (tables : List (List Text.Stride)) : CharSet :=
  .unions (tables.map Text.setOfStrides)

/-- The table of digits as runs. -/
def digits : List Text.Stride :=
  Text.digitRanges.map fun r => ⟨r.first, r.last, 1⟩

/-- Letters of all kinds. -/
def letters : List (List Text.Stride) :=
  [Text.upperLetters, Text.lowerLetters, Text.titleLetters, Text.modifierLetters,
    Text.otherLetters]

/-- Marks of all kinds. -/
def marks : List (List Text.Stride) :=
  [Text.nonspacingMarks, Text.spacingMarks, Text.enclosingMarks]

/-- Numbers of all kinds. -/
def numbers : List (List Text.Stride) :=
  [digits, Text.letterNumbers, Text.otherNumbers]

/-- Punctuation of all kinds. -/
def punctuation : List (List Text.Stride) :=
  [Text.connectorPunctuation, Text.dashPunctuation, Text.openPunctuation, Text.closePunctuation,
    Text.initialPunctuation, Text.finalPunctuation, Text.otherPunctuation]

/-- Signs of all kinds. -/
def symbols : List (List Text.Stride) :=
  [Text.mathSymbols, Text.currencySymbols, Text.modifierSymbols, Text.otherSymbols]

/-- Separators of all kinds. -/
def separators : List (List Text.Stride) :=
  [Text.spaceSeparators, Text.lineSeparators, Text.paragraphSeparators]

/-- All tables of characters that show, stand on what shows, or separate it. -/
def visible : List (List Text.Stride) :=
  letters ++ marks ++ numbers ++ punctuation ++ symbols ++ separators

/-- All tables of characters that are assigned. -/
def assigned : List (List Text.Stride) :=
  visible ++ [Text.controls, Text.formats, Text.privateUse]

/-- The names of categories, and of groups of them, with their tables. -/
def categories : List (List String × List (List Text.Stride)) :=
  [(["l", "letter"], letters),
   (["lc", "casedletter"], [Text.upperLetters, Text.lowerLetters, Text.titleLetters]),
   (["lu", "uppercaseletter"], [Text.upperLetters]),
   (["ll", "lowercaseletter"], [Text.lowerLetters]),
   (["lt", "titlecaseletter"], [Text.titleLetters]),
   (["lm", "modifierletter"], [Text.modifierLetters]),
   (["lo", "otherletter"], [Text.otherLetters]),
   (["m", "mark", "combiningmark"], marks),
   (["mn", "nonspacingmark"], [Text.nonspacingMarks]),
   (["mc", "spacingmark"], [Text.spacingMarks]),
   (["me", "enclosingmark"], [Text.enclosingMarks]),
   (["n", "number"], numbers),
   (["nd", "decimalnumber", "digit"], [digits]),
   (["nl", "letternumber"], [Text.letterNumbers]),
   (["no", "othernumber"], [Text.otherNumbers]),
   (["p", "punctuation", "punct"], punctuation),
   (["pc", "connectorpunctuation"], [Text.connectorPunctuation]),
   (["pd", "dashpunctuation"], [Text.dashPunctuation]),
   (["ps", "openpunctuation"], [Text.openPunctuation]),
   (["pe", "closepunctuation"], [Text.closePunctuation]),
   (["pi", "initialpunctuation"], [Text.initialPunctuation]),
   (["pf", "finalpunctuation"], [Text.finalPunctuation]),
   (["po", "otherpunctuation"], [Text.otherPunctuation]),
   (["s", "symbol"], symbols),
   (["sm", "mathsymbol"], [Text.mathSymbols]),
   (["sc", "currencysymbol"], [Text.currencySymbols]),
   (["sk", "modifiersymbol"], [Text.modifierSymbols]),
   (["so", "othersymbol"], [Text.otherSymbols]),
   (["z", "separator"], separators),
   (["zs", "spaceseparator"], [Text.spaceSeparators]),
   (["zl", "lineseparator"], [Text.lineSeparators]),
   (["zp", "paragraphseparator"], [Text.paragraphSeparators]),
   (["cc", "control", "cntrl"], [Text.controls]),
   (["cf", "format"], [Text.formats]),
   (["co", "privateuse"], [Text.privateUse]),
   (["assigned"], assigned)]

/-- The characters of a category or of a group of categories. -/
def category? : String → Option CharSet
  | "any" => some (CharSet.complement .empty)
  | "ascii" => some .basic
  | "c" | "other" => some (ofTables visible).complement
  | "cn" | "unassigned" => some (ofTables assigned).complement
  | name => (categories.find? (·.1.contains name)).map fun entry => ofTables entry.2

/-- The characters of a script. -/
def script? (name : String) : Option CharSet :=
  (Text.scripts.find? (·.names.contains name)).map fun script => ⟨script.ranges⟩

/-- The last two code points of each plane, and a block of thirty-two, stand for no character. -/
def noncharacters : CharSet :=
  ⟨⟨0xFDD0, 0xFDEF⟩ :: (List.range 17).map fun plane =>
    ⟨plane * 0x10000 + 0xFFFE, plane * 0x10000 + 0xFFFF⟩⟩

/-- The characters that a property is true of. -/
def holding? : String → Option CharSet
  | "alpha" | "alphabetic" =>
    some (ofTables (letters ++ [Text.letterNumbers, Text.alphabeticMarks]))
  | "lower" | "lowercase" => some (ofTables [Text.lowerLetters, Text.otherLower])
  | "upper" | "uppercase" => some (ofTables [Text.upperLetters, Text.otherUpper])
  | "space" | "whitespace" | "wspace" => some ⟨Text.blankRanges⟩
  | "di" | "defaultignorablecodepoint" => some (ofTables [Text.ignorables])
  | "nchar" | "noncharactercodepoint" => some noncharacters
  | _ => none

/-- The characters of what a name stands for by itself. -/
def ofName? (name : List Char) : Option CharSet :=
  let name := normalize name
  holding? name <|> category? name <|> script? name

/-- The characters that have a value of a property. -/
def ofValue? (property value : List Char) : Option CharSet :=
  match normalize property with
  | "gc" | "generalcategory" => category? (normalize value)
  | "sc" | "script" => script? (normalize value)
  | _ => none

/-- The text before the first place where `mark` stands, and the text after it. -/
def cutAt? (mark : List Char) : List Char → Option (List Char × List Char)
  | [] => none
  | c :: rest =>
    if mark.isPrefixOf (c :: rest) then some ([], (c :: rest).drop mark.length)
    else (cutAt? mark rest).map fun (before, after) => (c :: before, after)

/-- The characters of a property as it is written between braces: a name, or the name of a property
and a value of it. A sign of inequality parts the two like the others, and does not negate. -/
def ofText? (text : List Char) : Option CharSet :=
  match cutAt? ['!', '='] text <|> cutAt? [':'] text <|> cutAt? ['='] text with
  | some (property, value) => ofValue? property value
  | none => ofName? text

end StructMatch.Regex.Property
