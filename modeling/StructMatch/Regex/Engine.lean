import StructMatch.Literal.Basic
import StructMatch.Regex.Grammar
import StructMatch.Regex.Matching

/-!
# The engine of regular expressions

The compiler of regular expressions that a program hands to `Literal.ofRegex`: the text is read as
an expression, and the literal tests whether it matches somewhere.
-/

namespace StructMatch.Regex

/-- A fault in words. -/
def SyntaxFault.message : SyntaxFault → String
  | .danglingBackslash => "nothing follows a backslash"
  | .unknownEscape c => "a backslash before " ++ String.ofList [c] ++ " has no meaning"
  | .backReference => "references back to groups are not supported"
  | .badCharacterNumber => "an escape by number names no character"
  | .unknownProperty => "no property of characters has this name"
  | .badWordPlace => "no border of a word has this name"
  | .unclosedClass => "a class is not closed"
  | .anchorInClass => "a class holds an escape that stands for no character"
  | .reversedRange => "a range ends before it begins"
  | .rangeOfClass => "an end of a range is not one character"
  | .lookAround => "groups that look around are not supported"
  | .badGroupName => "the name of a group is not well formed"
  | .duplicateGroupName => "two groups have the same name"
  | .unknownFlag => "no flag has this letter"
  | .duplicateFlag => "a flag comes twice"
  | .danglingFlags => "no flag follows a hyphen"
  | .unclosedGroup => "a group is not closed"
  | .unopenedGroup => "a group is closed that was not opened"
  | .nothingToRepeat => "a repetition has nothing to repeat"
  | .badRepetition => "the counts of a repetition are not well formed"
  | .beyondBasic => "only the basic alphabet can be named here"
  | .tooDeep => "the expression nests too deep"
  | .tooLarge => "the automaton of the expression is too large"

/-- The expression of a text, ready to be matched. -/
def compile : RegexCompiler := fun source =>
  match parse source with
  | .ok tree => .ok ⟨source, tree.matchesIn⟩
  | .error fault => .error fault.message

end StructMatch.Regex
