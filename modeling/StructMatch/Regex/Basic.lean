import StructMatch.Text.CharSet
import StructMatch.Text.WordChar

/-!
# Regular expressions

The tree of a regular expression. Beside the characters it consumes, an expression can state a
condition on the place it stands at: an end of the text, an end of a line, or how the place lies to
words. Repetition has a least count and, unless it is open, a greatest one; whether it prefers few
rounds or many does not matter to the question of this library, which is only whether there is a
match. Neither does a group by itself, but its number tells it from other groups.

Lines end with a line feed, or in another mode with a carriage return, a line feed, or both; no line
begins or ends between the two. Words are made of the letters of all scripts, or in another mode of
those of the basic alphabet only.
-/

namespace StructMatch

/-- How a place lies to words: at either side of one or at neither, or at one side in particular.
The last two look at one neighbour only. -/
inductive WordPlace where
  | border
  | notBorder
  | start
  | stop
  | startHalf
  | stopHalf
deriving DecidableEq, Repr, Inhabited

/-- The place lies so between neighbours of which it is known whether they belong to words. -/
def WordPlace.holds : WordPlace → Bool → Bool → Bool
  | .border, left, right => left != right
  | .notBorder, left, right => left == right
  | .start, left, right => !left && right
  | .stop, left, right => left && !right
  | .startHalf, left, _ => !left
  | .stopHalf, _, right => !right

/-- A condition on a place between two characters. -/
inductive Anchor where
  | textStart
  | textEnd
  | lineStart (crlf : Bool)
  | lineEnd (crlf : Bool)
  | word (place : WordPlace) (unicode : Bool)
deriving DecidableEq, Repr, Inhabited

namespace Anchor

/-- The neighbour belongs to a word. -/
def isWordSide (unicode : Bool) : Option Char → Bool
  | none => false
  | some c => if unicode then Text.isWord c else c.isAlphanum || c == '_'

/-- The condition holds between a character on the left and one on the right, where there are any.
-/
def holds : Anchor → Option Char → Option Char → Bool
  | .textStart, left, _ => left.isNone
  | .textEnd, _, right => right.isNone
  | .lineStart false, left, _ => left.isNone || left == some '\n'
  | .lineEnd false, _, right => right.isNone || right == some '\n'
  | .lineStart true, left, right =>
    left.isNone || left == some '\n' || (left == some '\r' && right != some '\n')
  | .lineEnd true, left, right =>
    right.isNone || right == some '\r' || (right == some '\n' && left != some '\r')
  | .word place unicode, left, right =>
    place.holds (isWordSide unicode left) (isWordSide unicode right)

end Anchor

/-- The tree of a regular expression. -/
inductive RegexTree where
  | empty
  | text (cs : List Char)
  | char (s : CharSet)
  | anchor (a : Anchor)
  | group (number : Nat) (r : RegexTree)
  | sequence (rs : List RegexTree)
  | choice (rs : List RegexTree)
  | times (r : RegexTree) (least : Nat) (most : Option Nat)
deriving BEq, Inhabited

end StructMatch
