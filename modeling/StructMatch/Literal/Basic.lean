import StructMatch.Literal.Equality
import StructMatch.Value.Printer

/-!
# Literals

A literal is a test of one value without parts: equality with a stored value, a form, a range of
numbers, a regular expression, or a test given by the user under a label. `Literal.accepts` says
which subjects pass.

A range holds the numbers between its two ends in their exact order; an end or a subject that is not
a number is in no range. A regular expression is tried on texts and on the names of symbols.

How regular expressions are read and matched is left open. A literal holds a compiled expression,
which is its text and a test of texts, and what is said about patterns is said for any such test.
-/

namespace StructMatch

/-- The numbers from `first` to `last`; the last one is left out when the range is exclusive. -/
structure NumRange where
  first : Number
  last : Number
  exclusive : Bool
deriving Repr

/-- A compiled regular expression: the text it was read from, and whether it matches somewhere in a
text. -/
structure Regex where
  source : String
  matchesIn : String → Bool

/-- A compiler of regular expressions. It says in words why a text is none. -/
abbrev RegexCompiler := String → Except String Regex

/-- A test given by the user. Only the label is ever shown. -/
structure Predicate where
  label : String
  test : Value → Bool

/-- A test of one value. -/
inductive Literal where
  | value (stored : Value)
  | kind (k : ValueKind)
  | range (r : NumRange)
  | regex (r : Regex)
  | predicate (p : Predicate)

namespace NumRange

/-- The value is a number of the range: the first end is not above it, and it is below the last end
or, unless that is left out, equal to it. -/
def contains (r : NumRange) (v : Value) : Bool :=
  let above :=
    match r.first.toValue.compareNumbers? v with
    | some .lt | some .eq => true
    | _ => false
  let below :=
    match v.compareNumbers? r.last.toValue with
    | some .lt => true
    | some .eq => !r.exclusive
    | _ => false
  above && below

end NumRange

namespace Literal

/-- The subject passes the test. -/
def accepts : Literal → Value → Bool
  | .value stored, v => stored.agrees v
  | .kind k, v => v.kind == k
  | .range r, v => r.contains v
  | .regex r, .str text => r.matchesIn text
  | .regex r, .sym name => r.matchesIn name
  | .regex _, _ => false
  | .predicate p, v => p.test v

end Literal

/-! ### Literals as text -/

/-- The short text of a number. -/
def Number.render : Number → String
  | .int n => toString n.toInt
  | .float x => x.render

/-- The two ends, with a third dot when the range is exclusive. -/
def NumRange.render (r : NumRange) : String :=
  r.first.render ++ (if r.exclusive then "..." else "..") ++ r.last.render

/-- The text of a literal. -/
def Literal.render : Literal → String
  | .value stored => stored.render
  | .kind k => k.name
  | .range r => r.render
  | .regex r => "/" ++ r.source ++ "/"
  | .predicate p => "PRED(" ++ p.label ++ ")"

instance : ToString Literal := ⟨Literal.render⟩

end StructMatch
