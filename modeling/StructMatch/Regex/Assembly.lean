import StructMatch.Regex.Basic

/-!
# Putting expressions together

The parts of an expression are joined in a normal form. A sequence holds no sequences and no empty
expressions, and texts next to each other are one text. A choice holds no choices; a choice between
single characters or between classes is a class; what all alternatives begin with is put in front of
the choice. A repetition of what never consumes a character makes at most one round, a single round
is the expression itself, and none is the empty expression.

The normal form matches what the parts as they stand match. It is what an expression is measured by.
-/

namespace StructMatch.RegexTree

mutual

/-- The expression can match, and never consumes a character. -/
def isWidthless : RegexTree → Bool
  | .empty => true
  | .text _ => false
  | .char _ => false
  | .anchor _ => true
  | .group _ r => r.isWidthless
  | .sequence rs => areWidthless rs
  | .choice rs => areWidthless rs
  | .times r _ _ => r.isWidthless
termination_by structural r => r

/-- All of the expressions are widthless. -/
def areWidthless : List RegexTree → Bool
  | [] => true
  | r :: rest => r.isWidthless && areWidthless rest
termination_by structural rs => rs

end

/-- The expression for one character of a set. -/
def ofSet (s : CharSet) : RegexTree :=
  match s.onlyMember? with
  | some c => .text [c]
  | none => .char s

/-- The parts that an expression contributes to a sequence around it. -/
def factors : RegexTree → List RegexTree
  | .empty => []
  | .sequence rs => rs
  | r => [r]

/-- Put a part in front of others, and make one text of two. -/
def prepend : RegexTree → List RegexTree → List RegexTree
  | .text cs, .text ds :: rest => .text (cs ++ ds) :: rest
  | r, rest => r :: rest

/-- Expressions one after the other. -/
def ofSequence (rs : List RegexTree) : RegexTree :=
  match (rs.flatMap factors).foldr prepend [] with
  | [] => .empty
  | [r] => r
  | parts => .sequence parts

/-- The alternatives that an expression contributes to a choice around it. -/
def alternatives : RegexTree → List RegexTree
  | .choice rs => rs
  | r => [r]

/-- The character that an expression consists of. -/
def asChar? : RegexTree → Option Char
  | .text [c] => some c
  | _ => none

/-- The class that an expression consists of. -/
def asSet? : RegexTree → Option CharSet
  | .char s => some s
  | _ => none

/-- The parts of a sequence. -/
def asSequence? : RegexTree → Option (List RegexTree)
  | .sequence rs => some rs
  | _ => none

/-- The set that all alternatives make up if they are single characters, or if they are classes. -/
def asOneSet? (rs : List RegexTree) : Option CharSet :=
  match rs.mapM asChar? with
  | some cs => some (.unions (cs.map .single))
  | none => (rs.mapM asSet?).map .unions

/-- A choice between alternatives that begin differently. -/
def ofDistinct (rs : List RegexTree) : RegexTree :=
  match rs.flatMap alternatives with
  | [r] => r
  | rs =>
    match asOneSet? rs with
    | some s => .ofSet s
    | none => .choice rs

/-- The longest list that both lists begin with. -/
def commonStart : List RegexTree → List RegexTree → List RegexTree
  | r :: rs, s :: ss => if r == s then r :: commonStart rs ss else []
  | _, _ => []

/-- What all of the lists begin with. -/
def sharedStart : List (List RegexTree) → List RegexTree
  | [] => []
  | rs :: others => others.foldl commonStart rs

/-- A choice between alternatives. -/
def ofChoice (rs : List RegexTree) : RegexTree :=
  let rs := rs.flatMap alternatives
  match asOneSet? rs, rs.mapM asSequence? with
  | none, some sequences =>
    let start := if 1 < sequences.length then sharedStart sequences else []
    if start.isEmpty then ofDistinct rs
    else
      let ends := sequences.map fun parts => ofSequence (parts.drop start.length)
      ofSequence (start ++ [ofDistinct ends])
  | _, _ => ofDistinct rs

/-- An expression repeated. -/
def repeated (r : RegexTree) (least : Nat) (most : Option Nat) : RegexTree :=
  let (least, most) :=
    if r.isWidthless then (min least 1, some (min (most.getD 1) 1)) else (least, most)
  if most == some 0 then .empty
  else if least == 1 && most == some 1 then r
  else .times r least most

end StructMatch.RegexTree
