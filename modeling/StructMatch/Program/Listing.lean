import StructMatch.Program.Lowering

/-!
# Listings of programs

The text of a program spells an expression over variables: one holds the subject, an item of the
value in a variable is read into a variable of its own, and so is the run of items between head and
tail. `Listing.ofCode` is the expression that belongs to code, and `Listing.renderOver` writes it
down. The walk that makes a program writes its text without it, so that this text is the written
form of an expression is a fact about the walk.

Items at the end of a sequence are counted from its end, where `-1` is the last one, and a run of
items is written with both of its ends included. Names of variables are made from the name of the
subject, which is `_obj` in the text of a program.
-/

namespace StructMatch

namespace Listing

/-- A variable: the subject, or a part of the value in another variable. -/
inductive Variable where
  | subject
  | item (whole : Variable)
  | middle (whole : Variable)
deriving DecidableEq, Repr

/-- What is read out of the value in a variable. -/
inductive Access where
  /-- The item at a position counted from the front. -/
  | front (position : Nat)
  /-- The item at a position counted from the end, the last one being `1`. -/
  | back (position : Nat)
  /-- The items from a position at the front to one counted from the end, both included. -/
  | run (first : Nat) (lastFromEnd : Nat)
deriving DecidableEq, Repr

/-- A step with an effect. -/
inductive Step where
  /-- Bind the value in a variable as a capture. -/
  | bind (key : Key) (source : Variable)
  /-- Read a part of the value in a variable into another variable. -/
  | assign (target : Variable) (source : Variable) (access : Access)

end Listing

/-- The expression that a listing spells. -/
inductive Listing where
  | truth
  | falsity
  | isSeq (v : Listing.Variable)
  | hasLength (v : Listing.Variable) (orMore : Bool) (length : Nat)
  | accepts (slot : Nat) (v : Listing.Variable)
  | executes (slot : Nat) (v : Listing.Variable)
  | after (s : Listing.Step) (e : Listing)
  | group (e : Listing)
  | all (parts : List Listing)
  | any (parts : List Listing)
  | orTrue (e : Listing)

namespace Listing

/-! ### From code to expressions -/

mutual

/-- The expression of code whose subject is in the given variable. -/
def ofCode : Code → Variable → Listing
  | .literal slot, v => .accepts slot v
  | .fallback slot, v => .executes slot v
  | .bind key, v => .after (.bind key v) .truth
  | .seq hasRest headLength tailLength head tail middle, v =>
    let tests : List Listing := [.isSeq v, .hasLength v hasRest (headLength + tailLength)]
    let heads := ofItems head v .front
    let tails := ofItems tail v fun position => .back (tailLength - position)
    let middles : List Listing := match middle with
      | none => []
      | some c =>
        [.group (.after (.assign (.middle v) v (.run headLength (tailLength + 1)))
          (ofCode c (.middle v)))]
    .all (tests ++ heads ++ tails ++ middles)
  | .all parts, v => .all (ofParts parts v)
  | .any parts, v => .any (ofParts parts v)
  | .tryThenTrue parts, v => .orTrue (.any (ofParts parts v))
  | .never, _ => .falsity
termination_by structural c => c

/-- The expressions of several codes with one subject. -/
def ofParts : List Code → Variable → List Listing
  | [], _ => []
  | c :: rest, v => ofCode c v :: ofParts rest v
termination_by structural cs => cs

/-- The expressions of codes for items: each one first reads its item. -/
def ofItems : List (Nat × Code) → Variable → (Nat → Access) → List Listing
  | [], _, _ => []
  | (position, c) :: rest, v, access =>
    .group (.after (.assign (.item v) v (access position)) (ofCode c (.item v)))
      :: ofItems rest v access
termination_by structural cs => cs

end

/-- The expression of a whole program; without code it is always true. -/
def ofProgram : Option Code → Listing
  | none => .truth
  | some c => ofCode c .subject

/-! ### Expressions as text -/

/-- The name of a variable, where the subject is called `base`. -/
def Variable.renderOver (base : String) : Variable → String
  | .subject => base
  | .item whole => Lowered.elementName (whole.renderOver base)
  | .middle whole => Lowered.runName (whole.renderOver base)

/-- The part of a variable that is read, by the name of the variable. -/
def Access.renderOver (whole : String) : Access → String
  | .front position => whole ++ "[" ++ toString position ++ "]"
  | .back position => whole ++ "[-" ++ toString position ++ "]"
  | .run first last => whole ++ "[" ++ toString first ++ "..-" ++ toString last ++ "]"

/-- The text of a step. -/
def Step.renderOver (base : String) : Step → String
  | .bind key source => "_match[" ++ key.render ++ "] = " ++ source.renderOver base
  | .assign target source access =>
    target.renderOver base ++ " = " ++ access.renderOver (source.renderOver base)

mutual

/-- The text of an expression, where the subject is called `base`. -/
def renderOver (base : String) : Listing → String
  | .truth => "true"
  | .falsity => "false"
  | .isSeq v => "seq?(" ++ v.renderOver base ++ ")"
  | .hasLength v orMore length =>
    "len(" ++ v.renderOver base ++ ") " ++ (if orMore then ">=" else "==") ++ " "
      ++ toString length
  | .accepts slot v => "_ctx[" ++ toString slot ++ "] === " ++ v.renderOver base
  | .executes slot v =>
    "_ctx[" ++ toString slot ++ "].execute(_match, " ++ v.renderOver base ++ ")"
  | .after s e => s.renderOver base ++ "; " ++ renderOver base e
  | .group e => Lowered.parenthesized (renderOver base e)
  | .all parts => " &&\n".intercalate (renderParts base parts)
  | .any parts => " ||\n".intercalate (renderParts base parts)
  | .orTrue e => renderOver base e ++ " ||\ntrue"
termination_by structural e => e

/-- The texts of the parts of an expression, each in parentheses. -/
def renderParts (base : String) : List Listing → List String
  | [] => []
  | e :: rest => Lowered.parenthesized (renderOver base e) :: renderParts base rest
termination_by structural es => es

end

/-- The name of a variable in the text of a program. -/
def Variable.render (v : Variable) : String := v.renderOver "_obj"

/-- The text of an expression as the text of a program has it. -/
def render (e : Listing) : String := e.renderOver "_obj"

end Listing

end StructMatch
