import StructMatch.Regex.Basic

/-!
# Matching by sets of places

A text of `n` characters has `n + 1` places: before each character and at the end. A set of places
is a list of `n + 1` Booleans. `RegexTree.reach` sends the set of places where an expression may
begin to the set of places where it may then have ended:

* a character moves every place one step to the right, past a character of its set;
* an anchor keeps the places where its condition holds;
* a sequence composes, a choice takes the union;
* repetition makes its least count of rounds, and then adds what further rounds reach, for as many
  rounds as it allows. An open repetition is complete after one round for each place, since a round
  that adds nothing is the last that matters.

There is a match when some place can be reached from any place.
-/

namespace StructMatch

/-- A set of the places of a text. -/
abbrev Places := List Bool

/-- What lies around the places of a text. -/
structure Surroundings where
  chars : List Char
  sides : List (Option Char × Option Char)

/-- The neighbours of the places of the text that begins after `left`. -/
def Surroundings.sidesAfter (left : Option Char) : List Char → List (Option Char × Option Char)
  | [] => [(left, none)]
  | c :: rest => (left, some c) :: sidesAfter (some c) rest

/-- The places of a text and what lies around them. -/
def Surroundings.ofList (chars : List Char) : Surroundings where
  chars := chars
  sides := sidesAfter none chars

namespace Places

/-- The places in either of two sets. -/
def union (p q : Places) : Places :=
  List.zipWith (· || ·) p q

/-- Every place that a character that passes the test precedes. -/
def advance (test : Char → Bool) (chars : List Char) (p : Places) : Places :=
  false :: List.zipWith (fun here c => here && test c) p chars

/-- The places where a condition holds. -/
def filterAnchor (a : Anchor) (sides : List (Option Char × Option Char)) (p : Places) : Places :=
  List.zipWith (fun here side => here && a.holds side.1 side.2) p sides

/-- Exactly `rounds` rounds of a step. It stops early when a round changes nothing. -/
def iterate (step : Places → Places) : Nat → Places → Places
  | 0, p => p
  | rounds + 1, p =>
    let q := step p
    if q == p then p else iterate step rounds q

/-- At most `rounds` rounds of a step. It stops early when a round adds nothing. -/
def closure (step : Places → Places) : Nat → Places → Places
  | 0, p => p
  | rounds + 1, p =>
    let q := union p (step p)
    if q == p then p else closure step rounds q

end Places

mutual

/-- The places where an expression can have ended when it began at a place of the given set. -/
def RegexTree.reach (around : Surroundings) : RegexTree → Places → Places
  | .empty, p => p
  | .text cs, p => cs.foldl (fun p c => p.advance (· == c) around.chars) p
  | .char s, p => p.advance s.holds around.chars
  | .anchor a, p => p.filterAnchor a around.sides
  | .group _ r, p => r.reach around p
  | .sequence rs, p => RegexTree.reachSequence around rs p
  | .choice rs, p => RegexTree.reachChoice around rs p
  | .times r least most, p =>
    let start := Places.iterate (r.reach around) least p
    let more := match most with
      | some most => most - least
      | none => around.sides.length
    Places.closure (r.reach around) more start
termination_by structural r => r

/-- The places where the last of a sequence of expressions can have ended. -/
def RegexTree.reachSequence (around : Surroundings) : List RegexTree → Places → Places
  | [], p => p
  | r :: rest, p => RegexTree.reachSequence around rest (r.reach around p)
termination_by structural rs => rs

/-- The places where one of several expressions can have ended. -/
def RegexTree.reachChoice (around : Surroundings) : List RegexTree → Places → Places
  | [], p => p.map fun _ => false
  | r :: rest, p => (r.reach around p).union (RegexTree.reachChoice around rest p)
termination_by structural rs => rs

end

/-- The expression matches somewhere in the text. -/
def RegexTree.matchesIn (r : RegexTree) (text : String) : Bool :=
  let around := Surroundings.ofList text.toList
  (r.reach around (around.sides.map fun _ => true)).any id

end StructMatch
