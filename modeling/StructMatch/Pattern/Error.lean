import StructMatch.Pattern.Basic

/-!
# What can be wrong with a pattern

Errors arise while patterns are made or specialized, never while they are executed. Each one names
its cause, and `PatternError.message` words it.
-/

namespace StructMatch

/-- Why a pattern cannot be made or specialized. -/
inductive PatternError where
  /-- A sequence has `count` rest patterns, more than one. -/
  | multipleRest (count : Nat)
  /-- A rest pattern stands outside the rest slot, or another pattern inside it. -/
  | misplacedRest
  /-- The value names no capture. -/
  | invalidCaptureKey (value : Value)
  /-- A program stands where a pattern was to be specialized. -/
  | alreadyCompiled
  /-- A text is no regular expression, in the words of its compiler. -/
  | invalidRegex (diagnostic : String)

namespace PatternError

/-- The error in words. -/
def message : PatternError → String
  | .multipleRest count =>
    "sequence pattern has " ++ toString count ++ " rest elements; at most one is allowed"
  | .misplacedRest => "rest pattern used outside the rest position of a sequence"
  | .invalidCaptureKey value =>
    "invalid capture key \x60" ++ value.render ++ "\x60: expected an integer index or a symbol"
  | .alreadyCompiled => "pattern is already compiled"
  | .invalidRegex diagnostic => "invalid regex literal: " ++ diagnostic

end PatternError

/-- The capture key that a value names. -/
def Key.ofValue (v : Value) : Except PatternError Key :=
  match Key.ofValue? v with
  | some key => .ok key
  | none => .error (.invalidCaptureKey v)

/-- The literal of a regular expression, as the given compiler reads it. -/
def Literal.ofRegex (compile : RegexCompiler) (source : String) : Except PatternError Literal :=
  match compile source with
  | .ok r => .ok (.regex r)
  | .error diagnostic => .error (.invalidRegex diagnostic)

/-- A sequence pattern. A rest slot wants a pattern with the rest flag, and no other item may have
it. Without a rest slot head and tail are one list. -/
def Pattern.sequence (head : List Pattern) (rest : Option Pattern) (tail : List Pattern) :
    Except PatternError Pattern :=
  if rest.any (fun r => !r.isRest) || head.any Pattern.isRest || tail.any Pattern.isRest then
    .error .misplacedRest
  else
    match rest with
    | none => .ok (.seq (head ++ tail) none [])
    | some r => .ok (.seq head (some r) tail)

end StructMatch
