import StructMatch.Pattern.Basic

/-!
# Patterns as text

`Pattern.render` is the short text of a pattern; a program is shown by the short text of the pattern
it comes from. `Pattern.inspect` shows every part with its form, a program with its table of slots
and its source text.
-/

namespace StructMatch.Pattern

/-- What ends the text of an exact map pattern. -/
def exactMark (exact : Bool) : List String :=
  if exact then ["EXACT"] else []

mutual

/-- The short text of a pattern. -/
def render : Pattern → String
  | .literal lit => "OBJ(" ++ lit.render ++ ")"
  | .any => "ANY"
  | .named key => "NAMED(" ++ key.render ++ ")"
  | .rest => "..."
  | .seq head middle tail =>
    let shown := match middle with
      | none => []
      | some r => [render r]
    Value.bracketed (renderAll head ++ shown ++ renderAll tail)
  | .map ⟨entries⟩ exact _ => Value.braced (renderEntries entries ++ exactMark exact)
  | .opt inner => "?" ++ render inner
  | .and items => "AND(" ++ ",".intercalate (renderAll items) ++ ")"
  | .or items => "OR(" ++ ",".intercalate (renderAll items) ++ ")"
  | .compiled origin _ _ _ => "<compiled>" ++ render origin
termination_by structural p => p

/-- The short texts of several patterns. -/
def renderAll : List Pattern → List String
  | [] => []
  | p :: ps => render p :: renderAll ps
termination_by structural ps => ps

/-- The short texts of the entries of a map pattern. -/
def renderEntries : List (Value × Pattern) → List String
  | [] => []
  | (k, p) :: others => (k.render ++ " => " ++ render p) :: renderEntries others
termination_by structural es => es

end

instance : ToString Pattern := ⟨render⟩

mutual

/-- The text of a pattern in which every part shows its form. -/
def inspect : Pattern → String
  | .literal lit => "Literal(" ++ lit.render ++ ")"
  | .any => "Any"
  | .named key => "Named(" ++ key.inspect ++ ")"
  | .rest => "Rest"
  | .seq head middle tail =>
    let shown := match middle with
      | none => "None"
      | some r => "Some(" ++ inspect r ++ ")"
    "Seq(SeqPattern \x7b head: " ++ Value.bracketed (inspectAll head) ++ ", rest: " ++ shown
      ++ ", tail: " ++ Value.bracketed (inspectAll tail) ++ " \x7d)"
  | .map ⟨entries⟩ exact required =>
    "Map(MapPattern \x7b entries: " ++ Value.bracketed (inspectEntries entries) ++ ", exact: "
      ++ Value.boolText exact ++ ", non_opt_count: " ++ toString required ++ " \x7d)"
  | .opt inner => "Opt(" ++ inspect inner ++ ")"
  | .and items => "And(" ++ Value.bracketed (inspectAll items) ++ ")"
  | .or items => "Or(" ++ Value.bracketed (inspectAll items) ++ ")"
  | .compiled origin slots _ source =>
    "Compiled(Compiled \x7b description: " ++ Text.quote (render origin) ++ ", context: "
      ++ Value.bracketed (inspectSlots slots) ++ ", source: "
      ++ Text.quote source ++ " \x7d)"
termination_by structural p => p

/-- The texts of several patterns, every part shown with its form. -/
def inspectAll : List Pattern → List String
  | [] => []
  | p :: ps => inspect p :: inspectAll ps
termination_by structural ps => ps

/-- The texts of the entries of a map pattern, every part shown with its form. -/
def inspectEntries : List (Value × Pattern) → List String
  | [] => []
  | (k, p) :: others => ("(" ++ k.inspect ++ ", " ++ inspect p ++ ")") :: inspectEntries others
termination_by structural es => es

/-- The texts of the slots of a program. -/
def inspectSlots : List (Slot Pattern) → List String
  | [] => []
  | .literal lit :: others => ("Literal(" ++ lit.render ++ ")") :: inspectSlots others
  | .fallback p :: others => ("Fallback(" ++ inspect p ++ ")") :: inspectSlots others
termination_by structural ss => ss

end

end StructMatch.Pattern
