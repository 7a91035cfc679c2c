import StructMatch.Number.Layout
import StructMatch.Text.Quoted
import StructMatch.Value.Basic

/-!
# Values as text

Two texts of a value. `Value.render` is the short form for readers: texts are quoted, a symbol
follows a colon, sequences stand in brackets and maps in braces with an arrow between key and value.
`Value.inspect` names the form of every part, so that an integer and a floating-point number, or a
text and a symbol, are told apart at sight.
-/

namespace StructMatch

/-- The name of a form. -/
def ValueKind.name : ValueKind → String
  | .nil => "Nil"
  | .bool => "Bool"
  | .int => "Int"
  | .float => "Float"
  | .str => "Str"
  | .sym => "Sym"
  | .seq => "Seq"
  | .map => "Map"

instance : ToString ValueKind := ⟨ValueKind.name⟩

namespace Value

/-- The two words for truth. -/
def boolText (b : Bool) : String :=
  if b then "true" else "false"

/-- Texts between brackets, separated by commas. -/
def bracketed (parts : List String) : String :=
  "[" ++ ", ".intercalate parts ++ "]"

/-- Texts between braces, separated by commas. -/
def braced (parts : List String) : String :=
  "\x7b" ++ ", ".intercalate parts ++ "\x7d"

mutual

/-- The short text of a value. -/
def render : Value → String
  | .nil => "nil"
  | .bool b => boolText b
  | .int n => toString n.toInt
  | .float x => x.render
  | .str text => Text.quote text
  | .sym name => ":" ++ name
  | .seq items => bracketed (renderAll items)
  | .map ⟨entries⟩ => braced (renderEntries entries)
termination_by structural v => v

/-- The short texts of several values. -/
def renderAll : List Value → List String
  | [] => []
  | v :: vs => render v :: renderAll vs
termination_by structural vs => vs

/-- The short texts of the entries of a map. -/
def renderEntries : List (Value × Value) → List String
  | [] => []
  | (k, v) :: rest => (render k ++ " => " ++ render v) :: renderEntries rest
termination_by structural es => es

end

mutual

/-- The text of a value in which every part names its form. -/
def inspect : Value → String
  | .nil => "Nil"
  | .bool b => "Bool(" ++ boolText b ++ ")"
  | .int n => "Int(" ++ toString n.toInt ++ ")"
  | .float x => "Float(" ++ x.render ++ ")"
  | .str text => "Str(" ++ Text.quote text ++ ")"
  | .sym name => "Sym(" ++ Text.quote name ++ ")"
  | .seq items => "Seq(" ++ bracketed (inspectAll items) ++ ")"
  | .map ⟨entries⟩ =>
    "Map(ValueMap \x7b entries: " ++ bracketed (inspectEntries entries) ++ " \x7d)"
termination_by structural v => v

/-- The texts of several values, every part named. -/
def inspectAll : List Value → List String
  | [] => []
  | v :: vs => inspect v :: inspectAll vs
termination_by structural vs => vs

/-- The texts of the entries of a map, every part named. -/
def inspectEntries : List (Value × Value) → List String
  | [] => []
  | (k, v) :: rest => ("(" ++ inspect k ++ ", " ++ inspect v ++ ")") :: inspectEntries rest
termination_by structural es => es

end

instance : ToString Value := ⟨render⟩

end Value

/-- The short text of a map. -/
def ValueMap.render (m : ValueMap) : String :=
  Value.braced (Value.renderEntries m.entries)

/-- The text of a map in which every part names its form. -/
def ValueMap.inspect (m : ValueMap) : String :=
  "ValueMap \x7b entries: " ++ Value.bracketed (Value.inspectEntries m.entries) ++ " \x7d"

end StructMatch
