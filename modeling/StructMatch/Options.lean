import StructMatch.Text.Blank

/-!
# Options

The one option says whether the patterns of a rule are specialized when they are registered. It is
on unless a setting turns it off. A setting is a text: with blanks around it removed and letters of
the basic alphabet in lower case, `0`, `false`, `off` and `no` turn the option off, and every other
text leaves it on. A setting that is no text counts as no setting.
-/

namespace StructMatch

/-- How rules are made. -/
structure Options where
  specialize : Bool := true
deriving DecidableEq, Repr, Inhabited

namespace Options

/-- Options that keep patterns as they are built. -/
def interpreted : Options := ⟨false⟩

/-- The texts that turn specialization off. -/
def offWords : List String := ["0", "false", "off", "no"]

/-- The options that a setting asks for. -/
def ofSetting : Option String → Options
  | none => {}
  | some text => ⟨!offWords.contains ((Text.trim text).map Char.toLower)⟩

/-- The options that a setting given by its bytes asks for. -/
def ofBytes (bytes : ByteArray) : Options :=
  ofSetting (String.fromUTF8? bytes)

/-- The text of the options. -/
def inspect (o : Options) : String :=
  "Options \x7b specialize: " ++ (if o.specialize then "true" else "false") ++ " \x7d"

end Options

end StructMatch
