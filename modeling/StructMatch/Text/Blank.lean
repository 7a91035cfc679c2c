import StructMatch.Text.CharRange

/-!
# Blank characters

The Unicode property `White_Space`, and text with the blanks at its two ends removed.
-/

namespace StructMatch.Text

/-- The characters with the Unicode property `White_Space`. -/
def blankRanges : List CharRange :=
  [⟨0x9, 0xD⟩, ⟨0x20, 0x20⟩, ⟨0x85, 0x85⟩, ⟨0xA0, 0xA0⟩, ⟨0x1680, 0x1680⟩, ⟨0x2000, 0x200A⟩,
   ⟨0x2028, 0x2029⟩, ⟨0x202F, 0x202F⟩, ⟨0x205F, 0x205F⟩, ⟨0x3000, 0x3000⟩]

/-- A blank character. -/
def isBlank (c : Char) : Bool :=
  CharRange.anyHolds c.toNat blankRanges

/-- The text without the blanks at its two ends. -/
def trim (s : String) : String :=
  String.ofList ((s.toList.dropWhile isBlank).reverse.dropWhile isBlank).reverse

end StructMatch.Text
