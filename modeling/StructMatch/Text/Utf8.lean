import StructMatch.Text.CharRange

/-!
# Ranges of characters as sequences of byte ranges

In UTF-8 a character takes one to four bytes, and the bytes after the first hold six bits each. A
range of characters is cut into pieces such that the encodings of a piece are all the sequences that
take their first byte from a range of bytes, their second byte from another, and so on
(`CharRange.byteSequences`). A piece has encodings of one length, and where two of its characters
differ in a byte, all values of the bytes behind it occur.
-/

namespace StructMatch

/-- The bytes from `first` to `last`, both included. -/
structure ByteRange where
  first : Nat
  last : Nat
deriving DecidableEq, Repr

namespace Text

/-- The UTF-8 encoding of a code point. -/
def utf8 (n : Nat) : List Nat :=
  if n < 0x80 then [n]
  else if n < 0x800 then [0xC0 + n / 0x40, 0x80 + n % 0x40]
  else if n < 0x10000 then [0xE0 + n / 0x1000, 0x80 + n / 0x40 % 0x40, 0x80 + n % 0x40]
  else [0xF0 + n / 0x40000, 0x80 + n / 0x1000 % 0x40, 0x80 + n / 0x40 % 0x40, 0x80 + n % 0x40]

end Text

namespace CharRange

/-- The characters that are encoded by one byte. -/
def singleByte : CharRange := ⟨0x0, 0x7F⟩

/-- The characters that are encoded by two, by three and by four bytes. Those of three bytes stand
on both sides of a gap that holds no characters. -/
def multiByte : List CharRange :=
  [⟨0x80, 0x7FF⟩, ⟨0x800, 0xD7FF⟩, ⟨0xE000, 0xFFFF⟩, ⟨0x10000, 0x10FFFF⟩]

/-- The common part of two ranges, if there is one. -/
def inter? (r s : CharRange) : Option CharRange :=
  let first := max r.first s.first
  let last := min r.last s.last
  if first ≤ last then some ⟨first, last⟩ else none

/-- Cut a range at the multiples of `block` next to its ends, unless it lies within one block, and
what is left in the middle at multiples of blocks 64 times as long, for as many levels as are given.
-/
def aligned : Nat → Nat → CharRange → List CharRange
  | 0, _, r => [r]
  | levels + 1, block, r =>
    let low := r.first / block
    let high := r.last / block
    if low == high then [r]
    else
      let start := if r.first % block == 0 then r.first else (low + 1) * block
      let stop := if r.last % block == block - 1 then r.last + 1 else high * block
      let head := if r.first < start then [⟨r.first, start - 1⟩] else []
      let middle :=
        if start < stop then aligned levels (block * 0x40) ⟨start, stop - 1⟩ else []
      let tail := if stop ≤ r.last then [⟨stop, r.last⟩] else []
      head ++ middle ++ tail

/-- The byte ranges of a piece whose encodings fill them. -/
def byteRanges (r : CharRange) : List ByteRange :=
  List.zipWith ByteRange.mk (Text.utf8 r.first) (Text.utf8 r.last)

/-- The sequences of byte ranges that make up the encodings of a range, in ascending order. -/
def byteSequences (r : CharRange) : List (List ByteRange) :=
  let short := (r.inter? singleByte).toList
  let long := multiByte.flatMap fun span =>
    match r.inter? span with
    | some part => part.aligned 3 0x40
    | none => []
  (short ++ long).map byteRanges

end CharRange

end StructMatch
