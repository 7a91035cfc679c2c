import Mathlib.Data.String.Basic

/-!
# The order of texts and the order of their bytes

Texts are ordered by their code points. UTF-8 was made so that this is also the order of their
bytes, and here this is shown (`bytes_lt_iff`). What has to be seen is that the encodings of two
different characters differ at some byte, the lesser character having the lesser one, so that
whatever follows does not count (`Below`). Encodings of different lengths differ in the first byte.
In encodings of one length the last byte holds the last six bits of the code point, and the bytes
before it depend on the other bits only; so the comparison goes down from the leading byte, six bits
at a time (`below_spread`).
-/

namespace StructMatch.Text

/-- The bytes of a text in UTF-8. -/
def bytes (text : String) : List UInt8 :=
  text.toUTF8.data.toList

/-- A text is encoded character by character. -/
theorem bytes_eq_flatMap (text : String) :
    bytes text = text.toList.flatMap String.utf8EncodeChar := by
  rw [bytes, String.toUTF8_eq_toByteArray, ← String.utf8Encode_toList, List.utf8Encode,
    List.toList_data_toByteArray]

/-! ### Lists that differ at some byte -/

/-- Whatever follows on either side, the one list is less than the other. -/
def Below (xs ys : List UInt8) : Prop :=
  ∀ s t, xs ++ s < ys ++ t

/-- Lists that differ in the first byte. -/
theorem below_of_first {x y : UInt8} (h : x.toNat < y.toNat) (xs ys : List UInt8) :
    Below (x :: xs) (y :: ys) :=
  fun _ _ => List.cons_lt_cons_iff.mpr (.inl (UInt8.lt_iff_toNat_lt.mpr h))

/-- What follows the byte in which they differ does not count. -/
theorem Below.append {xs ys : List UInt8} (h : Below xs ys) (xs' ys' : List UInt8) :
    Below (xs ++ xs') (ys ++ ys') := by
  intro s t
  -- what is appended is the beginning of what may follow
  rw [List.append_assoc, List.append_assoc]
  exact h (xs' ++ s) (ys' ++ t)

/-- The same bytes in front do not count either. -/
theorem Below.append_left {xs ys : List UInt8} (h : Below xs ys) (front : List UInt8) :
    Below (front ++ xs) (front ++ ys) := by
  intro s t
  induction front with
  | nil => exact h s t
  | cons x front ih => exact List.cons_lt_cons_iff.mpr (.inr ⟨rfl, ih⟩)

/-! ### Encodings -/

/-- The form of an encoding: how many bytes follow the first, how many values there are for the bits
in the first one, and the mark on top of them. -/
structure Form where
  following : Nat
  room : Nat
  mark : Nat

/-- The form in which a code point is encoded. -/
def Form.of (n : Nat) : Form :=
  if n ≤ 0x7F then ⟨0, 0x80, 0⟩
  else if n ≤ 0x7FF then ⟨1, 0x20, 0xC0⟩
  else if n ≤ 0xFFFF then ⟨2, 0x10, 0xE0⟩
  else ⟨3, 0x8, 0xF0⟩

/-- A byte behind the first holds six bits. -/
def continuation (n : Nat) : UInt8 :=
  .ofNat (n % 64 + 0x80)

/-- The first byte holds the bits that are left. -/
def leading (room mark n : Nat) : UInt8 :=
  .ofNat (n % room + mark)

/-- Bytes behind a first one that hold the bits of a number, six in each. -/
def spread (room mark : Nat) : Nat → Nat → List UInt8
  | 0, n => [leading room mark n]
  | following + 1, n => spread room mark following (n / 64) ++ [continuation n]

/-- **The encoding of a character is that of its code point**, in the form for it. -/
theorem utf8EncodeChar_eq (c : Char) :
    String.utf8EncodeChar c
      = spread (Form.of c.val.toNat).room (Form.of c.val.toNat).mark (Form.of c.val.toNat).following
          c.val.toNat := by
  unfold String.utf8EncodeChar Form.of
  generalize c.val.toNat = n
  dsimp only
  -- the cases are the four lengths; a single byte holds all bits, so nothing is cut off there
  split_ifs with hone htwo hthree
  · rw [spread, leading, Nat.mod_eq_of_lt (Nat.lt_succ_of_le hone)]
    rfl
  · rfl
  -- the bits of the leading byte are what two divisions leave
  · simp only [spread, leading, continuation, Nat.div_div_eq_div_mul]
    rfl
  · simp only [spread, leading, continuation, Nat.div_div_eq_div_mul]
    rfl

/-- Without its last six bits a number takes one byte less. -/
theorem div_lt_of_lt_pow_succ {room following n : Nat} (h : n < room * 64 ^ (following + 1)) :
    n / 64 < room * 64 ^ following := by
  rw [Nat.pow_succ, ← Nat.mul_assoc] at h
  exact Nat.div_lt_of_lt_mul (Nat.mul_comm _ 64 ▸ h)

section Spread

variable {room mark : Nat} (hroom : room + mark ≤ 256)
include hroom

/-- The first byte is the bits that are left above its mark, as long as they fit. -/
theorem toNat_leading {n : Nat} (hn : n < room) : (leading room mark n).toNat = n + mark := by
  rw [leading, UInt8.toNat_ofNat', Nat.mod_eq_of_lt hn]
  omega

/-- In one form, the order of numbers is that of their bytes. -/
theorem below_spread {following m n : Nat} (h : m < n) (hn : n < room * 64 ^ following) :
    Below (spread room mark following m) (spread room mark following n) := by
  induction following generalizing m n with
  | zero =>
    -- a single byte holds the whole number
    have hn' : n < room := by omega
    refine below_of_first ?_ [] []
    rw [toNat_leading hroom hn', toNat_leading hroom (h.trans hn')]
    omega
  | succ following ih =>
    rw [spread, spread]
    by_cases hbits : m / 64 < n / 64
    · exact (ih hbits (div_lt_of_lt_pow_succ hn)).append _ _
    · -- where the bits in front agree, the last byte decides
      have hsame : m / 64 = n / 64 := by omega
      have hlast : m % 64 < n % 64 := by omega
      rw [hsame]
      refine (below_of_first ?_ [] []).append_left _
      rw [continuation, continuation, UInt8.toNat_ofNat', UInt8.toNat_ofNat']
      omega

/-- The first byte of a spread number is at its mark, with less than the room above it. -/
theorem exists_spread_eq_cons {following n : Nat} (hn : n < room * 64 ^ following) :
    ∃ x xs, spread room mark following n = x :: xs ∧ mark ≤ x.toNat ∧ x.toNat < room + mark := by
  induction following generalizing n with
  | zero =>
    have hn' : n < room := by omega
    refine ⟨_, [], rfl, ?_⟩
    rw [toNat_leading hroom hn']
    omega
  | succ following ih =>
    -- the first byte is that of the bits in front
    obtain ⟨x, xs, hxs, hx⟩ := ih (div_lt_of_lt_pow_succ hn)
    exact ⟨x, xs ++ [continuation n], by rw [spread, hxs, List.cons_append], hx⟩

end Spread

/-- The values in the first byte, above their mark, fit in a byte. -/
theorem Form.room_le (n : Nat) : (Form.of n).room + (Form.of n).mark ≤ 256 := by
  unfold Form.of
  split_ifs <;> decide

/-- The form for a code point has room for it. -/
theorem Form.lt_room {n : Nat} (h : n < 0x110000) :
    n < (Form.of n).room * 64 ^ (Form.of n).following := by
  unfold Form.of
  split_ifs <;> simp <;> omega

/-- The form for a lesser code point is the same, or its first bytes are all less. -/
theorem Form.eq_or_le {m n : Nat} (h : m ≤ n) :
    Form.of m = Form.of n ∨ (Form.of m).room + (Form.of m).mark ≤ (Form.of n).mark := by
  unfold Form.of
  -- the first bytes of each form end below the mark of the next
  split_ifs <;> simp <;> omega

/-! ### Characters and texts -/

/-- **The encoding of a lesser character is less**, whatever follows on either side. -/
theorem below_utf8EncodeChar {a b : Char} (h : a < b) :
    Below (String.utf8EncodeChar a) (String.utf8EncodeChar b) := by
  have hlt : a.val.toNat < b.val.toNat := UInt32.lt_iff_toNat_lt.mp h
  have hb : b.val.toNat < 0x110000 := by
    rcases b.valid with hvalid | hvalid <;> omega
  rw [utf8EncodeChar_eq, utf8EncodeChar_eq]
  rcases Form.eq_or_le hlt.le with hform | hform
  · rw [hform]
    exact below_spread (Form.room_le _) hlt (Form.lt_room hb)
  · -- the first bytes are at different marks
    obtain ⟨x, xs, hx, -, hxRoom⟩ := exists_spread_eq_cons (Form.room_le _)
      (Form.lt_room (hlt.trans hb))
    obtain ⟨y, ys, hy, hyMark, -⟩ := exists_spread_eq_cons (Form.room_le _) (Form.lt_room hb)
    rw [hx, hy]
    exact below_of_first (by omega) xs ys

/-- The encodings of lists of characters keep their order. -/
theorem flatMap_utf8EncodeChar_lt {cs ds : List Char} (h : cs < ds) :
    cs.flatMap String.utf8EncodeChar < ds.flatMap String.utf8EncodeChar := by
  induction cs generalizing ds with
  | nil =>
    cases ds with
    | nil => exact absurd h (List.lt_irrefl [])
    | cons d ds =>
      obtain ⟨x, xs, hx⟩ := List.exists_cons_of_ne_nil (String.utf8EncodeChar_ne_nil (c := d))
      rw [List.flatMap_cons, hx]
      exact List.nil_lt_cons _ _
  | cons c cs ih =>
    cases ds with
    | nil => exact absurd h (List.not_lt_nil _)
    | cons d ds =>
      rw [List.flatMap_cons, List.flatMap_cons]
      -- the first characters differ, or the rest decides
      rcases List.cons_lt_cons_iff.mp h with hfirst | ⟨rfl, hothers⟩
      · exact below_utf8EncodeChar hfirst _ _
      · exact List.append_left_lt (ih hothers)

/-- **The order of texts is the order of their bytes.** -/
theorem bytes_lt_iff {s t : String} : bytes s < bytes t ↔ s < t := by
  have hmono : ∀ {s t : String}, s < t → bytes s < bytes t := fun h => by
    rw [bytes_eq_flatMap, bytes_eq_flatMap]
    exact flatMap_utf8EncodeChar_lt (String.lt_iff_toList_lt.mp h)
  refine ⟨fun h => ?_, hmono⟩
  -- otherwise the texts are equal or the other way round, and so are their bytes
  rcases lt_trichotomy s t with hlt | rfl | hgt
  · exact hlt
  · exact absurd h (List.lt_irrefl _)
  · exact absurd h (List.lt_asymm (hmono hgt))

end StructMatch.Text
