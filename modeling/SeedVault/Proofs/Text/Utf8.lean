/-
Characters as bytes. A character below 128 is one byte, and every byte of another
character has its highest bit set.
-/

import SeedVault.Text.Utf8

namespace SeedVault.Text

theorem utf8_append (left right : String) : utf8 (left ++ right) = utf8 left ++ utf8 right := by
  rw [utf8, String.toList_append, List.flatMap_append]
  rfl

/-- There are as many bytes as the size of a text says. -/
theorem length_utf8 (text : String) : (utf8 text).length = text.utf8ByteSize := by
  have encoded : (utf8 text).toByteArray = text.toByteArray := by
    conv => rhs; rw [← String.ofList_toList (s := text), String.toByteArray_ofList]
    rfl
  rw [← List.size_toByteArray, encoded]
  rfl

/-- Bytes that are read as a text are the bytes of this text. -/
theorem utf8_of_ofUtf8? {bytes : List UInt8} {text : String} (read : ofUtf8? bytes = some text) :
    utf8 text = bytes := by
  rw [ofUtf8?, String.fromUTF8?] at read
  split at read
  · rename_i valid
    have decoded : String.fromUTF8 bytes.toByteArray valid = text := Option.some.inj read
    have encoded : (utf8 text).toByteArray = text.toByteArray := by
      conv => rhs; rw [← String.ofList_toList (s := text), String.toByteArray_ofList]
      rfl
    rw [← List.toByteArray_inj, encoded, ← decoded]
    rfl
  · cases read

/-- Different texts are different bytes. -/
theorem utf8_injective {left right : String} (same : utf8 left = utf8 right) : left = right := by
  have decoded := congrArg ofUtf8? same
  rw [ofUtf8?_utf8, ofUtf8?_utf8] at decoded
  exact Option.some.inj decoded

/-- A mark on a byte makes it at least as large as the mark. -/
theorem not_or_lt (code : UInt8) {mark : UInt8} (high : 128 ≤ mark) : ¬ code ||| mark < 128 := by
  rw [UInt8.not_lt, UInt8.le_iff_toNat_le, UInt8.toNat_or]
  exact Nat.le_trans (UInt8.le_iff_toNat_le.mp high) Nat.right_le_or

theorem utf8EncodeChar_of_lt {char : Char} (small : char.toNat < 128) :
    String.utf8EncodeChar char = [UInt8.ofNat char.toNat] := by
  have size : char.utf8Size = 1 := by
    rw [Char.utf8Size_eq_one_iff, UInt32.le_iff_toNat_le]
    change char.toNat ≤ 127
    omega
  rw [String.utf8EncodeChar_eq_singleton size]
  rfl

/-- All bytes of a character that is not below 128 have their highest bit set. -/
theorem not_lt_of_mem_utf8EncodeChar {char : Char} (large : 128 ≤ char.toNat) {code : UInt8}
    (member : code ∈ String.utf8EncodeChar char) : ¬ code < 128 := by
  have sizes : char.utf8Size = 2 ∨ char.utf8Size = 3 ∨ char.utf8Size = 4 := by
    have := char.utf8Size_pos
    have := char.utf8Size_le_four
    have several : char.utf8Size ≠ 1 := by
      rw [Ne, Char.utf8Size_eq_one_iff, UInt32.le_iff_toNat_le]
      change ¬ char.toNat ≤ 127
      omega
    omega
  rcases sizes with size | size | size
  · rw [String.utf8EncodeChar_eq_cons_cons size] at member
    simp only [List.mem_cons, List.not_mem_nil, or_false] at member
    rcases member with rfl | rfl <;> exact not_or_lt _ (by decide)
  · rw [String.utf8EncodeChar_eq_cons_cons_cons size] at member
    simp only [List.mem_cons, List.not_mem_nil, or_false] at member
    rcases member with rfl | rfl | rfl <;> exact not_or_lt _ (by decide)
  · rw [String.utf8EncodeChar_eq_cons_cons_cons_cons size] at member
    simp only [List.mem_cons, List.not_mem_nil, or_false] at member
    rcases member with rfl | rfl | rfl | rfl <;> exact not_or_lt _ (by decide)

/-- A character is below 128 if all its bytes are. -/
theorem toNat_lt_of_utf8EncodeChar {char : Char}
    (small : ∀ code ∈ String.utf8EncodeChar char, code < 128) : char.toNat < 128 := by
  apply Decidable.byContradiction
  intro large
  obtain ⟨code, member⟩ := List.exists_mem_of_ne_nil _ (String.utf8EncodeChar_ne_nil (c := char))
  exact not_lt_of_mem_utf8EncodeChar (by omega) member (small code member)

/-- A text whose bytes are all below 128 has one byte for each character. -/
theorem flatMap_utf8EncodeChar_of_lt {chars : List Char} (small : ∀ char ∈ chars, char.toNat < 128) :
    chars.flatMap String.utf8EncodeChar = chars.map fun char => UInt8.ofNat char.toNat := by
  induction chars with
  | nil => rfl
  | cons char rest ih =>
      rw [List.flatMap_cons, List.map_cons, utf8EncodeChar_of_lt (small char List.mem_cons_self), ih]
      · rfl
      · exact fun other member => small other (List.mem_cons_of_mem _ member)

end SeedVault.Text
