/-
Texts with one byte for each character. Their bytes are cut only between characters.
-/

import SeedVault.Proofs.Text.Utf8

namespace SeedVault.Text

/-- A text with one byte for each character. -/
def IsAscii (chars : List Char) : Prop :=
  ∀ char ∈ chars, char.toNat < 128

instance (chars : List Char) : Decidable (IsAscii chars) :=
  decidable_of_iff (chars.all (·.toNat < 128) = true) (by simp [IsAscii])

namespace IsAscii

theorem nil : IsAscii [] := by
  simp [IsAscii]

theorem append_iff {left right : List Char} :
    IsAscii (left ++ right) ↔ IsAscii left ∧ IsAscii right :=
  List.forall_mem_append

theorem cons_iff {char : Char} {chars : List Char} :
    IsAscii (char :: chars) ↔ char.toNat < 128 ∧ IsAscii chars :=
  List.forall_mem_cons

theorem intercalate {between : List Char} {parts : List (List Char)} (ascii : IsAscii between)
    (asciiParts : ∀ part ∈ parts, IsAscii part) : IsAscii (between.intercalate parts) := by
  induction parts with
  | nil => exact nil
  | cons first rest ih =>
      rw [List.forall_mem_cons] at asciiParts
      cases rest with
      | nil => simpa using asciiParts.1
      | cons second rest =>
          rw [List.intercalate_cons_cons, append_iff, append_iff]
          exact ⟨⟨asciiParts.1, ascii⟩, ih asciiParts.2⟩

/-- Where each character has one byte, the bytes are cut between characters. -/
theorem exists_of_utf8_eq_append {text : String} (ascii : IsAscii text.toList)
    {cut more : List UInt8} (split : utf8 text = cut ++ more) :
    ∃ front back, text = front ++ back ∧ utf8 front = cut ∧ utf8 back = more := by
  have bytes {chars : List Char} (small : IsAscii chars) :
      utf8 (String.ofList chars) = chars.map fun char => UInt8.ofNat char.toNat := by
    rw [utf8, String.toList_ofList, flatMap_utf8EncodeChar_of_lt small]
  have whole := bytes ascii
  rw [String.ofList_toList, split] at whole
  obtain ⟨front, back, same, frontBytes, backBytes⟩ := List.map_eq_append_iff.mp whole.symm
  rw [same, append_iff] at ascii
  refine ⟨String.ofList front, String.ofList back, ?_, ?_, ?_⟩
  · rw [← String.ofList_append, ← same, String.ofList_toList]
  · rw [bytes ascii.1, frontBytes]
  · rw [bytes ascii.2, backBytes]

end IsAscii

end SeedVault.Text
