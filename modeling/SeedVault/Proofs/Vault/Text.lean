/-
Written vaults read back.
-/

import SeedVault.Proofs.Vault.Written
import SeedVault.Vault.Embedded
import SeedVault.Vault.Text
import Mathlib.Data.String.Basic

namespace SeedVault.Json

/-- A character that needs no escape. -/
def Plain (char : Char) : Prop :=
  char ≠ '"' ∧ char ≠ '\\' ∧ 0x20 ≤ char.toNat

instance (char : Char) : Decidable (Plain char) :=
  inferInstanceAs (Decidable (_ ∧ _ ∧ _))

/-- Characters that need no escape are spelled by themselves. -/
theorem spells_of_plain {chars : List Char} (plain : ∀ char ∈ chars, Plain char) :
    Spells chars chars := by
  induction chars with
  | nil => exact .nil
  | cons char chars ih =>
      simp only [List.forall_mem_cons] at plain
      obtain ⟨⟨notQuote, notSlash, visible⟩, plain⟩ := plain
      exact .cons (.plain (.itself notQuote notSlash visible)) (ih plain)

end SeedVault.Json

namespace SeedVault.Hex

open Json

theorem plain_of_hexDigit?_fin : ∀ code : Fin 128,
    (Text.hexDigit? (Char.ofNat code)).isSome → Plain (Char.ofNat code) := by
  decide

theorem plain_of_hexDigit? {char : Char} {digit : Nat} (found : Text.hexDigit? char = some digit) :
    Plain char := by
  have plain := plain_of_hexDigit?_fin ⟨char.toNat, toNat_lt_of_hexDigit? found⟩
  rw [Char.ofNat_toNat] at plain
  exact plain (Option.isSome_of_eq_some found)

/-- Digits need no escapes. -/
theorem Denotes.plain {digits : List Char} {bytes : List UInt8} (denotes : Denotes digits bytes) :
    ∀ char ∈ digits, Plain char := by
  intro char member
  obtain ⟨_, found⟩ := (denotes_iff.mp denotes).1 char member
  exact plain_of_hexDigit? found

theorem Denotes.spells {digits : List Char} {bytes : List UInt8} (denotes : Denotes digits bytes) :
    Spells digits digits :=
  spells_of_plain denotes.plain

end SeedVault.Hex

namespace SeedVault.Vault

open Json

/-- A text without escapes. -/
def quoted (text : String) : List Char :=
  '"' :: text.toList ++ ['"']

/-- A line of a written object. -/
def line (field : String × String) : List Char :=
  [' ', ' ', '"'] ++ field.1.toList ++ ['"', ':', ' ', '"'] ++ field.2.toList ++ ['"']

/-- A field of a written object as a member. -/
def asMember (field : String × String) : Member :=
  (field.1, quoted field.2)

theorem isMember_line {field : String × String} {after : List Char}
    (spellsName : Spells field.1.toList field.1.toList)
    (spellsDigits : Spells field.2.toList field.2.toList) (blank : Blank after) :
    IsMember (asMember field) ('\n' :: line field ++ after) := by
  have indented : Blank ['\n', ' ', ' '] := by simp [Blank, isBlank]
  have spaced : Blank [' '] := by simp [Blank, isBlank]
  have isMember := IsMember.mk indented spellsName .nil spaced
    (.scalar (.text spellsDigits.isQuotable)) blank
  simpa [line, asMember, quoted] using isMember

/-- Lines are members, each of which starts on a new line. -/
theorem separated_lines {first : String × String} {rest : List (String × String)}
    (spells : ∀ field ∈ first :: rest, Spells field.1.toList field.1.toList ∧
      Spells field.2.toList field.2.toList) :
    Separated IsMember ((first :: rest).map asMember)
      ('\n' :: [',', '\n'].intercalate ((first :: rest).map line) ++ ['\n']) := by
  induction rest generalizing first with
  | nil =>
      obtain ⟨spellsName, spellsDigits⟩ := spells first List.mem_cons_self
      have ended : Blank ['\n'] := by simp [Blank, isBlank]
      have isMember := isMember_line spellsName spellsDigits ended
      simpa using Separated.last isMember
  | cons second rest ih =>
      obtain ⟨spellsName, spellsDigits⟩ := spells first List.mem_cons_self
      have isMember := isMember_line spellsName spellsDigits .nil
      have separated := ih fun field member => spells field (List.mem_cons_of_mem _ member)
      simpa [List.intercalate_cons_cons] using Separated.more isMember separated

theorem toList_prettyText (vault : Vault) :
    vault.prettyText.toList =
      '{' :: ('\n' :: [',', '\n'].intercalate (vault.members.map line) ++ ['\n']) ++ ['}'] := by
  have lines : (vault.members.map fun field =>
      "  \"" ++ field.1 ++ "\": \"" ++ field.2 ++ "\"").map String.toList = vault.members.map line := by
    simp [line]
  unfold prettyText
  simp only [String.toList_append, String.toList_intercalate, lines]
  simp

theorem denotes_record (vault : Vault) : vault.record.Denotes vault where
  ciphertext := Hex.denotes_encode _
  salt := Hex.denotes_encode _
  iv := Hex.denotes_encode _
  mac := by
    rw [record]
    cases vault.mac with
    | none => exact .none
    | some mac => exact .some (Hex.denotes_encode _)

/-- The digits that are written for a field. -/
def digits (vault : Vault) : Field → Option String
  | .ciphertext => some vault.record.ciphertext
  | .salt => some vault.record.salt
  | .iv => some vault.record.iv
  | .mac => vault.record.mac

theorem valuesOf_members (vault : Vault) (field : Field) :
    valuesOf field (vault.members.map asMember) = ((vault.digits field).map quoted).toList := by
  cases field <;> cases given : vault.mac <;>
    simp [valuesOf, members, asMember, digits, record, given, Field.name]

theorem fromMembers_record (vault : Vault) :
    FromMembers vault.record (vault.members.map asMember) := by
  have spelled {field : Field} (bytes : List UInt8) :
      IsContent field (some (Hex.encode bytes)) (quoted (Hex.encode bytes)) :=
    .text (Hex.denotes_encode bytes).spells
  refine ⟨⟨_, vault.valuesOf_members .ciphertext, spelled _⟩,
    ⟨_, vault.valuesOf_members .salt, spelled _⟩,
    ⟨_, vault.valuesOf_members .iv, spelled _⟩, ?_⟩
  rw [valuesOf_members, digits, record]
  cases vault.mac with
  | none => exact .inl ⟨rfl, rfl⟩
  | some mac => exact .inr ⟨_, rfl, spelled _⟩

theorem plain_name (field : Field) : ∀ char ∈ field.name.toList, Plain char := by
  cases field <;> simp [Field.name, Plain]

/-- A member is written with the name of a field and with digits. -/
theorem exists_of_mem_members (vault : Vault) {member : String × String}
    (isMember : member ∈ vault.members) :
    ∃ (field : Field) (bytes : List UInt8), member = (field.name, Hex.encode bytes) := by
  rw [members, List.mem_append] at isMember
  rcases isMember with isMember | isMember
  · simp only [List.mem_cons, List.not_mem_nil, or_false] at isMember
    rcases isMember with rfl | rfl | rfl
    · exact ⟨.ciphertext, _, rfl⟩
    · exact ⟨.salt, _, rfl⟩
    · exact ⟨.iv, _, rfl⟩
  · rw [Option.mem_toList, Option.map_eq_some_iff] at isMember
    obtain ⟨mac, _, rfl⟩ := isMember
    exact ⟨.mac, _, rfl⟩

/-- Neither a name nor digits need escapes. -/
theorem plain_members (vault : Vault) {field : String × String} (member : field ∈ vault.members) :
    (∀ char ∈ field.1.toList, Plain char) ∧ ∀ char ∈ field.2.toList, Plain char := by
  obtain ⟨field, bytes, rfl⟩ := vault.exists_of_mem_members member
  exact ⟨plain_name field, (Hex.denotes_encode bytes).plain⟩

theorem spells_members (vault : Vault) {field : String × String} (member : field ∈ vault.members) :
    Spells field.1.toList field.1.toList ∧ Spells field.2.toList field.2.toList :=
  (vault.plain_members member).imp spells_of_plain spells_of_plain

theorem isWritten_prettyText (vault : Vault) : vault.record.IsWritten vault.prettyText.toList := by
  rw [toList_prettyText]
  exact .object (separated_lines fun field member => vault.spells_members member)
    vault.fromMembers_record

/-- A vault that is written one field a line is read back, whatever white space follows. -/
theorem ofText_prettyText_append (vault : Vault) {after : String} (blank : Blank after.toList) :
    ofText (vault.prettyText ++ after) = .ok vault := by
  rw [ofText_eq_ok_iff, String.toList_append]
  exact .mk .nil vault.isWritten_prettyText blank vault.denotes_record

theorem ofText_prettyText (vault : Vault) : ofText vault.prettyText = .ok vault := by
  rw [ofText_eq_ok_iff, ← List.nil_append vault.prettyText.toList, ← List.append_nil ([] ++ _)]
  exact .mk .nil vault.isWritten_prettyText .nil vault.denotes_record

end SeedVault.Vault
