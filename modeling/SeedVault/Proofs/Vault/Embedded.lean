/-
Writing a vault as a part of a larger text. Whatever the texts of a record are, what is written
for it is one of the forms of that record; for a vault it is the form without white space.
-/

import SeedVault.Proofs.Vault.Variants

namespace SeedVault.Json

theorem escaped?_of_escapeLetter? {char letter : Char} (found : escapeLetter? char = some letter) :
    escaped? letter = some char := by
  unfold escapeLetter? at found
  split at found <;> cases found <;> rfl

/-- A control character is written by its number. -/
theorem spellsUnit_of_control {char : Char} (control : char.toNat < 0x20) :
    SpellsUnit ('0' :: '0' :: Hex.encodeByte (UInt8.ofNat char.toNat)) char.toNat := by
  generalize same : UInt8.ofNat char.toNat = code
  have number : code.toNat = char.toNat := by
    rw [← same, UInt8.toNat_ofNat']
    omega
  have high := Hex.toNat_high code
  have low := Hex.toNat_low code
  have first : (code >>> 4).toNat < 16 := by omega
  have second : (code &&& 15).toNat < 16 := by omega
  have spells := @SpellsUnit.digits '0' '0' _ _ 0 0 _ _ rfl rfl (Hex.hexDigit?_digit first)
    (Hex.hexDigit?_digit second)
  have sum : ((0 * 16 + 0) * 16 + (code >>> 4).toNat) * 16 + (code &&& 15).toNat = char.toNat := by
    omega
  rwa [sum] at spells

/-- What is written for a character is read as that character. -/
theorem spellsChar_escape (char : Char) : SpellsChar (escape char) char := by
  unfold escape
  split
  · rename_i found
    exact .plain (.letter (escaped?_of_escapeLetter? found))
  · rename_i noLetter
    split
    · rename_i control
      have spells := SpellsChar.unit (spellsUnit_of_control control)
        (by simp [isLowSurrogate]; omega) (by simp [isHighSurrogate]; omega)
      rwa [Char.ofNat_toNat] at spells
    · rename_i visible
      refine .plain (.itself ?_ ?_ (Nat.not_lt.mp visible))
      · rintro rfl
        cases noLetter
      · rintro rfl
        cases noLetter

theorem spells_escape (chars : List Char) : Spells (chars.flatMap escape) chars := by
  induction chars with
  | nil => exact .nil
  | cons char chars ih =>
      rw [List.flatMap_cons]
      exact .cons (spellsChar_escape char) ih

theorem toList_quote (text : String) :
    (quote text).toList = '"' :: text.toList.flatMap escape ++ ['"'] := by
  simp [quote]

theorem not_plain_of_escapeLetter? {char letter : Char} (found : escapeLetter? char = some letter) :
    ¬ Plain char := by
  unfold escapeLetter? at found
  split at found <;> cases found <;> decide

theorem escape_of_plain {char : Char} (plain : Plain char) : escape char = [char] := by
  cases found : escapeLetter? char with
  | some letter => exact absurd plain (not_plain_of_escapeLetter? found)
  | none =>
      rw [escape, found]
      exact if_neg (Nat.not_lt.mpr plain.2.2)

/-- Nothing is escaped that needs no escape. -/
theorem quote_of_plain {text : String} (plain : ∀ char ∈ text.toList, Plain char) :
    quote text = "\"" ++ text ++ "\"" := by
  have unchanged : text.toList.flatMap escape = text.toList.flatMap fun char => [char] :=
    List.flatMap_congr fun char member => escape_of_plain (plain char member)
  rw [quote, unchanged, List.flatMap_singleton', String.ofList_toList]

/-- Parts are separated if the texts that they are written as have commas between them. -/
theorem separated_intercalate {α β : Type} {IsOne : α → List Char → Prop} {part : β → α}
    {written : β → List Char} {first : β} {rest : List β}
    (isOne : ∀ item ∈ first :: rest, IsOne (part item) (written item)) :
    Separated IsOne ((first :: rest).map part) ([','].intercalate ((first :: rest).map written)) := by
  induction rest generalizing first with
  | nil => simpa using Separated.last (isOne first List.mem_cons_self)
  | cons second rest ih =>
      have separated := ih fun item member => isOne item (List.mem_cons_of_mem _ member)
      have more := Separated.more (isOne first List.mem_cons_self) separated
      simpa [List.intercalate_cons_cons] using more

end SeedVault.Json

namespace SeedVault.Vault

open Json

/-- A member as it is written for a record. -/
def spelledEntry (field : String × String) : List Char :=
  (quote field.1).toList ++ ':' :: (quote field.2).toList

/-- A member of a record with its value as it is written. -/
def asSpelled (field : String × String) : Member :=
  (field.1, (quote field.2).toList)

theorem isMember_spelledEntry (field : String × String) :
    IsMember (asSpelled field) (spelledEntry field) := by
  have spellsName := spells_escape field.1.toList
  have spellsValue := spells_escape field.2.toList
  have isMember := isMember_compact spellsName (.scalar (.text spellsValue.isQuotable))
  simpa [spelledEntry, asSpelled, toList_quote] using isMember

theorem Record.toList_text (record : Record) :
    record.text.toList = '{' :: [','].intercalate (record.members.map spelledEntry) ++ ['}'] := by
  have entries : (record.members.map fun field => quote field.1 ++ ":" ++ quote field.2).map
      String.toList = record.members.map spelledEntry := by
    simp [spelledEntry]
  unfold text
  simp only [String.toList_append, String.toList_intercalate, entries]
  simp

/-- The text that a record has for a field. -/
def Record.given (record : Record) : Field → Option String
  | .ciphertext => some record.ciphertext
  | .salt => some record.salt
  | .iv => some record.iv
  | .mac => record.mac

theorem Record.valuesOf_members (record : Record) (field : Field) :
    valuesOf field (record.members.map asSpelled) =
      ((record.given field).map fun text => (quote text).toList).toList := by
  cases field <;> cases tagged : record.mac <;>
    simp [valuesOf, members, asSpelled, given, tagged, Field.name]

theorem Record.fromMembers_asSpelled (record : Record) :
    FromMembers record (record.members.map asSpelled) := by
  have spelled {field : Field} (text : String) :
      IsContent field (some text) (quote text).toList := by
    rw [toList_quote]
    exact .text (spells_escape text.toList)
  refine ⟨⟨_, record.valuesOf_members .ciphertext, spelled _⟩,
    ⟨_, record.valuesOf_members .salt, spelled _⟩, ⟨_, record.valuesOf_members .iv, spelled _⟩, ?_⟩
  rw [valuesOf_members, given]
  cases record.mac with
  | none => exact .inl ⟨rfl, rfl⟩
  | some mac => exact .inr ⟨_, rfl, spelled mac⟩

/-- What is written for a record is one of the forms of that record, whatever its texts are. -/
theorem Record.isWritten_text (record : Record) : record.IsWritten record.text.toList := by
  rw [toList_text]
  exact .object (separated_intercalate fun field _ => isMember_spelledEntry field)
    record.fromMembers_asSpelled

theorem members_record (vault : Vault) : vault.record.members = vault.members := by
  rw [Record.members, record, members]
  cases vault.mac <;> rfl

/-- A vault is written in the same way as a part of a larger text and as a text of its own. -/
theorem embeddedText_eq (vault : Vault) : vault.embeddedText = vault.compactText := by
  have same (field : String × String) (member : field ∈ vault.members) :
      quote field.1 ++ ":" ++ quote field.2 = "\"" ++ field.1 ++ "\":\"" ++ field.2 ++ "\"" := by
    obtain ⟨plainName, plainDigits⟩ := vault.plain_members member
    rw [quote_of_plain plainName, quote_of_plain plainDigits]
    apply String.toList_inj.mp
    simp
  have entries := List.map_congr_left same
  rw [embeddedText, Record.text, members_record, compactText]
  exact congrArg (fun parts => "\x7b" ++ ",".intercalate parts ++ "\x7d") entries

end SeedVault.Vault
