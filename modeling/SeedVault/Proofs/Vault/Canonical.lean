/-
The one text that each vault has without white space. Every text that is read as a vault can be
brought to that form, and the form tells which vault it is.
-/

import SeedVault.Proofs.Vault.Embedded

namespace SeedVault.Vault

open Json

theorem isWritten_compactText (vault : Vault) :
    vault.record.IsWritten vault.compactText.toList := by
  rw [← embeddedText_eq]
  exact vault.record.isWritten_text

/-- A vault that is written without white space is read back. -/
theorem ofText_compactText (vault : Vault) : ofText vault.compactText = .ok vault := by
  rw [ofText_eq_ok_iff, ← List.nil_append vault.compactText.toList, ← List.append_nil ([] ++ _)]
  exact .mk .nil vault.isWritten_compactText .nil vault.denotes_record

/-- Different vaults are written differently. -/
theorem compactText_injective {left right : Vault} (same : left.compactText = right.compactText) :
    left = right := by
  have read := left.ofText_compactText
  rw [same, ofText_compactText] at read
  exact (Except.ok.inj read).symm

/-- Digits of some bytes, in lower case. -/
structure LowerDigits (digits : String) (bytes : List UInt8) : Prop where
  denotes : Hex.Denotes digits.toList bytes
  lower : ∀ char ∈ digits.toList, char.isUpper = false

theorem lowerDigits_iff {digits : String} {bytes : List UInt8} :
    LowerDigits digits bytes ↔ digits = Hex.encode bytes := by
  constructor
  · intro lowerDigits
    exact String.toList_inj.mp (lowerDigits.denotes.eq_encode lowerDigits.lower)
  · rintro rfl
    exact ⟨Hex.denotes_encode bytes, fun _ => Hex.isUpper_of_mem_encode⟩

/-- The member of a tag, if there is one. -/
def tagMember : Option String → String
  | none => ""
  | some digits => ",\"mac\":\"" ++ digits ++ "\""

/-- A text is the canonical one of a vault: the fields in their order, in lower case and without
white space, and with a tag only if the vault has one. -/
inductive IsCanonical (vault : Vault) : String → Prop
  | mk {ciphertext salt iv : String} {mac : Option String} :
      LowerDigits ciphertext vault.ciphertext.toList → LowerDigits salt vault.salt.toList →
        LowerDigits iv vault.iv.toList →
          Option.Rel (fun digits tag => LowerDigits digits tag.toList) mac vault.mac →
            vault.IsCanonical ("\x7b\"ciphertext\":\"" ++ ciphertext ++ "\",\"salt\":\"" ++ salt ++
              "\",\"iv\":\"" ++ iv ++ "\"" ++ tagMember mac ++ "\x7d")

theorem compactText_eq (vault : Vault) :
    vault.compactText =
      "\x7b\"ciphertext\":\"" ++ Hex.encode vault.ciphertext.toList ++ "\",\"salt\":\"" ++
        Hex.encode vault.salt.toList ++ "\",\"iv\":\"" ++ Hex.encode vault.iv.toList ++ "\"" ++
        tagMember (vault.mac.map fun tag => Hex.encode tag.toList) ++ "\x7d" := by
  apply String.toList_inj.mp
  unfold compactText members
  cases vault.mac <;> simp [tagMember, Field.name]

/-- The form without white space is canonical, and no other text is. -/
theorem isCanonical_iff {vault : Vault} {text : String} :
    vault.IsCanonical text ↔ text = vault.compactText := by
  rw [compactText_eq]
  constructor
  · intro canonical
    obtain @⟨ciphertext, salt, iv, mac, ciphertextDigits, saltDigits, ivDigits, macDigits⟩ :=
      canonical
    rw [lowerDigits_iff.mp ciphertextDigits, lowerDigits_iff.mp saltDigits,
      lowerDigits_iff.mp ivDigits]
    generalize vault.mac = tag at macDigits ⊢
    cases macDigits with
    | none => rfl
    | some digits =>
        rw [lowerDigits_iff.mp digits]
        rfl
  · rintro rfl
    refine .mk (lowerDigits_iff.mpr rfl) (lowerDigits_iff.mpr rfl) (lowerDigits_iff.mpr rfl) ?_
    cases vault.mac with
    | none => exact .none
    | some tag => exact .some (lowerDigits_iff.mpr rfl)

/-- Reads a vault and writes it without white space. -/
def reencode (text : String) : Except TextError String :=
  (ofText text).map compactText

theorem reencode_of_ofText {text : String} {vault : Vault} (read : ofText text = .ok vault) :
    reencode text = .ok vault.compactText := by
  rw [reencode, read]
  rfl

/-- A vault is read back from both of its written forms, the one with one field a line also if
white space follows. A text that is read as a vault is written again as the canonical text of
that vault, which is read as the same vault and stays as it is; and two texts are read as one
vault exactly if they are written again as one text. -/
theorem written_forms_canonical :
    (∀ vault : Vault, ofText vault.compactText = .ok vault) ∧
    (∀ (vault : Vault) (after : String), Blank after.toList →
      ofText (vault.prettyText ++ after) = .ok vault) ∧
    (∀ (text : String) (vault : Vault), ofText text = .ok vault → ∃ again,
      reencode text = .ok again ∧ ofText again = .ok vault ∧ reencode again = .ok again ∧
        ∀ written, vault.IsCanonical written ↔ written = again) ∧
    ∀ (left right : String) (vault other : Vault), ofText left = .ok vault →
      ofText right = .ok other → (vault = other ↔ reencode left = reencode right) := by
  refine ⟨ofText_compactText, fun vault after => vault.ofText_prettyText_append, ?stable, ?same⟩
  case stable =>
    intro text vault read
    have again := vault.ofText_compactText
    exact ⟨vault.compactText, reencode_of_ofText read, again, reencode_of_ofText again,
      fun written => isCanonical_iff⟩
  case same =>
    intro left right vault other leftRead rightRead
    rw [reencode_of_ofText leftRead, reencode_of_ofText rightRead, Except.ok.injEq]
    exact ⟨congrArg compactText, compactText_injective⟩

/-- A text with its members in another order, and one with a line for each field, are written
again as one text. -/
theorem written_forms_canonical_foreign :
    let vault : Vault :=
      ⟨Vector.replicate 32 0xaa, Vector.replicate 16 0xbb, Vector.replicate 16 0xcc, none⟩
    let foreign := foreignText vault.record.ciphertext vault.record.salt vault.record.iv
    let spaced := vault.prettyText ++ "\n"
    ofText spaced = .ok vault ∧ ofText foreign = .ok vault ∧ reencode spaced = reencode foreign ∧
      ∃ again, reencode foreign = .ok again ∧ ofText again = .ok vault ∧
        vault.IsCanonical again := by
  intro vault foreign spaced
  obtain ⟨_, readsSpaced, stable, same⟩ := written_forms_canonical
  have read : ofText spaced = .ok vault := readsSpaced vault "\n" (by simp [Blank, isBlank])
  have isWritten := ofText_eq_ok_iff.mp vault.ofText_prettyText
  have readForeign : ofText foreign = .ok vault :=
    ofText_eq_ok_iff.mpr (isWritten.of_sameMeaning (sameMeaning_foreignText rfl))
  obtain ⟨again, written, readAgain, _, canonical⟩ := stable foreign vault readForeign
  exact ⟨read, readForeign, (same spaced foreign vault vault read readForeign).mp rfl, again,
    written, readAgain, (canonical again).mpr rfl⟩

end SeedVault.Vault
