/-
The texts that are read as a vault. They are the objects and lists of a simple grammar, and what
that grammar leaves open does not change what is read.
-/

import SeedVault.Proofs.Hex
import SeedVault.Proofs.Vault.Elements
import SeedVault.Proofs.Vault.Members

namespace SeedVault.Vault

open Json

/-- The texts that say what the fields of a record are, without white space around them. -/
inductive Record.IsWritten (record : Record) : List Char → Prop
  | object {members : List Member} {text : List Char} :
      Separated IsMember members text → FromMembers record members →
        record.IsWritten ('{' :: text ++ ['}'])
  | list {elements : List (List Char)} {text : List Char} :
      Separated IsElement elements text → FromElements record elements →
        record.IsWritten ('[' :: text ++ [']'])

theorem readRecord_sound {text rest : List Char} {record : Record}
    (read : readRecord text = .ok (record, rest)) :
    ∃ before written, Blank before ∧ record.IsWritten written ∧ text = before ++ (written ++ rest) := by
  unfold readRecord at read
  split at read
  · cases read
  · rename_i skips
    obtain ⟨before, blank, rfl⟩ := exists_blank_of_eq skips
    obtain ⟨members, remainder, last, isRemainder, gathers, finished, rfl⟩ := readMembers_sound read
    cases isRemainder with
    | close _ =>
        cases gathers
        cases finished
    | more isComma separated =>
        rw [isComma.eq_nil]
        exact ⟨before, _, blank, .object separated (fromMembers_of_gathers gathers finished), by simp⟩
  · rename_i skips
    obtain ⟨before, blank, rfl⟩ := exists_blank_of_eq skips
    obtain ⟨elements, written, separated, states, rfl⟩ := readList_sound read
    exact ⟨before, _, blank, .list separated states, by simp⟩
  · cases read

theorem readRecord_complete {before written : List Char} {record : Record} (blank : Blank before)
    (isWritten : record.IsWritten written) (rest : List Char) :
    readRecord (before ++ (written ++ rest)) = .ok (record, rest) := by
  unfold readRecord
  cases isWritten with
  | object separated states =>
      obtain ⟨last, gathers, finished⟩ := gathers_of_fromMembers states
      rw [List.append_assoc, List.cons_append, skipBlank_append_cons blank rfl]
      exact readMembers_complete (.more .first separated) gathers finished rest
  | list separated states =>
      rw [List.append_assoc, List.cons_append, skipBlank_append_cons blank rfl]
      exact readList_complete separated states rest

/-- The texts of a record are the digits of the bytes of a vault, which has a tag exactly if the
record does. -/
structure Record.Denotes (record : Record) (vault : Vault) : Prop where
  ciphertext : Hex.Denotes record.ciphertext.toList vault.ciphertext.toList
  salt : Hex.Denotes record.salt.toList vault.salt.toList
  iv : Hex.Denotes record.iv.toList vault.iv.toList
  mac : Option.Rel (fun digits mac => Hex.Denotes digits.toList mac.toList) record.mac vault.mac

theorem decodeField_eq_ok_iff {size : Nat} {field : Field} {text : String} {bytes : Bytes size} :
    decodeField size field text = .ok bytes ↔ Hex.Denotes text.toList bytes.toList := by
  rw [← Hex.decode_eq_ok_iff_denotes, decodeField]
  exact mapError_eq_ok_iff

theorem mapM_decodeField_eq_ok_iff {size : Nat} {field : Field} {text : Option String}
    {bytes : Option (Bytes size)} :
    text.mapM (decodeField size field) = .ok bytes ↔
      Option.Rel (fun digits mac => Hex.Denotes digits.toList mac.toList) text bytes := by
  cases text with
  | none =>
      constructor
      · rintro ⟨⟩
        exact .none
      · rintro ⟨⟩
        rfl
  | some digits =>
      constructor
      · intro decoded
        obtain ⟨found, fieldDecoded, same⟩ := bind_eq_ok_iff.mp decoded
        cases same
        exact .some (decodeField_eq_ok_iff.mp fieldDecoded)
      · rintro ⟨denotes⟩
        exact bind_eq_ok_iff.mpr ⟨_, decodeField_eq_ok_iff.mpr denotes, rfl⟩

theorem decode_eq_ok_iff {record : Record} {vault : Vault} :
    record.decode = .ok vault ↔ record.Denotes vault := by
  constructor
  · intro decoded
    obtain ⟨ciphertext, ciphertextDecoded, decoded⟩ := bind_eq_ok_iff.mp decoded
    obtain ⟨salt, saltDecoded, decoded⟩ := bind_eq_ok_iff.mp decoded
    obtain ⟨iv, ivDecoded, decoded⟩ := bind_eq_ok_iff.mp decoded
    obtain ⟨mac, macDecoded, same⟩ := bind_eq_ok_iff.mp decoded
    cases same
    exact ⟨decodeField_eq_ok_iff.mp ciphertextDecoded, decodeField_eq_ok_iff.mp saltDecoded,
      decodeField_eq_ok_iff.mp ivDecoded, mapM_decodeField_eq_ok_iff.mp macDecoded⟩
  · rintro ⟨ciphertext, salt, iv, mac⟩
    exact bind_eq_ok_iff.mpr ⟨_, decodeField_eq_ok_iff.mpr ciphertext,
      bind_eq_ok_iff.mpr ⟨_, decodeField_eq_ok_iff.mpr salt,
        bind_eq_ok_iff.mpr ⟨_, decodeField_eq_ok_iff.mpr iv,
          bind_eq_ok_iff.mpr ⟨_, mapM_decodeField_eq_ok_iff.mpr mac, rfl⟩⟩⟩⟩

/-- The texts that a vault is written as: those of a record with its digits, with white space
around them. -/
inductive IsWritten (vault : Vault) : List Char → Prop
  | mk {record : Record} {before written after : List Char} :
      Blank before → record.IsWritten written → Blank after → record.Denotes vault →
        vault.IsWritten (before ++ written ++ after)

/-- Reading succeeds exactly on the texts that a vault is written as, and finds that vault. -/
theorem ofText_eq_ok_iff {text : String} {vault : Vault} :
    ofText text = .ok vault ↔ vault.IsWritten text.toList := by
  constructor
  · intro read
    obtain ⟨⟨record, rest⟩, recordRead, read⟩ := bind_eq_ok_iff.mp read
    obtain ⟨_, ended, decoded⟩ := bind_eq_ok_iff.mp read
    obtain ⟨before, written, blank, isWritten, same⟩ :=
      readRecord_sound (mapError_eq_ok_iff.mp recordRead)
    rw [same, ← List.append_assoc]
    exact .mk blank isWritten (atEnd_eq_ok_iff.mp (mapError_eq_ok_iff.mp ended))
      (decode_eq_ok_iff.mp decoded)
  · intro isWritten
    generalize same : text.toList = chars at isWritten
    obtain @⟨record, before, written, after, blank, isWritten, blankAfter, denotes⟩ := isWritten
    have recordRead := readRecord_complete blank isWritten
    refine bind_eq_ok_iff.mpr ⟨(record, after), mapError_eq_ok_iff.mpr ?_, bind_eq_ok_iff.mpr ⟨(),
      mapError_eq_ok_iff.mpr (atEnd_eq_ok_iff.mpr blankAfter), decode_eq_ok_iff.mpr denotes⟩⟩
    rw [same, List.append_assoc]
    exact recordRead _

end SeedVault.Vault
