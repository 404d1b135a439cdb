/-
The two ways to read a vault, as a whole text and as a part of a larger one. They find the same
vaults, and they complain about the same thing unless there are two things to complain about.
-/

import SeedVault.Proofs.Vault.Embedded

namespace SeedVault.Vault

open Json

/-- A text that starts with a record, whatever the rest is. -/
inductive Record.Begins (record : Record) (rest : List Char) : List Char → Prop
  | mk {before written : List Char} :
      Blank before → record.IsWritten written → record.Begins rest (before ++ (written ++ rest))

/-- Reading finds the record that a text starts with. -/
theorem readRecord_eq_ok_iff {text rest : List Char} {record : Record} :
    readRecord text = .ok (record, rest) ↔ record.Begins rest text := by
  constructor
  · intro read
    obtain ⟨before, written, blank, isWritten, rfl⟩ := readRecord_sound read
    exact .mk blank isWritten
  · rintro ⟨blank, isWritten⟩
    exact readRecord_complete blank isWritten rest

/-- The text of a field is not the digits of the bytes of that field. -/
def Record.HasFault (record : Record) (field : Field) (fault : Hex.Fault) : Prop :=
  ∃ digits, record.given field = some digits ∧ Hex.decode field.size digits = .error fault

/-- The first fault in the order of the fields. -/
structure Record.FirstFault (record : Record) (field : Field) (fault : Hex.Fault) : Prop where
  hasFault : record.HasFault field fault
  noneBefore : ∀ other fault, Field.all.idxOf other < Field.all.idxOf field →
    ¬ record.HasFault other fault

theorem Field.mem_all (field : Field) : field ∈ Field.all := by
  cases field <;> decide

theorem Record.FirstFault.unique {record : Record} {field field' : Field} {fault fault' : Hex.Fault}
    (first : record.FirstFault field fault) (first' : record.FirstFault field' fault') :
    field = field' ∧ fault = fault' := by
  rcases Nat.lt_trichotomy (Field.all.idxOf field) (Field.all.idxOf field') with
    before | same | behind
  · exact absurd first.hasFault (first'.noneBefore field fault before)
  · obtain rfl := (List.idxOf_inj field.mem_all).mp same
    obtain ⟨digits, given, faulty⟩ := first.hasFault
    obtain ⟨digits', given', faulty'⟩ := first'.hasFault
    rw [given, Option.some_inj] at given'
    rw [given', faulty'] at faulty
    exact ⟨rfl, (Except.error.inj faulty).symm⟩
  · exact absurd first'.hasFault (first.noneBefore field' fault' behind)

theorem Record.not_hasFault_of_decode {record : Record} {field : Field} {digits : String}
    {bytes : Bytes field.size} (given : record.given field = some digits)
    (decoded : decodeField field.size field digits = .ok bytes) (fault : Hex.Fault) :
    ¬ record.HasFault field fault := by
  rintro ⟨digits', given', faulty⟩
  rw [given, Option.some_inj] at given'
  have read := mapError_eq_ok_iff.mp decoded
  rw [given', faulty] at read
  cases read

/-- The texts of a record that denotes a vault have no faults. -/
theorem Record.Denotes.not_hasFault {record : Record} {vault : Vault}
    (denotes : record.Denotes vault) (field : Field) (fault : Hex.Fault) :
    ¬ record.HasFault field fault := by
  cases field with
  | ciphertext =>
      exact not_hasFault_of_decode rfl (decodeField_eq_ok_iff.mpr denotes.ciphertext) fault
  | salt => exact not_hasFault_of_decode rfl (decodeField_eq_ok_iff.mpr denotes.salt) fault
  | iv => exact not_hasFault_of_decode rfl (decodeField_eq_ok_iff.mpr denotes.iv) fault
  | mac =>
      rintro ⟨digits, given, faulty⟩
      have tagged : record.mac = some digits := given
      have tag := denotes.mac
      generalize vault.mac = mac at tag
      rw [tagged] at tag
      cases tag with
      | some isTag =>
          exact not_hasFault_of_decode given (decodeField_eq_ok_iff.mpr isTag) fault
            ⟨digits, given, faulty⟩

theorem decodeField_eq_error_iff {size : Nat} {field : Field} {digits : String}
    {problem : TextError} :
    decodeField size field digits = .error problem ↔
      ∃ fault, problem = .field field fault ∧ Hex.decode size digits = .error fault :=
  mapError_eq_error_iff

theorem exists_fault_of_mapM {size : Nat} {field : Field} {digits : Option String}
    {problem : TextError} (failed : digits.mapM (decodeField size field) = .error problem) :
    ∃ fault given, problem = .field field fault ∧ digits = some given ∧
      Hex.decode size given = .error fault := by
  cases digits with
  | none => cases failed
  | some given =>
      rcases bind_eq_error_iff.mp failed with fieldFailed | ⟨_, _, absurdity⟩
      · obtain ⟨fault, same, faulty⟩ := decodeField_eq_error_iff.mp fieldFailed
        exact ⟨fault, given, same, rfl, faulty⟩
      · cases absurdity

/-- Fields are looked at one after the other, and the first fault ends that. -/
theorem Record.firstFault_of_decode {record : Record} {problem : TextError}
    (failed : record.decode = .error problem) :
    ∃ field fault, problem = .field field fault ∧ record.FirstFault field fault := by
  rcases bind_eq_error_iff.mp failed with fieldFailed | ⟨_, ciphertextDecoded, failed⟩
  · obtain ⟨fault, same, faulty⟩ := decodeField_eq_error_iff.mp fieldFailed
    exact ⟨.ciphertext, fault, same, ⟨_, rfl, faulty⟩, fun _ _ before => absurd before (Nat.not_lt_zero _)⟩
  have ciphertextSound := not_hasFault_of_decode (Eq.refl (record.given .ciphertext)) ciphertextDecoded
  rcases bind_eq_error_iff.mp failed with fieldFailed | ⟨_, saltDecoded, failed⟩
  · obtain ⟨fault, same, faulty⟩ := decodeField_eq_error_iff.mp fieldFailed
    refine ⟨.salt, fault, same, ⟨_, rfl, faulty⟩, fun other fault' before => ?_⟩
    cases other with
    | ciphertext => exact ciphertextSound fault'
    | salt | iv | mac => exact absurd before (by decide)
  have saltSound := not_hasFault_of_decode (Eq.refl (record.given .salt)) saltDecoded
  rcases bind_eq_error_iff.mp failed with fieldFailed | ⟨_, ivDecoded, failed⟩
  · obtain ⟨fault, same, faulty⟩ := decodeField_eq_error_iff.mp fieldFailed
    refine ⟨.iv, fault, same, ⟨_, rfl, faulty⟩, fun other fault' before => ?_⟩
    cases other with
    | ciphertext => exact ciphertextSound fault'
    | salt => exact saltSound fault'
    | iv | mac => exact absurd before (by decide)
  have ivSound := not_hasFault_of_decode (Eq.refl (record.given .iv)) ivDecoded
  rcases bind_eq_error_iff.mp failed with macFailed | ⟨_, _, absurdity⟩
  · obtain ⟨fault, digits, same, given, faulty⟩ := exists_fault_of_mapM macFailed
    refine ⟨.mac, fault, same, ⟨digits, given, faulty⟩, fun other fault' before => ?_⟩
    cases other with
    | ciphertext => exact ciphertextSound fault'
    | salt => exact saltSound fault'
    | iv => exact ivSound fault'
    | mac => exact absurd before (by decide)
  · cases absurdity

/-- A record denotes no vault exactly if it has a fault, and the first one is reported. -/
theorem Record.decode_eq_error_iff {record : Record} {problem : TextError} :
    record.decode = .error problem ↔
      ∃ field fault, problem = .field field fault ∧ record.FirstFault field fault := by
  constructor
  · exact firstFault_of_decode
  · rintro ⟨field, fault, rfl, first⟩
    cases decoded : record.decode with
    | ok vault =>
        have sound := (decode_eq_ok_iff.mp decoded).not_hasFault field fault
        exact absurd first.hasFault sound
    | error problem =>
        obtain ⟨field', fault', same, first'⟩ := firstFault_of_decode decoded
        obtain ⟨rfl, rfl⟩ := first.unique first'
        rw [same]

theorem atEnd_of_not_blank {text : List Char} (solid : ¬ Blank text) :
    atEnd text = .error .trailingCharacters := by
  rw [atEnd, if_neg]
  intro empty
  exact solid (atEnd_eq_ok_iff.mp (if_pos empty))

theorem ofText_of_begins {text : String} {record : Record} {rest : List Char}
    (begins : record.Begins rest text.toList) :
    ofText text = ((atEnd rest).mapError .json).bind fun _ => record.decode := by
  have read := readRecord_eq_ok_iff.mpr begins
  rw [ofText, read]
  rfl

theorem ofEmbedded_of_begins {text : String} {record : Record} {rest : List Char}
    (begins : record.Begins rest text.toList) :
    ofEmbedded text =
      record.decode.bind fun vault => ((atEnd rest).mapError .json).bind fun _ => .ok vault := by
  have read := readRecord_eq_ok_iff.mpr begins
  rw [ofEmbedded, read]
  rfl

/-- Both readers find the same vaults. -/
theorem ofEmbedded_eq_ok_iff {text : String} {vault : Vault} :
    ofEmbedded text = .ok vault ↔ ofText text = .ok vault := by
  constructor
  · intro read
    obtain ⟨found, recordRead, read⟩ := bind_eq_ok_iff.mp read
    obtain ⟨_, decoded, read⟩ := bind_eq_ok_iff.mp read
    obtain ⟨_, ended, same⟩ := bind_eq_ok_iff.mp read
    cases same
    exact bind_eq_ok_iff.mpr ⟨found, recordRead, bind_eq_ok_iff.mpr ⟨(), ended, decoded⟩⟩
  · intro read
    obtain ⟨found, recordRead, read⟩ := bind_eq_ok_iff.mp read
    obtain ⟨_, ended, decoded⟩ := bind_eq_ok_iff.mp read
    exact bind_eq_ok_iff.mpr ⟨found, recordRead, bind_eq_ok_iff.mpr ⟨vault, decoded,
      bind_eq_ok_iff.mpr ⟨(), ended, rfl⟩⟩⟩

/-- What the two readers say of a text that neither of them reads, the one for a part of a larger
text first. -/
inductive Complaints (text : List Char) : TextError → TextError → Prop
  /-- There is no record, or there is one without a fault, and more than white space follows. -/
  | json {problem : Problem} :
      (∀ (record : Record) (rest : List Char), record.Begins rest text →
        ¬ Blank rest ∧ ∃ vault, record.Denotes vault) →
        Complaints text (.json problem) (.json problem)
  | field {record : Record} {rest : List Char} {field : Field} {fault : Hex.Fault} :
      record.Begins rest text → record.FirstFault field fault → Blank rest →
        Complaints text (.field field fault) (.field field fault)
  | continued {record : Record} {rest : List Char} {field : Field} {fault : Hex.Fault} :
      record.Begins rest text → record.FirstFault field fault → ¬ Blank rest →
        Complaints text (.field field fault) (.json .trailingCharacters)

theorem complaints_of_unread {text : String} {problem : Problem} {cause other : TextError}
    (unread : readRecord text.toList = .error problem) (embedded : ofEmbedded text = .error cause)
    (whole : ofText text = .error other) : Complaints text.toList cause other := by
  rw [ofEmbedded, unread] at embedded
  rw [ofText, unread] at whole
  cases embedded
  cases whole
  refine .json fun record rest begins => ?_
  rw [readRecord_eq_ok_iff.mpr begins] at unread
  cases unread

theorem complaints_of_begins {text : String} {record : Record} {rest : List Char}
    {cause other : TextError} (begins : record.Begins rest text.toList)
    (embedded : ofEmbedded text = .error cause) (whole : ofText text = .error other) :
    Complaints text.toList cause other := by
  rw [ofEmbedded_of_begins begins] at embedded
  rw [ofText_of_begins begins] at whole
  cases decoded : record.decode with
  | error problem =>
      obtain ⟨field, fault, rfl, first⟩ := Record.firstFault_of_decode decoded
      rw [decoded] at embedded whole
      cases embedded
      by_cases blank : Blank rest
      · rw [atEnd_eq_ok_iff.mpr blank] at whole
        cases whole
        exact .field begins first blank
      · rw [atEnd_of_not_blank blank] at whole
        cases whole
        exact .continued begins first blank
  | ok vault =>
      rw [decoded] at embedded whole
      by_cases blank : Blank rest
      · rw [atEnd_eq_ok_iff.mpr blank] at whole
        cases whole
      · rw [atEnd_of_not_blank blank] at embedded whole
        cases embedded
        cases whole
        refine .json fun record' rest' begins' => ?_
        have read := readRecord_eq_ok_iff.mpr begins
        rw [readRecord_eq_ok_iff.mpr begins'] at read
        cases read
        exact ⟨blank, vault, decode_eq_ok_iff.mp decoded⟩

/-- Reading a vault as a part of a larger text succeeds where reading it as a whole text does, and
finds the same vault; and it is written in the same way. Where neither reads a text, both say the
same of its JSON or name the same first fault, but for a record with a fault that more than white
space follows: there one names the fault, and the other says that there is more. -/
theorem readers_agree :
    (∀ (text : String) (vault : Vault), ofEmbedded text = .ok vault ↔ ofText text = .ok vault) ∧
    (∀ vault : Vault, vault.embeddedText = vault.compactText) ∧
    ∀ (text : String) (cause other : TextError), ofEmbedded text = .error cause →
      ofText text = .error other → Complaints text.toList cause other := by
  refine ⟨fun text vault => ofEmbedded_eq_ok_iff, embeddedText_eq, ?complaints⟩
  intro text cause other embedded whole
  cases read : readRecord text.toList with
  | error problem => exact complaints_of_unread read embedded whole
  | ok found => exact complaints_of_begins (readRecord_eq_ok_iff.mp read) embedded whole

/-- Two fields are bad and a letter follows: the first of them is named by the one reader, and the
letter by the other. -/
theorem readers_agree_continued :
    let vault : Vault :=
      ⟨Vector.replicate 32 0xaa, Vector.replicate 16 0xbb, Vector.replicate 16 0xcc, none⟩
    let record : Record := { vault.record with salt := "0g", iv := "" }
    let text := record.text ++ "x"
    ofEmbedded text = .error (.field .salt (.length 2)) ∧
      ofText text = .error (.json .trailingCharacters) ∧
        Complaints text.toList (.field .salt (.length 2)) (.json .trailingCharacters) := by
  intro vault record text
  have begins : record.Begins ['x'] text.toList := by
    have starts : record.Begins ['x'] ([] ++ (record.text.toList ++ ['x'])) :=
      .mk .nil record.isWritten_text
    simpa [text] using starts
  have ciphertextSound (fault : Hex.Fault) : ¬ record.HasFault .ciphertext fault :=
    vault.denotes_record.not_hasFault .ciphertext fault
  have first : record.FirstFault .salt (.length 2) := by
    refine ⟨⟨"0g", rfl, rfl⟩, fun other fault before => ?_⟩
    cases other with
    | ciphertext => exact ciphertextSound fault
    | salt | iv | mac => exact absurd before (by decide)
  have solid : ¬ Blank ['x'] := by simp [Blank, isBlank]
  have decoded : record.decode = .error (.field .salt (.length 2)) :=
    Record.decode_eq_error_iff.mpr ⟨_, _, rfl, first⟩
  have embedded : ofEmbedded text = .error (.field .salt (.length 2)) := by
    rw [ofEmbedded_of_begins begins, decoded]
    rfl
  have whole : ofText text = .error (.json .trailingCharacters) := by
    rw [ofText_of_begins begins, atEnd_of_not_blank solid]
    rfl
  obtain ⟨_, _, complaints⟩ := readers_agree
  exact ⟨embedded, whole, complaints text _ _ embedded whole⟩

end SeedVault.Vault
