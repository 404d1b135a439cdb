/-
Reading the content of a field. A member of an object adds to a draft what it says.
-/

import SeedVault.Proofs.Json.Members
import SeedVault.Vault.Record

namespace SeedVault.Vault

open Json

/-- The content of a field and a way to write it as a value: a text, or `null` for a tag that is
not there. -/
inductive IsContent : Field → Option String → List Char → Prop
  | text {field : Field} {content : String} {written : List Char} :
      Spells written content.toList → IsContent field (some content) ('"' :: written ++ ['"'])
  | null : IsContent .mac none ['n', 'u', 'l', 'l']

theorem IsContent.isJson {field : Field} {content : Option String} {value : List Char}
    (isContent : IsContent field content value) : IsJson .value value := by
  cases isContent with
  | text spells => exact .scalar (.text spells.isQuotable)
  | null => exact .scalar .null

theorem readString_sound {text rest : List Char} {content : String} (field : Field)
    (read : readString text = .ok (content, rest)) :
    ∃ before value, Blank before ∧ IsContent field (some content) value ∧
      text = before ++ (value ++ rest) := by
  unfold readString at read
  split at read
  · cases read
  · rename_i skips
    obtain ⟨before, blank, rfl⟩ := exists_blank_of_eq skips
    obtain ⟨written, spells, rfl⟩ := readText_eq_ok_iff.mp read
    exact ⟨before, _, blank, .text spells, by simp⟩
  · cases read

theorem readString_complete {before value : List Char} {field : Field} {content : String}
    (blank : Blank before) (isContent : IsContent field (some content) value) (rest : List Char) :
    readString (before ++ (value ++ rest)) = .ok (content, rest) := by
  cases isContent with
  | text spells =>
      unfold readString
      rw [List.append_assoc, List.cons_append, skipBlank_append_cons blank rfl]
      exact readText_eq_ok_iff.mpr ⟨_, spells, rfl⟩

theorem readOptionalField_sound {text rest : List Char} {content : Option String}
    (read : readOptionalField text = .ok (content, rest)) :
    ∃ before value, Blank before ∧ IsContent .mac content value ∧ text = before ++ (value ++ rest) := by
  unfold readOptionalField at read
  split at read
  · rename_i skips
    obtain ⟨before, blank, rfl⟩ := exists_blank_of_eq skips
    obtain ⟨rfl, literalRead⟩ := map_pair_eq_ok_iff.mp read
    rw [literal_eq_ok_iff.mp literalRead]
    exact ⟨before, _, blank, .null, rfl⟩
  · obtain ⟨content, rfl, stringRead⟩ := map_value_eq_ok_iff.mp read
    exact readString_sound .mac stringRead

theorem readOptionalField_complete {before value : List Char} {content : Option String}
    (blank : Blank before) (isContent : IsContent .mac content value) (rest : List Char) :
    readOptionalField (before ++ (value ++ rest)) = .ok (content, rest) := by
  unfold readOptionalField
  cases isContent with
  | null =>
      rw [List.cons_append, skipBlank_append_cons blank rfl]
      dsimp only
      exact map_pair_eq_ok_iff.mpr ⟨rfl, literal_eq_ok_iff.mpr rfl⟩
  | text spells =>
      have read := readString_complete blank (IsContent.text spells : IsContent .mac _ _) rest
      rw [List.append_assoc, List.cons_append] at read ⊢
      rw [skipBlank_append_cons blank rfl]
      exact map_value_eq_ok_iff.mpr ⟨_, rfl, read⟩

/-- Reads what the value of a field says. -/
def readContent (field : Field) (text : List Char) : Reading (Option String) :=
  match field with
  | .mac => readOptionalField text
  | _ => (readString text).map fun (value, rest) => (some value, rest)

theorem readContent_sound {field : Field} {text rest : List Char} {content : Option String}
    (read : readContent field text = .ok (content, rest)) :
    ∃ before value, Blank before ∧ IsContent field content value ∧ text = before ++ (value ++ rest) := by
  cases field with
  | mac => exact readOptionalField_sound read
  | ciphertext | salt | iv =>
      obtain ⟨content, rfl, stringRead⟩ := map_value_eq_ok_iff.mp read
      exact readString_sound _ stringRead

theorem readContent_complete {field : Field} {before value : List Char} {content : Option String}
    (blank : Blank before) (isContent : IsContent field content value) (rest : List Char) :
    readContent field (before ++ (value ++ rest)) = .ok (content, rest) := by
  cases field with
  | mac => exact readOptionalField_complete blank isContent rest
  | ciphertext | salt | iv =>
      cases isContent with
      | text spells =>
          have read := readString_complete blank (IsContent.text spells : IsContent .mac _ _) rest
          exact map_value_eq_ok_iff.mpr ⟨_, rfl, read⟩

namespace Draft

/-- What was read for a field, if anything was. -/
def get (draft : Draft) : Field → Option (Option String)
  | .ciphertext => draft.ciphertext.map some
  | .salt => draft.salt.map some
  | .iv => draft.iv.map some
  | .mac => draft.mac

def set (draft : Draft) (field : Field) (content : Option String) : Draft :=
  match field with
  | .ciphertext => { draft with ciphertext := content }
  | .salt => { draft with salt := content }
  | .iv => { draft with iv := content }
  | .mac => { draft with mac := some content }

theorem get_set {draft : Draft} {field : Field} {content : Option String} {value : List Char}
    (isContent : IsContent field content value) : (draft.set field content).get field = some content := by
  cases isContent with
  | text _ => cases field <;> rfl
  | null => rfl

theorem get_set_of_ne {draft : Draft} {field other : Field} (different : other ≠ field)
    (content : Option String) : (draft.set field content).get other = draft.get other := by
  cases field <;> cases other <;> first | rfl | exact absurd rfl different

theorem has_eq_isSome_get (draft : Draft) (field : Field) :
    draft.has field = (draft.get field).isSome := by
  cases field <;> simp [has, get]

theorem get_empty (field : Field) : ({} : Draft).get field = none := by
  cases field <;> rfl

/-- A draft makes a record if it has what the record says for each field but the tag, and that may
be missing. -/
theorem finish_eq_ok_iff {draft : Draft} {record : Record} :
    draft.finish = .ok record ↔
      draft.get .ciphertext = some (some record.ciphertext) ∧
        draft.get .salt = some (some record.salt) ∧
        draft.get .iv = some (some record.iv) ∧ (draft.get .mac).join = record.mac := by
  obtain ⟨ciphertext, salt, iv, mac⟩ := draft
  obtain ⟨_, _, _, _⟩ := record
  cases ciphertext <;> cases salt <;> cases iv <;> simp [finish, get]

end Draft

theorem readKnown_eq (draft : Draft) (field : Field) (text : List Char) :
    readKnown draft field text =
      (readContent field text).map fun (content, rest) => (draft.set field content, rest) := by
  cases field with
  | mac => rfl
  | ciphertext | salt | iv =>
      simp only [readKnown, readContent]
      cases readString text <;> rfl

theorem ofName?_eq_some_iff {name : String} {field : Field} :
    Field.ofName? name = some field ↔ name = field.name := by
  constructor
  · intro found
    have named := List.find?_some found
    exact (beq_iff_eq.mp named).symm
  · rintro rfl
    cases field <;> decide

/-- What a member adds to a draft: nothing, or the content of a field that was not there. -/
inductive Takes (draft : Draft) : Member → Draft → Prop
  | unknown {key : String} {value : List Char} :
      Field.ofName? key = none → Takes draft (key, value) draft
  | known {field : Field} {content : Option String} {value : List Char} :
      draft.get field = none → IsContent field content value →
        Takes draft (field.name, value) (draft.set field content)

theorem readMember_sound {draft next : Draft} {key : String} {text rest : List Char}
    (read : readMember draft key text = .ok (next, rest)) :
    ∃ middle ahead value, Blank middle ∧ Blank ahead ∧ IsJson .value value ∧
      Takes draft (key, value) next ∧ text = middle ++ ':' :: (ahead ++ (value ++ rest)) := by
  unfold readMember at read
  split at read
  · rename_i unknown
    obtain ⟨rfl, skipped⟩ := map_pair_eq_ok_iff.mp read
    obtain ⟨tail, colonSkipped, valueSkipped⟩ := bind_eq_ok_iff.mp skipped
    obtain ⟨middle, blank, rfl⟩ := skipColon_eq_ok_iff.mp colonSkipped
    obtain ⟨ahead, value, blankAhead, isJson, rfl⟩ := skipValue_sound valueSkipped
    exact ⟨middle, ahead, value, blank, blankAhead, isJson, .unknown unknown, rfl⟩
  · rename_i field known
    split at read
    · cases read
    · rename_i absent
      rw [Draft.has_eq_isSome_get, Option.not_isSome_iff_eq_none] at absent
      obtain ⟨tail, colonSkipped, knownRead⟩ := bind_eq_ok_iff.mp read
      obtain ⟨middle, blank, rfl⟩ := skipColon_eq_ok_iff.mp colonSkipped
      rw [readKnown_eq] at knownRead
      obtain ⟨content, rfl, contentRead⟩ := map_value_eq_ok_iff.mp knownRead
      obtain ⟨ahead, value, blankAhead, isContent, rfl⟩ := readContent_sound contentRead
      rw [ofName?_eq_some_iff.mp known]
      exact ⟨middle, ahead, value, blank, blankAhead, isContent.isJson, .known absent isContent, rfl⟩

theorem readMember_complete {draft next : Draft} {key : String}
    {middle ahead value rest : List Char} (blank : Blank middle) (blankAhead : Blank ahead)
    (isJson : IsJson .value value) (takes : Takes draft (key, value) next) (ends : EndsValue rest) :
    readMember draft key (middle ++ ':' :: (ahead ++ (value ++ rest))) = .ok (next, rest) := by
  have colonSkipped := skipColon_eq_ok_iff.mpr
    ⟨middle, blank, Eq.refl (_ ++ ':' :: (ahead ++ (value ++ rest)))⟩
  unfold readMember
  rw [colonSkipped]
  cases takes with
  | unknown unknown =>
      rw [unknown]
      dsimp only
      exact map_pair_eq_ok_iff.mpr ⟨rfl, skipValue_complete blankAhead isJson ends⟩
  | @known field content _ absent isContent =>
      rw [ofName?_eq_some_iff.mpr rfl]
      dsimp only
      rw [Draft.has_eq_isSome_get, absent, Option.isSome_none, if_neg Bool.false_ne_true]
      change readKnown draft field _ = _
      rw [readKnown_eq, readContent_complete blankAhead isContent]
      rfl

end SeedVault.Vault
