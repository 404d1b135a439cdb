/-
Reading the written form of a vault. First the texts of the fields are read, from
an object with its members in any order or from a list; then their digits are
looked at.
-/

import SeedVault.Hex
import SeedVault.Json.Expected
import SeedVault.Json.Skip
import SeedVault.Vault.Basic

namespace SeedVault.Vault

open Json

/-- The texts of the fields. -/
structure Record where
  ciphertext : String
  salt : String
  iv : String
  mac : Option String
deriving DecidableEq

/-- The fields that were read so far. A tag may be given as `null`. -/
structure Draft where
  ciphertext : Option String := none
  salt : Option String := none
  iv : Option String := none
  mac : Option (Option String) := none

namespace Draft

def has (draft : Draft) : Field → Bool
  | .ciphertext => draft.ciphertext.isSome
  | .salt => draft.salt.isSome
  | .iv => draft.iv.isSome
  | .mac => draft.mac.isSome

/-- The record, if no field but the tag is missing. -/
def finish (draft : Draft) : Except Problem Record :=
  match draft.ciphertext, draft.salt, draft.iv with
  | some ciphertext, some salt, some iv => .ok ⟨ciphertext, salt, iv, draft.mac.join⟩
  | none, _, _ => .error (.missingField Field.ciphertext.name)
  | _, none, _ => .error (.missingField Field.salt.name)
  | _, _, none => .error (.missingField Field.iv.name)

end Draft

/-- Reads a text or `null`. -/
def readOptionalField (text : List Char) : Reading (Option String) :=
  match skipBlank text with
  | 'n' :: rest => (literal ['u', 'l', 'l'] rest).map (none, ·)
  | _ => (readString text).map fun (value, rest) => (some value, rest)

/-- Reads the next key of an object, or its closing bracket. -/
def readKey (first : Bool) (text : List Char) : Reading (Option String) :=
  match skipBlank text with
  | [] => .error .endOfObject
  | '}' :: rest => .ok (none, rest)
  | char :: rest =>
    if first then
      if char = '"' then (readText rest).map fun (key, rest) => (some key, rest)
      else .error .keyDue
    else if char = ',' then
      match skipBlank rest with
      | [] => .error .endOfValue
      | '}' :: _ => .error .trailingComma
      | '"' :: rest => (readText rest).map fun (key, rest) => (some key, rest)
      | _ => .error .keyDue
    else .error .objectEndDue

/-- Reads the value of a known field. -/
def readKnown (draft : Draft) (field : Field) (text : List Char) : Reading Draft :=
  match field with
  | .ciphertext => (readString text).map fun (value, rest) =>
    ({ draft with ciphertext := some value }, rest)
  | .salt => (readString text).map fun (value, rest) =>
    ({ draft with salt := some value }, rest)
  | .iv => (readString text).map fun (value, rest) =>
    ({ draft with iv := some value }, rest)
  | .mac => (readOptionalField text).map fun (value, rest) =>
    ({ draft with mac := some value }, rest)

/-- Reads what follows a key. A key that is not the name of a field is skipped
with its value; the name of a field may occur once. -/
def readMember (draft : Draft) (key : String) (text : List Char) : Reading Draft :=
  match Field.ofName? key with
  | none => ((skipColon text).bind skipValue).map (draft, ·)
  | some field =>
    if draft.has field then .error (.duplicateField field.name)
    else (skipColon text).bind (readKnown draft field)

theorem length_lt_of_readOptionalField {text rest : List Char} {value : Option String}
    (read : readOptionalField text = .ok (value, rest)) : rest.length < text.length := by
  have blank := length_skipBlank_le text
  unfold readOptionalField at read
  split at read
  · rename_i equation
    rw [equation] at blank
    match literalRead : literal _ _, read with
    | .ok after, read =>
      have := length_literal_le literalRead
      simp only [Except.map, Except.ok.injEq, Prod.mk.injEq] at read
      rw [← read.2]
      simp only [List.length_cons] at blank
      omega
  · obtain ⟨_, stringRead⟩ := map_eq_ok (f := some) read
    exact length_lt_of_readString stringRead

theorem length_lt_of_readKey {first : Bool} {text rest : List Char} {key : Option String}
    (read : readKey first text = .ok (key, rest)) : rest.length < text.length := by
  have blank := length_skipBlank_le text
  unfold readKey at read
  split at read
  · simp at read
  all_goals (rename_i equation; rw [equation] at blank; simp only [List.length_cons] at blank)
  · cases read
    omega
  · split at read
    · split at read
      · obtain ⟨_, textRead⟩ := map_eq_ok (f := some) read
        have := length_lt_of_readText textRead
        omega
      · simp at read
    · split at read
      · rename_i tail _ _ _
        have inner := length_skipBlank_le tail
        split at read
        · simp at read
        · simp at read
        · rename_i equation'
          rw [equation'] at inner
          obtain ⟨_, textRead⟩ := map_eq_ok (f := some) read
          have := length_lt_of_readText textRead
          simp only [List.length_cons] at inner
          omega
        · simp at read
      · simp at read

theorem length_lt_of_readKnown {draft next : Draft} {field : Field} {text rest : List Char}
    (read : readKnown draft field text = .ok (next, rest)) : rest.length < text.length := by
  unfold readKnown at read
  cases field
  · obtain ⟨_, stringRead⟩ :=
      map_eq_ok (f := fun value => { draft with ciphertext := some value }) read
    exact length_lt_of_readString stringRead
  · obtain ⟨_, stringRead⟩ :=
      map_eq_ok (f := fun value => { draft with salt := some value }) read
    exact length_lt_of_readString stringRead
  · obtain ⟨_, stringRead⟩ :=
      map_eq_ok (f := fun value => { draft with iv := some value }) read
    exact length_lt_of_readString stringRead
  · obtain ⟨_, stringRead⟩ :=
      map_eq_ok (f := fun value => { draft with mac := some value }) read
    exact length_lt_of_readOptionalField stringRead

theorem length_lt_of_readMember {draft next : Draft} {key : String} {text rest : List Char}
    (read : readMember draft key text = .ok (next, rest)) : rest.length < text.length := by
  unfold readMember at read
  split at read
  · match colonSkipped : skipColon text, read with
    | .ok middle, read =>
      match valueSkipped : skipValue middle, read with
      | .ok after, read =>
        have := length_lt_of_skipColon colonSkipped
        have := length_le_of_skipWithin valueSkipped
        simp only [Except.bind, valueSkipped, Except.map, Except.ok.injEq, Prod.mk.injEq] at read
        rw [← read.2]
        omega
      | .error _, read => simp [Except.bind, valueSkipped, Except.map] at read
  · split at read
    · simp at read
    · match colonSkipped : skipColon text, read with
      | .ok middle, read =>
        have := length_lt_of_skipColon colonSkipped
        have := length_lt_of_readKnown read
        omega

/-- Reads the members of an object up to its closing bracket. -/
def readMembers (first : Bool) (draft : Draft) (text : List Char) : Reading Record :=
  match _keyRead : readKey first text with
  | .error problem => .error problem
  | .ok (none, rest) => draft.finish.map (·, rest)
  | .ok (some key, rest) =>
    match _memberRead : readMember draft key rest with
    | .error problem => .error problem
    | .ok (draft, rest) => readMembers false draft rest
termination_by text.length
decreasing_by
  have := length_lt_of_readKey _keyRead
  have := length_lt_of_readMember _memberRead
  omega

/-- Whether another item of a list follows; the text is then at its start. -/
def readNext (first : Bool) (text : List Char) : Reading Bool :=
  match skipBlank text with
  | [] => .error .endOfList
  | ']' :: rest => .ok (false, ']' :: rest)
  | char :: rest =>
    if first then .ok (true, char :: rest)
    else if char = ',' then
      match skipBlank rest with
      | [] => .error .endOfValue
      | ']' :: _ => .error .trailingComma
      | item => .ok (true, item)
    else .error .listEndDue

/-- The closing bracket of a list of which no further item is wanted. -/
def readListEnd (text : List Char) : Except Problem (List Char) :=
  match skipBlank text with
  | [] => .error .endOfList
  | ']' :: rest => .ok rest
  | ',' :: rest =>
    match skipBlank rest with
    | ']' :: _ => .error .trailingComma
    | _ => .error .trailingCharacters
  | _ => .error .trailingCharacters

/-- Reads one of the items that a list must have; `count` were read before. -/
def readItem (count : Nat) (text : List Char) : Except Problem (String × List Char) := do
  let (more, rest) ← readNext (count == 0) text
  if more then readString rest
  else .error (.wrongLength count "struct VaultRecord with 4 elements")

/-- Reads the fields in their order, the last one being optional. -/
def readList (text : List Char) : Except Problem (Record × List Char) := do
  let (ciphertext, rest) ← readItem 0 text
  let (salt, rest) ← readItem 1 rest
  let (iv, rest) ← readItem 2 rest
  let (more, rest) ← readNext false rest
  let (mac, rest) ← if more then readOptionalField rest else pure (none, rest)
  let rest ← readListEnd rest
  pure (⟨ciphertext, salt, iv, mac⟩, rest)

/-- Reads a record from the start of a text. -/
def readRecord (text : List Char) : Reading Record :=
  match skipBlank text with
  | [] => .error .endOfValue
  | '{' :: rest => readMembers true {} rest
  | '[' :: rest => readList rest
  | other => .error (mismatch "struct VaultRecord" other)

/-- Why a text is not a written vault. -/
inductive TextError
  | json (problem : Problem)
  | field (which : Field) (fault : Hex.Fault)
deriving DecidableEq

namespace TextError

def detail : TextError → String
  | json problem => problem.message
  | field which (.length found) =>
    s!"{which.name} must be {2 * which.size} hex characters, got {found}"
  | field which fault => s!"{which.name} is not hex: {fault.detail}"

def message (error : TextError) : String :=
  s!"Malformed vault: {error.detail}"

end TextError

/-- The bytes of a field. -/
def decodeField (size : Nat) (field : Field) (text : String) : Except TextError (Bytes size) :=
  (Hex.decode size text).mapError (.field field)

/-- The vault that the texts denote. -/
def Record.decode (record : Record) : Except TextError Vault := do
  let ciphertext ← decodeField 32 .ciphertext record.ciphertext
  let salt ← decodeField 16 .salt record.salt
  let iv ← decodeField 16 .iv record.iv
  let mac ← record.mac.mapM (decodeField 32 .mac)
  pure ⟨ciphertext, salt, iv, mac⟩

/-- Reads a text that is a written vault as a whole: its JSON comes first, down
to the end of the text, and the digits of the fields come last. -/
def ofText (text : String) : Except TextError Vault := do
  let (record, rest) ← (readRecord text.toList).mapError .json
  (atEnd rest).mapError .json
  record.decode

/-- Reads a vault as a part of a larger text, which here has no other part: the
digits of the fields come before what follows the record. -/
def ofEmbedded (text : String) : Except TextError Vault := do
  let (record, rest) ← (readRecord text.toList).mapError .json
  let vault ← record.decode
  (atEnd rest).mapError .json
  pure vault

end SeedVault.Vault
