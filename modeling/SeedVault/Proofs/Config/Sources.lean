/-
Where the settings of the program come from. A document says some of them, the file in which it
stands is given or found at home, and the environment wins over what the document says.
-/

import SeedVault.Proofs.Config.Count
import SeedVault.Proofs.Disk.Reading

namespace SeedVault

namespace Toml

/-- A section is a table, or an array of its fields in order, or a date, which has no fields. -/
def IsSection : Value → Prop
  | .table _ _ | .array _ | .moment => True
  | _ => False

/-- What is given for a field, whose place is known, in a section that may be missing. -/
def given (found : Option Value) (name : String) (place : Nat) : Option Value :=
  match found with
  | some (.table _ fields) => fields.lookup name
  | some (.array items) => items[place]?
  | _ => none

end Toml

/-- The settings that a document may give. -/
structure Settings where
  vaultPath : Option String := none
  logLevel : Option String := none
  minPasswordLength : Option Nat := none
  backupCheckWords : Option Nat := none
deriving DecidableEq

/-- A document gives some settings: its sections are sections, and whatever is in them under the
name of a setting is a text or a count. -/
structure Settings.AreGiven (members : Toml.Members) (settings : Settings) : Prop where
  wallet : ∀ value ∈ members.lookup "wallet", Toml.IsSection value
  security : ∀ value ∈ members.lookup "security", Toml.IsSection value
  vaultPath : Toml.given (members.lookup "wallet") "vault_path" 0 = settings.vaultPath.map .text
  logLevel : Toml.given (members.lookup "wallet") "log_level" 1 = settings.logLevel.map .text
  minPasswordLength : Toml.given (members.lookup "security") "min_password_length" 0 =
    settings.minPasswordLength.map fun count => .integer count
  backupCheckWords : Toml.given (members.lookup "security") "backup_check_words" 1 =
    settings.backupCheckWords.map fun count => .integer count

namespace Config

/-- The configuration with what is given, and with the defaults for the rest. -/
def ofSettings (home : Option Path) (settings : Settings) : Config where
  vaultPath := (settings.vaultPath.map Path.ofText).getD ((directory home).join "vault.json")
  logLevel := settings.logLevel.getD "info"
  minPasswordLength := settings.minPasswordLength.getD 8
  backupCheckWords := settings.backupCheckWords.getD 3

section fields

variable {value : Toml.Value} {found : Option Toml.Value} {text : String} {count : Nat}

theorem text?_eq_some_iff : text? value = some text ↔ value = .text text := by
  cases value <;> simp [text?]

theorem count?_eq_some_iff : count? value = some count ↔ value = .integer count := by
  cases value with
  | integer number =>
      rw [count?, Option.ite_none_right_eq_some, Option.some.injEq, Toml.Value.integer.injEq]
      omega
  | _ => simp [count?]

/-- A field that may be missing is read, or its default is taken. -/
theorem orDefault_eq_some_iff {α β : Type} {read? : Toml.Value → Option α} {default result : α}
    {wrap : β → Toml.Value} {convert : β → α}
    (reads : ∀ value result, read? value = some result ↔
      ∃ said, value = wrap said ∧ convert said = result) :
    orDefault read? default found = some result ↔
      ∃ said : Option β, found = said.map wrap ∧ (said.map convert).getD default = result := by
  cases found with
  | none =>
      rw [orDefault, Option.some.injEq]
      constructor
      · rintro rfl
        exact ⟨none, rfl, rfl⟩
      · rintro ⟨said, missing, rfl⟩
        cases said with
        | none => rfl
        | some said => cases missing
  | some value =>
      rw [orDefault, reads]
      constructor
      · rintro ⟨said, rfl, rfl⟩
        exact ⟨some said, rfl, rfl⟩
      · rintro ⟨said, present, rfl⟩
        cases said with
        | none => cases present
        | some said => exact ⟨said, Option.some.inj present, rfl⟩

/-- Both fields of a section are what is given for them. -/
theorem fields?_eq_some_iff {first second : String} {fields : List (Option Toml.Value)} :
    fields? [first, second] value = some fields ↔ Toml.IsSection value ∧
      fields = [Toml.given (some value) first 0, Toml.given (some value) second 1] := by
  cases value <;> simp [fields?, Toml.IsSection, Toml.given, eq_comm]

end fields

section sections

variable {α β γ δ : Type} {first second : String}
  {readLeft? : Toml.Value → Option α} {readRight? : Toml.Value → Option β}
  {wrapLeft : γ → Toml.Value} {wrapRight : δ → Toml.Value}
  {convertLeft : γ → α} {convertRight : δ → β} {left : α} {right : β} {update : α → β → Config}
  {config result : Config} {found : Option Toml.Value}

/-- Takes over the two fields of a section that may be missing. -/
def withSection (first second : String) (readLeft? : Toml.Value → Option α)
    (readRight? : Toml.Value → Option β) (left : α) (right : β) (update : α → β → Config) :
    Option Toml.Value → Option Config
  | none => some (update left right)
  | some value => do
    match ← fields? [first, second] value with
    | [one, other] => return update (← orDefault readLeft? left one) (← orDefault readRight? right other)
    | _ => none

theorem withWallet_eq : config.withWallet found =
    withSection "vault_path" "log_level" (fun value => Path.ofText <$> text? value) text?
      config.vaultPath config.logLevel
      (fun vaultPath logLevel => { config with vaultPath, logLevel }) found := by
  cases found <;> rfl

theorem withSecurity_eq : config.withSecurity found =
    withSection "min_password_length" "backup_check_words" count? count?
      config.minPasswordLength config.backupCheckWords
      (fun minPasswordLength backupCheckWords =>
        { config with minPasswordLength, backupCheckWords }) found := by
  cases found <;> rfl

/-- A section is taken over exactly if it is one and both of its fields are what they should be.
A field that is not given is left as it is. -/
theorem withSection_eq_some_iff
    (readsLeft : ∀ value result, readLeft? value = some result ↔
      ∃ said, value = wrapLeft said ∧ convertLeft said = result)
    (readsRight : ∀ value result, readRight? value = some result ↔
      ∃ said, value = wrapRight said ∧ convertRight said = result) :
    withSection first second readLeft? readRight? left right update found = some result ↔
      (∀ value ∈ found, Toml.IsSection value) ∧ ∃ (one : Option γ) (other : Option δ),
        Toml.given found first 0 = one.map wrapLeft ∧
        Toml.given found second 1 = other.map wrapRight ∧
        update ((one.map convertLeft).getD left) ((other.map convertRight).getD right) = result := by
  cases found with
  | none =>
      rw [withSection, Option.some.injEq]
      constructor
      · rintro rfl
        exact ⟨nofun, none, none, rfl, rfl, rfl⟩
      · rintro ⟨_, one, other, noOne, noOther, rfl⟩
        cases one with
        | some _ => cases noOne
        | none =>
            cases other with
            | some _ => cases noOther
            | none => rfl
  | some value =>
      simp only [withSection, Option.bind_eq_bind, Option.bind_eq_some_iff, fields?_eq_some_iff,
        Option.mem_some, forall_eq']
      constructor
      · rintro ⟨_, ⟨isSection, fields⟩, ran⟩
        subst fields
        simp only [Option.bind_eq_some_iff, orDefault_eq_some_iff readsLeft,
          orDefault_eq_some_iff readsRight] at ran
        obtain ⟨_, ⟨one, isOne, rfl⟩, _, ⟨other, isOther, rfl⟩, same⟩ := ran
        exact ⟨isSection, one, other, isOne, isOther, Option.some.inj same⟩
      · rintro ⟨isSection, one, other, isOne, isOther, rfl⟩
        refine ⟨_, ⟨isSection, rfl⟩, ?_⟩
        simp only [Option.bind_eq_some_iff, orDefault_eq_some_iff readsLeft,
          orDefault_eq_some_iff readsRight]
        exact ⟨_, ⟨one, isOne, rfl⟩, _, ⟨other, isOther, rfl⟩, rfl⟩

/-- The section `wallet` is taken over exactly if it gives texts. -/
theorem withWallet_eq_some_iff : config.withWallet found = some result ↔
    (∀ value ∈ found, Toml.IsSection value) ∧ ∃ path level : Option String,
      Toml.given found "vault_path" 0 = path.map .text ∧
      Toml.given found "log_level" 1 = level.map .text ∧
      { config with
        vaultPath := (path.map Path.ofText).getD config.vaultPath
        logLevel := level.getD config.logLevel } = result := by
  have readsPath (value : Toml.Value) (result : Path) : Path.ofText <$> text? value = some result ↔
      ∃ said, value = .text said ∧ Path.ofText said = result := by
    simp [text?_eq_some_iff]
  have readsLevel (value : Toml.Value) (result : String) : text? value = some result ↔
      ∃ said, value = .text said ∧ id said = result := by
    simp [text?_eq_some_iff]
  simp only [withWallet_eq, withSection_eq_some_iff readsPath readsLevel, Option.map_id_fun, id_eq]

/-- The section `security` is taken over exactly if it gives counts. -/
theorem withSecurity_eq_some_iff : config.withSecurity found = some result ↔
    (∀ value ∈ found, Toml.IsSection value) ∧ ∃ length words : Option Nat,
      Toml.given found "min_password_length" 0 = length.map (fun count => .integer count) ∧
      Toml.given found "backup_check_words" 1 = words.map (fun count => .integer count) ∧
      { config with
        minPasswordLength := length.getD config.minPasswordLength
        backupCheckWords := words.getD config.backupCheckWords } = result := by
  have reads (value : Toml.Value) (result : Nat) : count? value = some result ↔
      ∃ said : Nat, value = .integer said ∧ id said = result := by
    simp [count?_eq_some_iff]
  simp only [withSecurity_eq, withSection_eq_some_iff reads reads, Option.map_id_fun, id_eq]

end sections

/-- A text is a configuration exactly if it is a document that gives some settings. -/
theorem ofText_eq_some_iff {home : Option Path} {text : String} {config : Config} :
    ofText home text = some config ↔ ∃ members settings, Toml.ofText text = some members ∧
      Settings.AreGiven members settings ∧ ofSettings home settings = config := by
  simp only [ofText, Option.bind_eq_bind, Option.bind_eq_some_iff, withWallet_eq_some_iff,
    withSecurity_eq_some_iff]
  constructor
  · rintro ⟨members, parsed, _, ⟨wallet, path, level, isPath, isLevel, rfl⟩, security, length, words,
      isLength, areWords, rfl⟩
    exact ⟨members, ⟨path, level, length, words⟩, parsed,
      ⟨wallet, security, isPath, isLevel, isLength, areWords⟩, rfl⟩
  · rintro ⟨members, settings, parsed, given, rfl⟩
    exact ⟨members, parsed, _, ⟨given.wallet, _, _, given.vaultPath, given.logLevel, rfl⟩,
      given.security, _, _, given.minPasswordLength, given.backupCheckWords, rfl⟩

/-- The file that is read: the given one, or else the one at home if it is there. -/
def IsRead (home explicit : Option Path) (machine : Machine) (path : Path) : Prop :=
  explicit = some path ∨
    explicit = none ∧ machine.disk.isPresent (defaultPath home) = true ∧ path = defaultPath home

/-- The settings that are found: those that the document in the file gives, or none if no file is
given and there is none at home. -/
inductive Finds (home explicit : Option Path) (machine : Machine) : Settings → Prop
  | file {path : Path} {text : String} {members : Toml.Members} {settings : Settings} :
      IsRead home explicit machine path → machine.disk.read path = .ok (Text.utf8 text) →
        Toml.ofText text = some members → settings.AreGiven members →
          Finds home explicit machine settings
  | absent : explicit = none → machine.disk.isPresent (defaultPath home) = false →
      Finds home explicit machine {}

section load

variable {home explicit : Option Path} {machine after : Machine} {path : Path} {config : Config}

/-- A file is read exactly if it holds a document that gives some settings. -/
theorem readFile_eq_ok_iff :
    execute (readFile home path : ExceptT ConfigError (StateM Machine) Config) machine =
      (.ok config, after) ↔ after = machine ∧ ∃ text members settings,
        machine.disk.read path = .ok (Text.utf8 text) ∧ Toml.ofText text = some members ∧
        Settings.AreGiven members settings ∧ ofSettings home settings = config := by
  rw [readFile, execute_bind_eq_ok_iff]
  simp only [execute_adapt_eq_ok_iff, Disk.readText_eq_ok_iff]
  constructor
  · rintro ⟨text, _, ⟨rfl, read⟩, ran⟩
    split at ran
    · rename_i found
      obtain ⟨members, settings, parsed, given, same⟩ := ofText_eq_some_iff.mp found
      cases ran
      exact ⟨rfl, text, members, settings, read, parsed, given, same⟩
    · cases ran
  · rintro ⟨rfl, text, members, settings, read, parsed, given, same⟩
    refine ⟨text, _, ⟨rfl, read⟩, ?_⟩
    rw [ofText_eq_some_iff.mpr ⟨members, settings, parsed, given, same⟩]
    rfl

/-- Reading a file changes nothing, whether it can be read or not. -/
theorem readFile_preserves (home : Option Path) (path : Path) :
    Preserves id (readFile home path : ExceptT ConfigError (StateM Machine) Config) := by
  apply ((Disk.readText_preserves path).adapt _).bind
  intro text
  cases ofText home text with
  | some config => exact Preserves.pure config
  | none => exact Preserves.throw ConfigError.malformed

theorem execute_load (home explicit : Option Path) (machine : Machine) :
    execute (load home explicit : ExceptT ConfigError (StateM Machine) Config) machine =
      match explicit with
      | some path => execute (readFile home path) machine
      | none =>
        if machine.disk.isPresent (defaultPath home) then
          execute (readFile home (defaultPath home)) machine
        else (.ok (default home), machine) := by
  cases explicit with
  | some path => rfl
  | none =>
      have looked : execute (ExceptT.lift (Disk.isPresent (defaultPath home)) :
          ExceptT ConfigError (StateM Machine) Bool) machine =
            (.ok (machine.disk.isPresent (defaultPath home)), machine) := rfl
      rw [load, execute_bind, looked]
      dsimp only
      split <;> rfl

theorem load_preserves (home explicit : Option Path) :
    Preserves id (load home explicit : ExceptT ConfigError (StateM Machine) Config) := by
  intro machine
  rw [execute_load]
  split
  · exact readFile_preserves home _ machine
  · split
    · exact readFile_preserves home _ machine
    · rfl

/-- The configuration is that of the settings that are found. -/
theorem load_eq_ok_iff :
    execute (load home explicit : ExceptT ConfigError (StateM Machine) Config) machine =
      (.ok config, after) ↔ after = machine ∧
        ∃ settings, Finds home explicit machine settings ∧ ofSettings home settings = config := by
  rw [execute_load]
  constructor
  · intro loaded
    split at loaded
    · rename_i path
      obtain ⟨rfl, text, members, settings, read, parsed, given, same⟩ :=
        readFile_eq_ok_iff.mp loaded
      exact ⟨rfl, settings, .file (.inl rfl) read parsed given, same⟩
    · split at loaded
      · rename_i present
        obtain ⟨rfl, text, members, settings, read, parsed, given, same⟩ :=
          readFile_eq_ok_iff.mp loaded
        exact ⟨rfl, settings, .file (.inr ⟨rfl, present, rfl⟩) read parsed given, same⟩
      · rename_i absent
        cases loaded
        exact ⟨rfl, {}, .absent rfl (Bool.eq_false_iff.mpr absent), rfl⟩
  · rintro ⟨rfl, settings, finds, same⟩
    cases finds with
    | @file path text members _ isRead read parsed given =>
        have loaded : execute (readFile home path : ExceptT ConfigError (StateM Machine) Config)
            after = (.ok config, after) :=
          readFile_eq_ok_iff.mpr ⟨rfl, text, members, settings, read, parsed, given, same⟩
        rcases isRead with rfl | ⟨rfl, present, rfl⟩
        · exact loaded
        · simp only [present, if_true]
          exact loaded
    | absent none absent =>
        subst none
        simp only [absent]
        cases same
        rfl

end load

end Config

end SeedVault
