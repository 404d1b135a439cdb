/-
The configuration of the program: what a file says, else the defaults; and the
variables of the environment, which win over both.
-/

import SeedVault.Disk.Access
import SeedVault.Password.Policy
import SeedVault.Toml.Document

namespace SeedVault

/-- The settings of the program. -/
structure Config where
  vaultPath : Path
  logLevel : String
  minPasswordLength : Nat
  backupCheckWords : Nat
deriving DecidableEq

/-- Why a configuration cannot be read. -/
inductive ConfigError
  | unreadable (path : Path) (cause : DiskError)
  | malformed
deriving DecidableEq

namespace ConfigError

def message : ConfigError → String
  | unreadable path _ => s!"Failed to read config file: {path.text}"
  | malformed => "Failed to parse TOML config"

/-- What went wrong, followed by its causes. -/
def chain (error : ConfigError) : List String :=
  match error with
  | unreadable _ cause => [error.message, cause.message]
  | malformed => [error.message]

end ConfigError

/-- Why a configuration is refused. -/
inductive SettingError
  | noVaultPath
  | shortPasswords
  | backupWords
deriving DecidableEq

def SettingError.message : SettingError → String
  | noVaultPath => "wallet.vault_path must not be empty"
  | shortPasswords => s!"security.min_password_length must be >= {Password.leastLength}"
  | backupWords => "security.backup_check_words must be between 1 and 12"

namespace Config

/-- The directory of the program in the home of a user, or in the current directory
if the user has no home. -/
def directory (home : Option Path) : Path :=
  match home with
  | some home => home.join ".aegen"
  | none => ⟨".aegen", []⟩

def defaultPath (home : Option Path) : Path :=
  (directory home).join "config.toml"

/-- The configuration if there is no file. -/
def default (home : Option Path) : Config where
  vaultPath := (directory home).join "vault.json"
  logLevel := "info"
  minPasswordLength := Password.leastLength
  backupCheckWords := 3

/-- The values of the named fields of a section, which may be given as a table, or
as an array in the order of the names. A date counts as a table without fields. -/
def fields? (names : List String) : Toml.Value → Option (List (Option Toml.Value))
  | .table _ members => some (names.map fun name => members.lookup name)
  | .array items => some (names.zipIdx.map fun (_, place) => items[place]?)
  | .moment => some (names.map fun _ => none)
  | _ => none

def text? : Toml.Value → Option String
  | .text value => some value
  | _ => none

def count? : Toml.Value → Option Nat
  | .integer value => if 0 ≤ value then some value.toNat else none
  | _ => none

/-- A field that may be missing. -/
def orDefault {α : Type} (read? : Toml.Value → Option α) (default : α) :
    Option Toml.Value → Option α
  | some value => read? value
  | none => some default

/-- Takes over what the section `wallet` says. -/
def withWallet (config : Config) (section? : Option Toml.Value) : Option Config := do
  let some value := section? | return config
  match ← fields? ["vault_path", "log_level"] value with
  | [path, level] =>
    let vaultPath ← orDefault (fun value => Path.ofText <$> text? value) config.vaultPath path
    let logLevel ← orDefault text? config.logLevel level
    return { config with vaultPath, logLevel }
  | _ => none

/-- Takes over what the section `security` says. -/
def withSecurity (config : Config) (section? : Option Toml.Value) : Option Config := do
  let some value := section? | return config
  match ← fields? ["min_password_length", "backup_check_words"] value with
  | [length, words] =>
    let minPasswordLength ← orDefault count? config.minPasswordLength length
    let backupCheckWords ← orDefault count? config.backupCheckWords words
    return { config with minPasswordLength, backupCheckWords }
  | _ => none

/-- The configuration that the text of a file gives. -/
def ofText (home : Option Path) (text : String) : Option Config := do
  let members ← Toml.ofText text
  let config ← (default home).withWallet (members.lookup "wallet")
  config.withSecurity (members.lookup "security")

section

variable {m : Type → Type} [Monad m] [Disk m]

def readFile (home : Option Path) (path : Path) : ExceptT ConfigError m Config := do
  let text ← (Disk.readText path).adapt (.unreadable path)
  match ofText home text with
  | some config => return config
  | none => throw .malformed

/-- Reads the given file, or the one in the home of the user if it is there. -/
def load (home explicit : Option Path) : ExceptT ConfigError m Config := do
  match explicit with
  | some path => readFile home path
  | none =>
    if ← ExceptT.lift (Disk.isPresent (m := m) (defaultPath home)) then
      readFile home (defaultPath home)
    else return default home

end

/-- The greatest number that a count may be. -/
def greatestCount : Nat := 0xffffffffffffffff

/-- The count that a text is, a plus sign in front of its digits being allowed. -/
def countOfText? (text : String) : Option Nat :=
  let digits :=
    match text.toList with
    | '+' :: digits => digits
    | digits => digits
  let value := Text.number 10 digits
  if digits ≠ [] ∧ digits.all Char.isDigit ∧ value ≤ greatestCount then some value else none

/-- Takes over what the environment says. A minimum length that is no count is
passed over. -/
def withEnvironment (config : Config) (lookup : String → Option String) : Config where
  vaultPath := ((lookup "AEGEN_VAULT_PATH").map Path.ofText).getD config.vaultPath
  logLevel := (lookup "AEGEN_LOG_LEVEL").getD config.logLevel
  minPasswordLength :=
    ((lookup "AEGEN_MIN_PASSWORD_LENGTH").bind countOfText?).getD config.minPasswordLength
  backupCheckWords := config.backupCheckWords

/-- Checks that the program can work with the configuration. -/
def validate (config : Config) : Except SettingError Unit :=
  if config.vaultPath.isEmpty then .error .noVaultPath
  else if config.minPasswordLength < Password.leastLength then .error .shortPasswords
  else if config.backupCheckWords < 1 ∨ 12 < config.backupCheckWords then .error .backupWords
  else .ok ()

end Config

end SeedVault
