/-
The program as a whole: from the command line and the environment to what is
written, and to the report of a failure.
-/

import SeedVault.Command
import SeedVault.CommandLine
import SeedVault.Config
import SeedVault.Log.Filter
import SeedVault.Store.File

namespace SeedVault

/-- Why a run of the program fails. -/
inductive ProgramError
  | usage (cause : UsageError)
  | config (cause : ConfigError)
  | setting (cause : SettingError)
  | expected (text : String) (cause : AddressError)
  | command (cause : CommandError)
deriving DecidableEq

namespace ProgramError

/-- What went wrong, followed by its causes. -/
def chain : ProgramError → List String
  | usage cause => [cause.message]
  | config cause => "Failed to load config" :: cause.chain
  | setting cause => ["Configuration validation failed", cause.message]
  | expected text cause => [s!"Invalid --expect address: {text}", cause.message]
  | command cause => cause.chain

/-- Whether the report numbers the causes. A malformed configuration has a further
cause, the place in the file, which is not reported. -/
def isNumbered (error : ProgramError) : Bool :=
  error = .config .malformed || 2 < error.chain.length

/-- Sets off a text of several lines. -/
def indent (first others text : String) : String :=
  first ++ String.join (text.toList.map fun char =>
    if char = '\n' then "\n" ++ others else char.toString)

def numberedCause (cause : String) (number : Nat) : String :=
  let digits := toString number
  let blanks := String.ofList (List.replicate (5 - digits.length) ' ')
  indent (blanks ++ digits ++ ": ") "       " cause

/-- The text that reports the error, without an end of line. -/
def report (error : ProgramError) : String :=
  let causes := error.chain.tail
  let shown :=
    if error.isNumbered then causes.zipIdx.map fun (cause, number) => numberedCause cause number
    else causes.map (indent "    " "    ")
  "Error: " ++ error.chain.headD "" ++
    if causes.isEmpty then "" else "\n\nCaused by:\n" ++ "\n".intercalate shown

end ProgramError

namespace Program

def versionText : String := "aegen-wallet 0.1.0\n"

def helpLines : List String :=
  [ "Aegen Wallet: recovery phrases and password vaults",
    "",
    "USAGE:",
    "    aegen-wallet [OPTIONS] <COMMAND>",
    "",
    "COMMANDS:",
    "    create                    Generate a phrase, confirm the backup, seal and store it",
    "    import [--force]          Import a phrase, hex seed or secret",
    "    unlock [--expect ADDR]    Unlock the vault and print the address",
    "    export-key [--expect ADDR]",
    "                              Unlock the vault and print the private key",
    "    change-password [--expect ADDR]",
    "                              Re-seal the vault under a new password",
    "    forget                    Delete the stored vault",
    "    check-phrase              Validate a recovery phrase read from stdin",
    "    check-address ADDR        Validate an address",
    "",
    "OPTIONS:",
    "    -c, --config <PATH>   Config file path (default: ~/.aegen/config.toml)",
    "    -h, --help            Show this help message",
    "    -V, --version         Show version",
    "",
    "ENVIRONMENT VARIABLES (override config file):",
    "    AEGEN_VAULT_PATH            Vault file path",
    "    AEGEN_LOG_LEVEL             Log level (error/warn/info/debug/trace)",
    "    AEGEN_MIN_PASSWORD_LENGTH   Minimum vault password length (>= 8)",
    "",
    "--expect is needed for vaults written before password checking existed:",
    "without it a wrong password cannot be told apart from a right one.",
    "" ]

def helpText : String :=
  String.join (helpLines.map (· ++ "\n"))

variable {m : Type → Type} [Monad m] [Disk m] [Entropy m] [Terminal m]

def write (text : String) : ExceptT ProgramError m Unit :=
  ExceptT.lift (Terminal.write text)

/-- A check that the program stops at. -/
def check {ε α : Type} (asError : ε → ProgramError) (result : Except ε α) :
    ExceptT ProgramError m α :=
  ExceptT.mk (pure (result.mapError asError))

/-- Tells which parts of a filter of the log are passed over. -/
def warnOfFilter (filter : String) : ExceptT ProgramError m Unit :=
  ExceptT.lift ((Log.Filter.problems filter).forM fun problem =>
    Terminal.warn s!"warning: {problem.message}, ignoring it")

/-- The wallet that a configuration describes. -/
def wallet (config : Config) : Wallet m where
  store := Store.file config.vaultPath
  policy := Password.Policy.ofMinLength config.minPasswordLength
  challengeWords := config.backupCheckWords

/-- Does what is asked for. An expected address is looked at before anything else
is done. -/
def serve (wallet : Wallet m) (request : Request) : ExceptT ProgramError m Unit := do
  let address (text : Option String) : ExceptT ProgramError m (Option Address) :=
    check (fun (text, cause) => .expected text cause) (CommandLine.expectedAddress text)
  let command (run : ExceptT CommandError m Unit) : ExceptT ProgramError m Unit :=
    run.adapt .command
  match request with
  | .create => command (Command.create wallet)
  | .importSeed overwrite => command (Command.importSeed wallet overwrite)
  | .unlock expected => do command (Command.unlock wallet (← address expected))
  | .exportKey expected => do command (Command.exportKey wallet (← address expected))
  | .changePassword expected => do command (Command.changePassword wallet (← address expected))
  | .forget => command (Command.forget wallet)
  | .checkPhrase => command Command.checkPhrase
  | .checkAddress text => command (Command.checkAddress text)

/-- Runs the program for a user with the given home, arguments and environment. -/
def run (home : Option Path) (arguments : List String) (lookup : String → Option String) :
    ExceptT ProgramError m Unit := do
  match ← check .usage (CommandLine.options arguments) with
  | .help => write helpText
  | .version => write versionText
  | .run configPath rest =>
    match ← check .usage (CommandLine.parse rest) with
    | none => write helpText
    | some request =>
      let loaded ← (Config.load home (configPath.map Path.ofText)).adapt .config
      let config := loaded.withEnvironment lookup
      check .setting config.validate
      warnOfFilter config.logLevel
      serve (wallet config) request

end Program

end SeedVault
