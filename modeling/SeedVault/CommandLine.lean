/-
The command line. Options for the program as a whole are taken out first; the first
word that is left names a command, and the others are for that command.
-/

import SeedVault.Account

namespace SeedVault

/-- What the program is asked to do. -/
inductive Request
  | create
  | importSeed (overwrite : Bool)
  | unlock (expected : Option String)
  | exportKey (expected : Option String)
  | changePassword (expected : Option String)
  | forget
  | checkPhrase
  | checkAddress (text : String)
deriving DecidableEq

/-- Why a command line is refused. -/
inductive UsageError
  | noConfigPath
  | noExpectedAddress
  | unknownArgument (argument : String)
  | expectNotAllowed (command : String)
  | forceNotAllowed
  | notOneAddress
  | unknownCommand (command : String)
  | unexpectedArguments (command : String) (arguments : List String)
deriving DecidableEq

def UsageError.message : UsageError → String
  | noConfigPath => "--config requires a path argument"
  | noExpectedAddress => "--expect requires an address argument"
  | unknownArgument argument => s!"Unknown argument: {argument}"
  | expectNotAllowed command => s!"--expect is not valid for `{command}`"
  | forceNotAllowed => "--force is only valid for `import`"
  | notOneAddress => "check-address takes exactly one address"
  | unknownCommand command => s!"Unknown command: {command}"
  | unexpectedArguments command arguments =>
    s!"Unexpected arguments for `{command}`: " ++ " ".intercalate arguments

namespace CommandLine

/-- The arguments of a command, sorted by what they are. Of several expected
addresses the last one counts. -/
structure Arguments where
  force : Bool := false
  expected : Option String := none
  others : List String := []
deriving DecidableEq

/-- Sorts the arguments of a command, after those that were sorted before. -/
def sort (sorted : Arguments) : List String → Except UsageError Arguments
  | [] => .ok sorted
  | argument :: rest =>
    if argument = "--force" ∨ argument = "-f" then sort { sorted with force := true } rest
    else if argument = "--expect" ∨ argument = "-e" then
      match rest with
      | [] => .error .noExpectedAddress
      | address :: rest => sort { sorted with expected := some address } rest
    else if argument.toList.head? = some '-' then .error (.unknownArgument argument)
    else sort { sorted with others := sorted.others ++ [argument] } rest

/-- Whether an expected address may be given to a command. -/
def takesExpected (command : String) : Bool :=
  command = "unlock" || command = "export-key" || command = "change-password"

/-- The request of a command with sorted arguments. -/
def request (command : String) (arguments : Arguments) : Except UsageError Request :=
  match command, arguments.others with
  | "create", [] => .ok .create
  | "import", [] => .ok (.importSeed arguments.force)
  | "unlock", [] => .ok (.unlock arguments.expected)
  | "export-key", [] => .ok (.exportKey arguments.expected)
  | "change-password", [] => .ok (.changePassword arguments.expected)
  | "forget", [] => .ok .forget
  | "check-phrase", [] => .ok .checkPhrase
  | "check-address", [address] => .ok (.checkAddress address)
  | "check-address", _ => .error .notOneAddress
  | command, [] => .error (.unknownCommand command)
  | command, others => .error (.unexpectedArguments command others)

/-- Reads a command with its arguments. An empty command line asks for nothing. -/
def parse : List String → Except UsageError (Option Request)
  | [] => .ok none
  | command :: rest => do
    let arguments ← sort {} rest
    if arguments.expected.isSome && !takesExpected command then
      throw (.expectNotAllowed command)
    if arguments.force && command ≠ "import" then throw .forceNotAllowed
    return some (← request command arguments)

/-- What the options for the program as a whole ask for. -/
inductive Options
  | help
  | version
  | run (configPath : Option String) (rest : List String)
deriving DecidableEq

namespace Options

/-- Puts an argument in front of those that are left. -/
def withArgument (argument : String) : Options → Options
  | run configPath rest => run configPath (argument :: rest)
  | options => options

/-- Takes a path that an option before the others gives, which the last such
option wins over. -/
def withConfigPath (path : String) : Options → Options
  | run configPath rest => run (some (configPath.getD path)) rest
  | options => options

end Options

/-- Takes out the options for the program as a whole. The first one that asks for
help or for the version decides. -/
def options : List String → Except UsageError Options
  | [] => .ok (.run none [])
  | argument :: rest =>
    if argument = "--config" ∨ argument = "-c" then
      match rest with
      | [] => .error .noConfigPath
      | path :: rest => Options.withConfigPath path <$> options rest
    else if argument = "--help" ∨ argument = "-h" then .ok .help
    else if argument = "--version" ∨ argument = "-V" then .ok .version
    else Options.withArgument argument <$> options rest

/-- The expected address, if one is given. -/
def expectedAddress : Option String → Except (String × AddressError) (Option Address)
  | none => .ok none
  | some text =>
    match Address.parse text with
    | .ok address => .ok (some address)
    | .error cause => .error (text, cause)

end CommandLine

end SeedVault
