/-
The program on a real machine.
-/

import SeedVault.Keyboard
import SeedVault.Program

namespace SeedVault

/-- The number and the text of an error of the operating system. -/
def systemError? : IO.Error → Option (UInt32 × String)
  | .alreadyExists _ code details => some (code, details)
  | .noFileOrDirectory _ code details => some (code, details)
  | .inappropriateType _ code details => some (code, details)
  | .invalidArgument _ code details => some (code, details)
  | .permissionDenied _ code details => some (code, details)
  | .resourceExhausted _ code details => some (code, details)
  | .resourceBusy code details => some (code, details)
  | .unsupportedOperation code details => some (code, details)
  | .hardwareFault code details => some (code, details)
  | .otherError code details => some (code, details)
  | _ => none

/-- Error numbers are positive, but some are told with a minus sign. -/
def errorNumber (code : UInt32) : UInt32 :=
  if code < 0x80000000 then code else 0 - code

def DiskError.ofSystem (error : IO.Error) : DiskError :=
  match (systemError? error).map (Prod.map errorNumber id) with
  | some (2, _) => .notFound
  | some (13, _) => .permissionDenied
  | some (16, _) => .busy
  | some (17, _) => .alreadyExists
  | some (20, _) => .notADirectory
  | some (21, _) => .isADirectory
  | some (36, _) => .nameTooLong
  | some (code, details) => .other s!"{details} (os error {code})"
  | none => .other (toString error)

/-- Uses the disk. No path with a zero in it is passed on. -/
def usingDisk {α : Type} (paths : List Path) (action : IO α) : IO (Except DiskError α) := do
  if paths.any fun path => '\x00' ∈ path.text.toList then return .error .zeroInPath
  try
    return .ok (← action)
  catch error => return .error (.ofSystem error)

/-- Makes a file that its owner alone can use, or empties one that is there. -/
def openPrivate (path : String) : IO Unit := do
  try
    let _ ← IO.FS.Handle.mk path .writeNew
    IO.setAccessRights path ⟨⟨true, true, false⟩, {}, {}⟩
  catch error =>
    match DiskError.ofSystem error with
    | .alreadyExists =>
      let _ ← IO.FS.Handle.mk path .write
    | _ => throw error

instance : Disk IO where
  read path := usingDisk [path] do
    return (← IO.FS.readBinFile path.text).toList
  isPresent path := do
    return (← usingDisk [path] (IO.FS.realPath path.text)).isOk
  isDirectory path := do
    return (← usingDisk [path] (IO.FS.realPath (path.join ".").text)).isOk
  makeDirectory path := usingDisk [path] (IO.FS.createDir path.text)
  openEmpty path := usingDisk [path] (openPrivate path.text)
  append path bytes := usingDisk [path] do
    let file ← IO.FS.Handle.mk path.text .append
    file.write bytes.toByteArray
    file.flush
  rename source target := usingDisk [source, target] (IO.FS.rename source.text target.text)
  remove path := usingDisk [path] (IO.FS.removeFile path.text)

instance : Entropy IO where
  draw size := do
    try
      return Bytes.ofList? (← IO.getRandomBytes size.toUSize).toList
    catch _ => return none

/-- Reads up to the end of a line, byte by byte. -/
partial def readLine (input : IO.FS.Stream) (line : List UInt8) : IO (List UInt8) := do
  match (← input.read 1).toList with
  | [] => return line.reverse
  | byte :: _ =>
    if byte = 10 then return (byte :: line).reverse else readLine input (byte :: line)

/-- Reads what is typed up to the end of a line. The terminal passes on whole lines, and
nothing when its input is ended. -/
partial def readTyped (keyboard : IO.FS.Handle) (draft : Draft) : IO (Option String) := do
  let line ← keyboard.getLine
  match (draft.takeAll line.toList).1 with
  | .goesOn draft => if line.isEmpty then return none else readTyped keyboard draft
  | typing => return typing.text?

/-- Asks for a secret on the terminal, which is told not to show what is typed. -/
def readConcealed (prompt : String) : IO (Option String) := do
  try
    let screen ← IO.FS.Handle.mk "/dev/tty" .write
    let keyboard ← IO.FS.Handle.mk "/dev/tty" .read
    screen.putStr (prompt ++ "\x1b[8m")
    screen.flush
    let secret ← readTyped keyboard .empty
    screen.putStr "\x1b[28m"
    screen.flush
    return secret
  catch _ => return none

instance : Terminal IO where
  write text := do
    let output ← IO.getStdout
    output.putStr text
    output.flush
  warn := IO.eprintln
  readLine := do
    readLine (← IO.getStdin) []
  hidesSecrets := return true
  readHidden := readConcealed

/-- The home in the user's entry in the list of accounts. -/
def accountHome : IO (Option String) := do
  try
    let status ← IO.FS.lines "/proc/self/status"
    let accounts ← IO.FS.lines "/etc/passwd"
    let user := status.findSome? fun line =>
      match line.splitOn "\t" with
      | "Uid:" :: user :: _ => some user
      | _ => none
    return accounts.findSome? fun account =>
      match account.splitOn ":" with
      | [_, _, number, _, _, home, _] => if some number = user then some home else none
      | _ => none
  catch _ => return none

/-- The home of the user: the one in the environment, or else that of the account. -/
def homeOfUser : IO (Option Path) := do
  let inEnvironment := (← IO.getEnv "HOME").filter (· ≠ "")
  let home := inEnvironment.or ((← accountHome).filter (· ≠ ""))
  return home.map Path.ofText

/-- The variables that hold settings. -/
def variableNames : List String :=
  ["AEGEN_VAULT_PATH", "AEGEN_LOG_LEVEL", "AEGEN_MIN_PASSWORD_LENGTH"]

end SeedVault

def main (arguments : List String) : IO UInt32 := do
  let environment ← SeedVault.variableNames.mapM fun name => do
    return (name, ← IO.getEnv name)
  let lookup (name : String) : Option String := (environment.lookup name).join
  let home ← SeedVault.homeOfUser
  match ← (SeedVault.Program.run home arguments lookup : ExceptT _ IO Unit).run with
  | .ok () => return 0
  | .error cause =>
    IO.eprintln cause.report
    return 1
