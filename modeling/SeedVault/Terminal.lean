/-
Talking to the user, line by line.
-/

import SeedVault.Text.Utf8

namespace SeedVault

/-- A place to write to, one for warnings, and one where lines are typed. -/
class Terminal (m : Type → Type) where
  write : String → m Unit
  /-- Writes a line apart from what the program answers. -/
  warn : (line : String) → m Unit
  /-- The bytes of the next line with its end, or none at the end of the input. -/
  readLine : m (List UInt8)
  /-- Whether secrets are typed at a keyboard of their own, without being shown. -/
  hidesSecrets : m Bool
  /-- Shows a prompt and reads a secret from that keyboard. -/
  readHidden : (prompt : String) → m (Option String)

/-- Why a prompt is not answered. -/
inductive TerminalError
  | closed (topic : String)
  | unreadable (topic : String)
  | notUtf8
deriving DecidableEq

def TerminalError.message : TerminalError → String
  | closed topic => s!"Input closed while waiting for: {topic}"
  | unreadable topic => s!"Failed to read {topic}"
  | notUtf8 => "stream did not contain valid UTF-8"

namespace Terminal

/-- The text without the given characters at its end. -/
def dropEnd (isDropped : Char → Bool) (text : String) : String :=
  String.ofList (text.toList.reverse.dropWhile isDropped).reverse

/-- What a prompt asks for: its text without colons at the end. -/
def topic (prompt : String) : String :=
  dropEnd (· == ':') prompt

/-- A line without its end. All line feeds and carriage returns at the end go. -/
def withoutLineEnd (line : String) : String :=
  dropEnd (fun char => char == '\n' || char == '\r') line

variable {m : Type → Type} [Monad m] [Terminal m]

/-- Writes a line. -/
def say (text : String) : ExceptT TerminalError m Unit :=
  ExceptT.lift (write (text ++ "\n"))

/-- Writes a prompt and reads the answer. -/
def ask (prompt : String) : ExceptT TerminalError m String := do
  ExceptT.lift (write (prompt ++ " "))
  match ← ExceptT.lift (readLine (m := m)) with
  | [] => throw (.closed (topic prompt))
  | line =>
    match Text.ofUtf8? line with
    | some text => return withoutLineEnd text
    | none => throw .notUtf8

/-- Asks for a secret. -/
def askSecret (prompt : String) : ExceptT TerminalError m String := do
  if ← ExceptT.lift (hidesSecrets (m := m)) then
    match ← ExceptT.lift (readHidden (m := m) (prompt ++ " ")) with
    | some secret => return secret
    | none => throw (.unreadable (topic prompt))
  else ask prompt

end Terminal

end SeedVault
