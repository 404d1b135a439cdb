/-
The commands that a user gives to a wallet through a terminal.
-/

import SeedVault.Terminal
import SeedVault.Wallet

namespace SeedVault

/-- Why a command fails. -/
inductive CommandError
  | terminal (cause : TerminalError)
  | wallet (cause : WalletError)
  | phrase (cause : PhraseError)
  | address (cause : AddressError)
  | vaultExists
  | vaultNotReplaced
  | phraseRejected (cause : SeedError)
  | backupNotConfirmed
  | noVault
  | wrongPassword
  | keyNotVerified
  | forgetNotConfirmed
deriving DecidableEq

namespace CommandError

def message : CommandError → String
  | terminal cause => cause.message
  | wallet cause => cause.message
  | phrase cause => (SeedError.phrase cause).message
  | address cause => cause.message
  | vaultExists => "A vault already exists. Run `forget` first or use `import --force`."
  | vaultNotReplaced => "A vault already exists. Use `import --force` to replace it."
  | phraseRejected _ => "Recovery phrase rejected"
  | backupNotConfirmed =>
    "Those words do not match the phrase. Nothing was saved; run `create` again."
  | noVault => "No vault stored. Run `create` or `import` first."
  | wrongPassword => "Incorrect password"
  | keyNotVerified =>
    "Refusing to export a key that could not be verified. Pass --expect <ADDRESS>."
  | forgetNotConfirmed => "Not confirmed; vault kept."

/-- What went wrong, followed by its causes. -/
def chain : CommandError → List String
  | wallet cause => cause.chain
  | phraseRejected cause => [(phraseRejected cause).message, cause.message]
  | error => [error.message]

/-- What a command that opens the vault tells of a failure. -/
def ofUnlock (error : WalletError) : CommandError :=
  if error = .noVault then noVault
  else if error.isWrongPassword then wrongPassword
  else wallet error

end CommandError

namespace Command

variable {m : Type → Type} [Monad m] [Terminal m]

def say (text : String) : ExceptT CommandError m Unit :=
  (Terminal.say text).adapt .terminal

def ask (prompt : String) : ExceptT CommandError m String :=
  (Terminal.ask prompt).adapt .terminal

def askSecret (prompt : String) : ExceptT CommandError m String :=
  (Terminal.askSecret prompt).adapt .terminal

/-- Reports how strong a password is, unless it is a strong one. -/
def sayStrength (analysis : Password.Analysis) : ExceptT CommandError m Unit := do
  unless analysis.strength = .strong do
    say s!"Password strength: {analysis.strength.label}"
    analysis.warnings.forM fun warning => say s!"  - {warning.message}"

/-- A line of the list of words. -/
def numbered (place : Nat) (word : String) : String :=
  let number := toString (place + 1)
  let blanks := String.ofList (List.replicate (2 - number.length) ' ')
  s!"{blanks}{number}. {word}"

/-- Shows a new phrase. -/
def sayPhrase (phrase : Phrase) : ExceptT CommandError m Unit := do
  say ""
  say "Write down your recovery phrase. It is the only way to restore this wallet."
  say ""
  phrase.words.zipIdx.forM fun (word, place) => say (numbered place word)
  say ""

/-- Validates a phrase. -/
def checkPhrase : ExceptT CommandError m Unit := do
  let text ← ask "Recovery phrase:"
  match Phrase.ofText text with
  | .ok _ => say "Valid recovery phrase."
  | .error cause => throw (.phrase cause)

/-- Validates an address. -/
def checkAddress (text : String) : ExceptT CommandError m Unit :=
  match Address.parse text with
  | .ok address => say s!"Valid address: {address.text}"
  | .error cause => throw (.address cause)

/-- Deletes the vault, if the user confirms it. -/
def forget (wallet : Wallet m) : ExceptT CommandError m Unit := do
  if ← wallet.hasVault.adapt .wallet then
    say "This deletes the vault. Without the recovery phrase the funds are lost."
    let answer ← ask "Type 'forget' to confirm:"
    unless Text.trim answer = "forget" do throw .forgetNotConfirmed
    wallet.forget.adapt .wallet
    say "Vault deleted."
  else say "No vault stored."

variable [Entropy m]

/-- Asks for the words of the challenge and takes the answers to the wallet. -/
def tryBackup (wallet : Wallet m) (pending : PendingWallet) :
    ExceptT CommandError m (Except WalletError UnlockedWallet) := do
  let answers ← pending.challenge.places.mapM fun place => ask s!"Word #{place.val + 1}:"
  ExceptT.lift (wallet.finishCreate pending answers).run

/-- Asks for the words of the challenge, and again after a wrong answer as often as
`retries` says. -/
def confirmBackup (wallet : Wallet m) (pending : PendingWallet) :
    (retries : Nat) → ExceptT CommandError m UnlockedWallet
  | 0 => do
    match ← tryBackup wallet pending with
    | .ok unlocked => return unlocked
    | .error .backupNotConfirmed => throw .backupNotConfirmed
    | .error cause => throw (.wallet cause)
  | retries + 1 => do
    match ← tryBackup wallet pending with
    | .ok unlocked => return unlocked
    | .error .backupNotConfirmed =>
      say "Those words do not match the phrase. Check your copy and try again."
      confirmBackup wallet pending retries
    | .error cause => throw (.wallet cause)

/-- Makes a new wallet. Its phrase is shown, and some of the words are asked back up
to three times. -/
def create (wallet : Wallet m) : ExceptT CommandError m Unit := do
  if ← wallet.hasVault.adapt .wallet then throw .vaultExists
  let password ← askSecret "New vault password:"
  let confirmation ← askSecret "Confirm password:"
  let pending ← (wallet.beginCreate password confirmation).adapt .wallet
  sayStrength pending.analysis
  sayPhrase pending.phrase
  let unlocked ← confirmBackup wallet pending 2
  say s!"Wallet created: {unlocked.address.text}"

/-- Stores the seed that the user types. A mistyped phrase is refused before a
password is asked for. -/
def importSeed (wallet : Wallet m) (overwrite : Bool) : ExceptT CommandError m Unit := do
  let input ← ask "Recovery phrase, seed hex or secret:"
  if Seed.isPhraseShaped (Text.trim input) then
    if let .error cause := Phrase.ofText input then throw (.phraseRejected (.phrase cause))
  let password ← askSecret "New vault password:"
  let confirmation ← askSecret "Confirm password:"
  let unlocked ← (wallet.importSeed input password confirmation overwrite).adapt fun
    | .vaultExists => .vaultNotReplaced
    | cause => .wallet cause
  say s!"Wallet imported: {unlocked.address.text}"

/-- Opens the vault, and tells what is known about the password. -/
def openWallet (wallet : Wallet m) (expected : Option Address) :
    ExceptT CommandError m UnlockedWallet := do
  let password ← askSecret "Vault password:"
  let unlocked ← (wallet.unlock password expected).adapt .ofUnlock
  match unlocked.integrity with
  | .tagged => return unlocked
  | .addressMatched =>
    say "Legacy vault verified against the expected address and upgraded."
    return unlocked
  | .unverified =>
    say "Warning: this vault predates password checking. If the address"
    say "below is not yours, the password was wrong. Re-run with --expect <ADDRESS>."
    return unlocked

/-- Opens the vault and shows the address. -/
def unlock (wallet : Wallet m) (expected : Option Address) : ExceptT CommandError m Unit := do
  let unlocked ← openWallet wallet expected
  say s!"Address: {unlocked.address.text}"

/-- Opens the vault and shows the keys, if the password is known to be right. -/
def exportKey (wallet : Wallet m) (expected : Option Address) : ExceptT CommandError m Unit := do
  let unlocked ← openWallet wallet expected
  if unlocked.integrity = .unverified then throw .keyNotVerified
  say s!"Address:     {unlocked.address.text}"
  say s!"Public key:  {unlocked.keys.publicKeyText}"
  say s!"Private key: {unlocked.keys.privateKeyText}"

/-- Locks the seed under a new password. -/
def changePassword (wallet : Wallet m) (expected : Option Address) :
    ExceptT CommandError m Unit := do
  let current ← askSecret "Current password:"
  let password ← askSecret "New password:"
  let confirmation ← askSecret "Confirm new password:"
  let unlocked ← (wallet.changePassword current password confirmation expected).adapt .ofUnlock
  say s!"Password changed for {unlocked.address.text}"

end Command

end SeedVault
