/-
What a wallet does with the vault in its store. A new wallet is made in two steps,
and in between the user confirms that the phrase is written down. A vault without
a tag shows a wrong password only by the address of the seed that it then gives.
-/

import SeedVault.Account
import SeedVault.Challenge
import SeedVault.Password.Policy
import SeedVault.Store.Basic
import SeedVault.Vault.Lock

namespace SeedVault

/-- Why an operation of a wallet fails. -/
inductive WalletError
  | seed (cause : SeedError)
  | password (cause : PasswordError)
  | lock (cause : Vault.LockError)
  | store (cause : StoreError)
  | noVault
  | vaultExists
  | backupNotConfirmed
  | addressMismatch (expected derived : Address)
  | unverifiedVault
deriving DecidableEq

namespace WalletError

def message : WalletError → String
  | seed cause => cause.message
  | password cause => cause.message
  | lock cause => cause.message
  | store cause => cause.message
  | noVault => "No vault stored"
  | vaultExists => "A vault is already stored; forget it first"
  | backupNotConfirmed => "Recovery phrase backup not confirmed"
  | addressMismatch expected derived =>
    s!"Incorrect password: derived address {derived.text} does not match {expected.text}"
  | unverifiedVault =>
    "Vault predates password checking and cannot be verified; pass the expected address (--expect)"

/-- What went wrong, followed by its causes. -/
def chain : WalletError → List String
  | store cause => cause.chain
  | error => [error.message]

/-- Whether the user should be told that the password is wrong. -/
def isWrongPassword : WalletError → Bool
  | lock .wrongPassword => true
  | addressMismatch _ _ => true
  | _ => false

end WalletError

/-- What is known about the password that opened a vault. -/
inductive Integrity
  /-- The tag of the vault is right. -/
  | tagged
  /-- The vault has no tag, and the address is the expected one. -/
  | addressMatched
  /-- The vault has no tag, and no address was expected. -/
  | unverified
deriving DecidableEq

/-- A wallet whose seed is known. -/
structure UnlockedWallet where
  seed : Seed
  integrity : Integrity
deriving DecidableEq

namespace UnlockedWallet

def keys (wallet : UnlockedWallet) : KeyPair :=
  KeyPair.derive wallet.seed

def address (wallet : UnlockedWallet) : Address :=
  wallet.keys.address

end UnlockedWallet

/-- A new phrase that is not yet confirmed. -/
structure PendingWallet where
  phrase : Phrase
  challenge : Challenge
  password : String
  analysis : Password.Analysis

/-- What a log may show of a wallet that is not yet confirmed. -/
def PendingWallet.redacted (pending : PendingWallet) : String :=
  s!"PendingWallet \x7b challenge: {pending.challenge.described}, .. \x7d"

/-- A store, the rule for new passwords, and how many words of a new phrase are
asked back. -/
structure Wallet (m : Type → Type) where
  store : Store m
  policy : Password.Policy := {}
  challengeWords : Nat := 3

namespace Wallet

variable {m : Type → Type} [Monad m]

def vault? (wallet : Wallet m) : ExceptT WalletError m (Option Vault) :=
  wallet.store.get.adapt .store

def hasVault (wallet : Wallet m) : ExceptT WalletError m Bool :=
  Option.isSome <$> wallet.vault?

/-- Checks a new password. -/
def checkPassword (wallet : Wallet m) (password confirmation : String) :
    ExceptT WalletError m Password.Analysis :=
  ExceptT.mk (pure ((wallet.policy.check password confirmation).mapError .password))

/-- Fails if the derived address is not the expected one. -/
def checkAddress (expected derived : Address) : ExceptT WalletError m Unit :=
  unless expected = derived do throw (.addressMismatch expected derived)

/-- Removes the vault. -/
def forget (wallet : Wallet m) : ExceptT WalletError m Unit :=
  wallet.store.clear.adapt .store

variable [Entropy m]

/-- Locks a seed under a password, and replaces the vault in the store. -/
def lockAndStore (wallet : Wallet m) (seed : Seed) (password : String) :
    ExceptT WalletError m Unit := do
  let vault ← (Vault.lock seed password).adapt .lock
  (wallet.store.put vault).adapt .store

/-- The first step of making a wallet: checks the password and draws a phrase. -/
def beginCreate (wallet : Wallet m) (password confirmation : String) :
    ExceptT WalletError m PendingWallet := do
  if ← wallet.hasVault then throw .vaultExists
  let analysis ← wallet.checkPassword password confirmation
  let phrase ← Phrase.generate.adapt .seed
  let challenge ← (Challenge.random wallet.challengeWords).adapt .seed
  return ⟨phrase, challenge, password, analysis⟩

/-- The second step of making a wallet: stores the seed if the answers are right.
After wrong answers the step can be taken again. -/
def finishCreate (wallet : Wallet m) (pending : PendingWallet) (answers : List String) :
    ExceptT WalletError m UnlockedWallet := do
  unless pending.challenge.verify pending.phrase answers do throw .backupNotConfirmed
  let seed := Seed.ofPhrase pending.phrase
  wallet.lockAndStore seed pending.password
  return ⟨seed, .tagged⟩

/-- Stores the seed that a text denotes. Only if `overwrite` is set does it take
the place of another one. -/
def importSeed (wallet : Wallet m) (input password confirmation : String) (overwrite : Bool) :
    ExceptT WalletError m UnlockedWallet := do
  unless overwrite do
    if ← wallet.hasVault then throw .vaultExists
  let _ ← wallet.checkPassword password confirmation
  let seed ← ExceptT.mk (pure ((Seed.resolve input).mapError .seed))
  wallet.lockAndStore seed password
  return ⟨seed, .tagged⟩

/-- Opens the vault in the store. One without a tag is replaced by one with a tag
once the expected address has shown that the password is right. -/
def unlock (wallet : Wallet m) (password : String) (expected : Option Address) :
    ExceptT WalletError m UnlockedWallet := do
  let some vault ← wallet.vault? | throw .noVault
  let seed ← ExceptT.mk (pure ((vault.unlock password).mapError .lock))
  if vault.isAuthenticated then
    let unlocked : UnlockedWallet := ⟨seed, .tagged⟩
    if let some address := expected then checkAddress address unlocked.address
    return unlocked
  else
    match expected with
    | none => return ⟨seed, .unverified⟩
    | some address =>
      let unlocked : UnlockedWallet := ⟨seed, .addressMatched⟩
      checkAddress address unlocked.address
      wallet.lockAndStore seed password
      return unlocked

/-- Locks the seed in the store under a new password. A seed that may be a wrong
one is left as it is. -/
def changePassword (wallet : Wallet m) (current password confirmation : String)
    (expected : Option Address) : ExceptT WalletError m UnlockedWallet := do
  let _ ← wallet.checkPassword password confirmation
  let unlocked ← wallet.unlock current expected
  if unlocked.integrity = .unverified then throw .unverifiedVault
  wallet.lockAndStore unlocked.seed password
  return ⟨unlocked.seed, .tagged⟩

end Wallet

end SeedVault
