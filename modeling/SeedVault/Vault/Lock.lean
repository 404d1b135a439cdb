/-
Locking a seed under a password, and opening a vault again. The password is
stretched into a key that masks the seed; a second key, made from the first, tags
the salt, the initial counter block and the masked seed.
-/

import SeedVault.Cipher.Keystream
import SeedVault.Hash.Hmac
import SeedVault.Random.Entropy
import SeedVault.Seed
import SeedVault.Vault.Basic

namespace SeedVault.Vault

/-- Why a seed is not locked, or a vault not opened. -/
inductive LockError
  | wrongPassword
  | randomness
deriving DecidableEq

def LockError.message : LockError → String
  | wrongPassword => "Incorrect password or corrupted vault"
  | randomness => randomnessMessage

/-- How often the password is hashed. -/
def stretchRounds : Nat := 100000

/-- Sets the key for tags apart from the key that masks the seed. -/
def tagLabel : String := "aegen/vault/mac/v1"

/-- The keys that a password and a salt yield. -/
structure Keys where
  cipher : Bytes 32
  tag : Bytes 32

namespace Keys

def ofPassword (password : String) (salt : Bytes 16) : Keys :=
  let cipher := stretchSha256 (Text.utf8 password) salt.toList stretchRounds
  ⟨cipher, hmacSha256 cipher.toList (Text.utf8 tagLabel)⟩

/-- The tag of a vault with the given contents. -/
def mac (keys : Keys) (salt iv : Bytes 16) (ciphertext : Bytes 32) : Bytes 32 :=
  hmacSha256 keys.tag.toList (salt.toList ++ iv.toList ++ ciphertext.toList)

end Keys

/-- Locks a seed with a salt and an initial counter block that were chosen
before. -/
def lockWith (seed : Seed) (password : String) (salt iv : Bytes 16) : Vault :=
  let keys := Keys.ofPassword password salt
  let ciphertext := Keystream.mask keys.cipher iv seed.bytes
  ⟨ciphertext, salt, iv, some (keys.mac salt iv ciphertext)⟩

/-- Opens a vault. Without a tag any password opens it, and only the right one
gives the seed that was locked. -/
def unlock (vault : Vault) (password : String) : Except LockError Seed :=
  let keys := Keys.ofPassword password vault.salt
  let tagged := vault.mac.all (Bytes.same (keys.mac vault.salt vault.iv vault.ciphertext))
  if tagged then .ok ⟨Keystream.mask keys.cipher vault.iv vault.ciphertext⟩
  else .error .wrongPassword

/-- Locks a seed with a fresh salt and a fresh initial counter block, drawn in
this order. -/
def lock {m : Type → Type} [Monad m] [Entropy m] (seed : Seed) (password : String) :
    ExceptT LockError m Vault := do
  let salt ← Entropy.drawOr .randomness 16
  let iv ← Entropy.drawOr .randomness 16
  return lockWith seed password salt iv

end SeedVault.Vault
