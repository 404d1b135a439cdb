/-
Sealed vaults: a seed encrypted under a password, with what is needed to open
it again.
-/

import SeedVault.Bytes

namespace SeedVault

/-- A sealed vault. The oldest ones have no tag. -/
structure Vault where
  ciphertext : Bytes 32
  salt : Bytes 16
  iv : Bytes 16
  mac : Option (Bytes 32)
deriving DecidableEq

namespace Vault

/-- Whether opening the vault can tell a wrong password from a right one. -/
def isAuthenticated (vault : Vault) : Bool :=
  vault.mac.isSome

/-- The vault as it was written before there were tags. -/
def withoutMac (vault : Vault) : Vault :=
  { vault with mac := none }

/-- The fields of a written vault, in the order in which they are written. -/
inductive Field
  | ciphertext
  | salt
  | iv
  | mac
deriving DecidableEq

namespace Field

def name : Field → String
  | ciphertext => "ciphertext"
  | salt => "salt"
  | iv => "iv"
  | mac => "mac"

/-- The number of bytes of a field. -/
def size : Field → Nat
  | ciphertext => 32
  | salt => 16
  | iv => 16
  | mac => 32

def all : List Field := [ciphertext, salt, iv, mac]

def ofName? (name : String) : Option Field :=
  all.find? fun field => field.name == name

end Field

end Vault

end SeedVault
