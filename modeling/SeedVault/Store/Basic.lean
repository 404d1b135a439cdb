/-
Where a wallet keeps its vault.
-/

import SeedVault.Disk.Access
import SeedVault.Vault.Record

namespace SeedVault

/-- Why a store cannot be used: the disk fails, or what is stored is no vault. -/
inductive StoreError
  | disk (cause : DiskError)
  | corrupt (cause : Vault.TextError)
deriving DecidableEq

/-- A place for at most one vault. -/
structure Store (m : Type → Type) where
  get : ExceptT StoreError m (Option Vault)
  /-- Replaces the vault that was there. -/
  put : Vault → ExceptT StoreError m Unit
  /-- Removes the vault, if there is one. -/
  clear : ExceptT StoreError m Unit

namespace StoreError

def message : StoreError → String
  | disk cause => s!"IO error: {cause.message}"
  | corrupt cause => s!"Stored vault is unreadable: {cause.message}"

/-- What went wrong, followed by its cause. -/
def chain (error : StoreError) : List String :=
  match error with
  | disk cause => [error.message, cause.message]
  | corrupt cause => [error.message, cause.message]

end StoreError

end SeedVault
