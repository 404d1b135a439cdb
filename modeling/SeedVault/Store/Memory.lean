/-
The store that lives as long as the program does.
-/

import SeedVault.Store.Basic

namespace SeedVault

/-- A place in memory for a vault. -/
class Slot (m : Type → Type) where
  get : m (Option Vault)
  set : Option Vault → m Unit

/-- The store that keeps the vault in memory. -/
def Store.memory {m : Type → Type} [Monad m] [Slot m] : Store m where
  get := ExceptT.lift Slot.get
  put vault := ExceptT.lift (Slot.set (some vault))
  clear := ExceptT.lift (Slot.set none)

end SeedVault
