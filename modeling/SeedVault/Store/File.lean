/-
The store that keeps the vault in a file. A vault is written to a draft beside the
file, which then takes the place of the file, so that the file never holds a part
of a vault.
-/

import SeedVault.Store.Basic
import SeedVault.Vault.Text

namespace SeedVault.Store

variable {m : Type → Type} [Monad m] [Disk m]

/-- The path of the draft for a file. -/
def draftPath (path : Path) : Path :=
  path.withFileName (path.fileName?.getD "vault" ++ ".tmp")

/-- Lets an operation on the disk fail as one of the store. -/
def onDisk {α : Type} (operation : ExceptT DiskError m α) : ExceptT StoreError m α :=
  operation.adapt .disk

/-- Does not mind if there is no file. -/
def unlessMissing {α : Type} (operation : ExceptT DiskError m α) : ExceptT DiskError m (Option α) :=
  tryCatch (some <$> operation) fun
    | .notFound => pure none
    | problem => throw problem

/-- Reads the vault in a file. -/
def readFile (path : Path) : ExceptT StoreError m (Option Vault) := do
  match ← onDisk (unlessMissing (Disk.readText path)) with
  | none => return none
  | some text => some <$> ExceptT.mk (pure ((Vault.ofText text).mapError .corrupt))

/-- Writes a vault to a file, whose directory is made if it is not there. -/
def writeFile (path : Path) (vault : Vault) : ExceptT DiskError m Unit := do
  Disk.ensureDirectories path.ancestors
  ExceptT.mk (Disk.openEmpty (draftPath path))
  ExceptT.mk (Disk.append (draftPath path) (Text.utf8 vault.prettyText))
  ExceptT.mk (Disk.append (draftPath path) (Text.utf8 "\n"))
  ExceptT.mk (Disk.rename (draftPath path) path)

/-- The store that keeps the vault in the file at a path. -/
def file (path : Path) : Store m where
  get := readFile path
  put vault := onDisk (writeFile path vault)
  clear := onDisk do
    let _ ← unlessMissing (ExceptT.mk (Disk.remove path))

end SeedVault.Store
