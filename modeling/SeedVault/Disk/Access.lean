/-
What a program asks of a disk, and how that may fail.
-/

import SeedVault.Disk.Path
import SeedVault.Text.Utf8

namespace SeedVault

/-- Why a step on the disk fails. -/
inductive DiskError
  | notFound
  | alreadyExists
  | notADirectory
  | isADirectory
  | nameTooLong
  | busy
  | permissionDenied
  | zeroInPath
  | notUtf8
  | other (text : String)
deriving DecidableEq

def DiskError.message : DiskError → String
  | notFound => "No such file or directory (os error 2)"
  | alreadyExists => "File exists (os error 17)"
  | notADirectory => "Not a directory (os error 20)"
  | isADirectory => "Is a directory (os error 21)"
  | nameTooLong => "File name too long (os error 36)"
  | busy => "Device or resource busy (os error 16)"
  | permissionDenied => "Permission denied (os error 13)"
  | zeroInPath => "file name contained an unexpected NUL byte"
  | notUtf8 => "stream did not contain valid UTF-8"
  | other text => text

/-- The steps in which files and directories are used. -/
class Disk (m : Type → Type) where
  /-- The content of a file. -/
  read : Path → m (Except DiskError (List UInt8))
  /-- Whether a path leads to anything. -/
  isPresent : Path → m Bool
  isDirectory : Path → m Bool
  makeDirectory : Path → m (Except DiskError Unit)
  /-- Empties a file. One that is new can be used by its owner alone. -/
  openEmpty : Path → m (Except DiskError Unit)
  /-- Writes at the end of a file. -/
  append : Path → List UInt8 → m (Except DiskError Unit)
  /-- Gives a file another path. A file that was there is gone. -/
  rename : (source target : Path) → m (Except DiskError Unit)
  /-- Removes a file. -/
  remove : Path → m (Except DiskError Unit)

namespace Disk

variable {m : Type → Type} [Monad m] [Disk m]

/-- The content of a file that holds a text. -/
def readText (path : Path) : ExceptT DiskError m String := do
  match Text.ofUtf8? (← ExceptT.mk (read path)) with
  | some text => return text
  | none => throw .notUtf8

/-- Makes a directory, unless there is one already. -/
def ensureDirectory (path : Path) : ExceptT DiskError m Unit := do
  match ← ExceptT.lift (m := m) (makeDirectory path) with
  | .ok () => return
  | .error .alreadyExists =>
    if ← ExceptT.lift (m := m) (isDirectory path) then return else throw .alreadyExists
  | .error problem => throw problem

/-- Makes the first of some directories, each of which is in the one after it. What
is missing of the others is made before. -/
def ensureDirectories : List Path → ExceptT DiskError m Unit
  | [] => return
  | path :: above =>
    tryCatch (ensureDirectory path) fun
      | .notFound => do
        ensureDirectories above
        ensureDirectory path
      | problem => throw problem

end Disk

end SeedVault
