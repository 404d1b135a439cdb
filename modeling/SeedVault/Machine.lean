/-
A machine for the program, as a value: all that a run reads and writes, so that what
a run does is a function of where it starts.
-/

import SeedVault.Disk.Tree
import SeedVault.Keyboard
import SeedVault.Random.Entropy
import SeedVault.Store.Memory
import SeedVault.Terminal

namespace SeedVault

/-- A disk, a vault in memory, the random bytes to come, and what is typed and
written. -/
structure Machine where
  disk : FileTree
  vault : Option Vault := none
  entropy : List UInt8 := []
  input : List UInt8 := []
  output : String := ""
  warnings : List String := []
  keyboard : Keyboard := .shared
deriving DecidableEq

namespace Machine

/-- The first line with its end, and what follows it. -/
def takeLine : List UInt8 → List UInt8 × List UInt8
  | [] => ([], [])
  | byte :: rest =>
    if byte = 10 then ([byte], rest)
    else
      let (line, rest) := takeLine rest
      (byte :: line, rest)

/-- The next random bytes. A draw of too many takes none. -/
def draw (size : Nat) (machine : Machine) : Option (Bytes size) × Machine :=
  match takeBytes? size machine.entropy with
  | some (bytes, entropy) => (some bytes, { machine with entropy })
  | none => (none, machine)

/-- The next secret. -/
def readHidden (prompt : String) (machine : Machine) : Option String × Machine :=
  let (secret, keyboard) := machine.keyboard.read prompt
  (secret, { machine with keyboard })

/-- Keeps the disk as it is if an operation fails. -/
def onDisk (operation : FileTree → Except DiskError FileTree) (machine : Machine) :
    Except DiskError Unit × Machine :=
  match operation machine.disk with
  | .ok disk => (.ok (), { machine with disk })
  | .error problem => (.error problem, machine)

instance : Entropy (StateM Machine) where
  draw size := fun machine => machine.draw size

instance : Slot (StateM Machine) where
  get := fun machine => (machine.vault, machine)
  set vault := fun machine => ((), { machine with vault })

instance : Terminal (StateM Machine) where
  write text := fun machine => ((), { machine with output := machine.output ++ text })
  warn line := fun machine => ((), { machine with warnings := machine.warnings ++ [line] })
  readLine := fun machine =>
    ((takeLine machine.input).1, { machine with input := (takeLine machine.input).2 })
  hidesSecrets := fun machine => (machine.keyboard ≠ .shared, machine)
  readHidden prompt := fun machine => machine.readHidden prompt

instance : Disk (StateM Machine) where
  read path := fun machine => (machine.disk.read path, machine)
  isPresent path := fun machine => (machine.disk.isPresent path, machine)
  isDirectory path := fun machine => (machine.disk.isDirectory path, machine)
  makeDirectory path := fun machine => machine.onDisk (·.makeDirectory path)
  openEmpty path := fun machine => machine.onDisk (·.openEmpty path)
  append path bytes := fun machine => machine.onDisk (·.append path bytes)
  rename source target := fun machine => machine.onDisk (·.rename source target)
  remove path := fun machine => machine.onDisk (·.remove path)

end Machine

end SeedVault
