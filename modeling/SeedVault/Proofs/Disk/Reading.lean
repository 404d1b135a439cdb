/-
Reading a text from the disk of a machine. The disk answers at once and nothing is changed by it;
bytes that are not those of a text are an error as well.
-/

import SeedVault.Machine
import SeedVault.Proofs.Execution
import SeedVault.Proofs.Text.Utf8

namespace SeedVault.Disk

variable {machine after : Machine} {path : Path}

theorem execute_readText (path : Path) (machine : Machine) :
    execute (readText path : ExceptT DiskError (StateM Machine) String) machine =
      (match machine.disk.read path with
        | .error problem => .error problem
        | .ok bytes =>
          match Text.ofUtf8? bytes with
          | some text => .ok text
          | none => .error .notUtf8, machine) := by
  have found : execute (ExceptT.mk (read path) : ExceptT DiskError (StateM Machine) _) machine =
      (machine.disk.read path, machine) := rfl
  rw [readText, execute_bind, found]
  cases machine.disk.read path with
  | error problem => rfl
  | ok bytes =>
      dsimp only
      cases Text.ofUtf8? bytes <;> rfl

theorem readText_preserves {γ : Type} {look : Machine → γ} (path : Path) :
    Preserves look (readText path : ExceptT DiskError (StateM Machine) String) := by
  intro machine
  rw [execute_readText]

/-- A file is read as a text exactly if it holds the bytes of that text. -/
theorem readText_eq_ok_iff {text : String} :
    execute (readText path : ExceptT DiskError (StateM Machine) String) machine =
      (.ok text, after) ↔ after = machine ∧ machine.disk.read path = .ok (Text.utf8 text) := by
  rw [execute_readText]
  constructor
  · intro ran
    obtain ⟨found, rfl⟩ := Prod.mk.inj ran
    refine ⟨rfl, ?_⟩
    cases read : machine.disk.read path with
    | error problem =>
        rw [read] at found
        cases found
    | ok bytes =>
        rw [read] at found
        dsimp only at found
        split at found
        · rename_i decoded
          cases found
          rw [Text.utf8_of_ofUtf8? decoded]
        · cases found
  · rintro ⟨rfl, read⟩
    rw [read]
    dsimp only
    rw [Text.ofUtf8?_utf8]

end SeedVault.Disk
