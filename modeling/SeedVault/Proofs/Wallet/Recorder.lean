/-
A machine with a record of its use. The record lists every draw of random bytes and every
change of the vault in memory, and keeping it changes nothing about a run.
-/

import SeedVault.Machine
import SeedVault.Proofs.Bytes
import SeedVault.Proofs.Wallet.Simulation

namespace SeedVault

/-- A wallet that keeps its vault in memory. -/
def Wallet.inMemory {m : Type → Type} [Monad m] [Slot m] (policy : Password.Policy)
    (challengeWords : Nat) : Wallet m :=
  ⟨Store.memory, policy, challengeWords⟩

/-- A use of the random bytes, or a change of the vault in memory. -/
inductive Access
  | drew (bytes : List UInt8)
  | refused (size : Nat)
  | wrote (vault : Vault)
  | cleared
deriving DecidableEq

namespace Access

/-- The use that is made by a draw, given what was drawn. -/
def ofDraw {size : Nat} : Option (Bytes size) → Access
  | some bytes => drew bytes.toList
  | none => refused size

/-- The change that is made by setting the vault. -/
def ofSet : Option Vault → Access
  | some vault => wrote vault
  | none => cleared

/-- The vault that is written, if any is. -/
def written? : Access → Option Vault
  | wrote vault => some vault
  | _ => none

end Access

/-- A machine and what was done on it so far. -/
structure Recorder where
  machine : Machine
  accesses : List Access
deriving DecidableEq

namespace Recorder

instance : Entropy (StateM Recorder) where
  draw size := fun recorder =>
    let (bytes, machine) := recorder.machine.draw size
    (bytes, ⟨machine, recorder.accesses ++ [.ofDraw bytes]⟩)

instance : Slot (StateM Recorder) where
  get := fun recorder => (recorder.machine.vault, recorder)
  set vault := fun recorder =>
    ((), ⟨{ recorder.machine with vault }, recorder.accesses ++ [.ofSet vault]⟩)

section draws

variable {ε : Type} (problem : ε) {size : Nat} (machine : Machine) (before : List Access)

/-- A draw of more bytes than are left is refused and takes none. -/
theorem execute_drawOr_of_lt (short : machine.entropy.length < size) :
    execute (Entropy.drawOr problem size : ExceptT ε (StateM Recorder) (Bytes size))
        ⟨machine, before⟩ =
      (.error problem, ⟨machine, before ++ [.refused size]⟩) := by
  have taken : machine.draw size = (none, machine) := by
    rw [Machine.draw, takeBytes?_eq_none_iff.mpr short]
  rw [execute_drawOr]
  simp only [Entropy.draw, StateT.run, taken]
  rfl

/-- A draw takes the next bytes. -/
theorem execute_drawOr_of_append {bytes : Bytes size} {rest : List UInt8}
    (enough : machine.entropy = bytes.toList ++ rest) :
    execute (Entropy.drawOr problem size : ExceptT ε (StateM Recorder) (Bytes size))
        ⟨machine, before⟩ =
      (.ok bytes, ⟨{ machine with entropy := rest }, before ++ [.drew bytes.toList]⟩) := by
  have taken : machine.draw size = (some bytes, { machine with entropy := rest }) := by
    rw [Machine.draw, takeBytes?_eq_some_iff.mpr enough]
  rw [execute_drawOr]
  simp only [Entropy.draw, StateT.run, taken]
  rfl

end draws

/-- Random bytes run short, or there is a next draw. -/
theorem short_or_enough (size : Nat) (tape : List UInt8) :
    tape.length < size ∨ ∃ (bytes : Bytes size) (rest : List UInt8), tape = bytes.toList ++ rest := by
  cases taken : takeBytes? size tape with
  | none => exact .inl (takeBytes?_eq_none_iff.mp taken)
  | some pair => exact .inr ⟨pair.1, pair.2, takeBytes?_eq_some_iff.mp taken⟩

/-- A recorder stands for its machine. -/
def Records (recorder : Recorder) (machine : Machine) : Prop :=
  recorder.machine = machine

theorem drawsAlike : DrawsAlike Records := by
  rintro ε problem size ⟨machine, accesses⟩ _ rfl
  rw [execute_drawOr, execute_drawOr]
  simp only [Entropy.draw, StateT.run]
  rcases machine.draw size with ⟨bytes, after⟩
  cases bytes <;> exact ⟨rfl, rfl⟩

/-- Recording changes nothing for a wallet that keeps its vault in memory. -/
theorem alike (policy : Password.Policy) (challengeWords : Nat) :
    Wallet.Alike Records (.inMemory policy challengeWords) (.inMemory policy challengeWords) where
  policy := rfl
  challengeWords := rfl
  get := by
    rintro recorder _ rfl
    exact ⟨rfl, rfl⟩
  put := by
    rintro vault recorder _ rfl
    exact ⟨rfl, rfl⟩
  clear := by
    rintro recorder _ rfl
    exact ⟨rfl, rfl⟩

end Recorder

end SeedVault
