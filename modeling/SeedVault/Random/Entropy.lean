/-
The source of random bytes.
-/

import SeedVault.Bytes

namespace SeedVault

/-- A source of random bytes, which may fail. -/
class Entropy (m : Type → Type) where
  draw : (size : Nat) → m (Option (Bytes size))

/-- A draw that fails with the given error. -/
def Entropy.drawOr {m : Type → Type} [Monad m] [Entropy m] {ε : Type} (error : ε) (size : Nat) :
    ExceptT ε m (Bytes size) := do
  match ← (draw size : m (Option (Bytes size))) with
  | some bytes => return bytes
  | none => throw error

/-- The next `size` bytes of a tape and what follows them, or nothing if the
tape is too short. -/
def takeBytes? (size : Nat) (tape : List UInt8) : Option (Bytes size × List UInt8) :=
  (Bytes.ofList? (tape.take size)).map fun bytes => (bytes, tape.drop size)

end SeedVault
