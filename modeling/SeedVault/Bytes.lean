/-
Byte strings of a fixed length, and the numbers they spell with the most
significant byte first.
-/

namespace SeedVault

/-- A byte string whose length is part of its type. -/
abbrev Bytes (size : Nat) := Vector UInt8 size

namespace Bytes

/-- The list as a byte string of the wanted length, if it has that length. -/
def ofList? {size : Nat} (bytes : List UInt8) : Option (Bytes size) :=
  if fits : bytes.length = size then some ⟨bytes.toArray, by simpa using fits⟩ else none

/-- The number that a list of bytes spells. -/
def valueOf (bytes : List UInt8) : Nat :=
  bytes.foldl (fun value byte => value * 256 + byte.toNat) 0

/-- The number that a byte string spells. -/
def toNat {size : Nat} (bytes : Bytes size) : Nat :=
  valueOf bytes.toList

/-- The last `size` base-256 digits of a number. -/
def ofNat (size value : Nat) : Bytes size :=
  Vector.ofFn fun index => (value >>> (8 * (size - 1 - index.val))).toUInt8

/-- Bytewise exclusive or. -/
def xor {size : Nat} (left right : Bytes size) : Bytes size :=
  Vector.zipWith (· ^^^ ·) left right

/-- Equality decided by or-ing together all bytewise differences, so that
every byte is looked at wherever the first difference is. -/
def same {size : Nat} (left right : Bytes size) : Bool :=
  (Vector.zipWith (· ^^^ ·) left right).foldl (· ||| ·) 0 == 0

/-- What a log may show of secret bytes. -/
def redacted {size : Nat} (_ : Bytes size) : String :=
  s!"SecretBytes<{size}>(..)"

end Bytes

end SeedVault
