/-
The keystream of AES in counter mode. It depends on the key and on the initial
counter block only, and masking twice with it gives back what was masked.
-/

import SeedVault.Cipher.Aes

namespace SeedVault.Keystream

/-- The counter block, `count` steps after the initial one. The whole block
counts, and it wraps around. -/
def counter (initial : Bytes 16) (count : Nat) : Bytes 16 :=
  Bytes.ofNat 16 (initial.toNat + count)

/-- The first `size` bytes of the keystream. -/
def bytes (size : Nat) (key : Bytes 32) (initial : Bytes 16) : Bytes size :=
  let blocks : Vector (Bytes 16) ((size + 15) / 16) :=
    Vector.ofFn fun index => Aes.encrypt key (counter initial index.val)
  Vector.ofFn fun index => blocks[index.val / 16][index.val % 16]

/-- Encrypts, and decrypts. -/
def mask {size : Nat} (key : Bytes 32) (initial : Bytes 16) (message : Bytes size) : Bytes size :=
  message.xor (bytes size key initial)

end SeedVault.Keystream
