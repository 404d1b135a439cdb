/-
Keyed tags (HMAC) over the SHA-2 family, and the stretching of a secret into a
key (PBKDF2) by repeating such a tag.
-/

import SeedVault.Hash.Sha2

namespace SeedVault.Hmac

open Sha2

/-- A secret, as the two chaining states that have absorbed its inner and its
outer block. -/
structure Key (Word : Type) where
  inner : State Word
  outer : State Word

variable {Word : Type} [family : Family Word]

/-- The secret as one block: hashed first if it is longer than a block, and
filled up with zeros. -/
def keyBlock (Word : Type) [Family Word] (secret : List UInt8) : List UInt8 :=
  let bytes := if secret.length > blockSize Word then (hash Word secret).toList else secret
  bytes ++ List.replicate (blockSize Word - bytes.length) 0

namespace Key

def ofSecret (Word : Type) [family : Family Word] (secret : List UInt8) : Key Word where
  inner := family.start.absorbBytes ((keyBlock Word secret).map (· ^^^ 0x36))
  outer := family.start.absorbBytes ((keyBlock Word secret).map (· ^^^ 0x5c))

/-- The state whose digest is the tag of a message. -/
def tagState (key : Key Word) (message : List UInt8) : State Word :=
  key.outer.finish (blockSize Word) (key.inner.finish (blockSize Word) message).digest.toList

def tag (key : Key Word) (message : List UInt8) : Bytes (8 * family.wordSize) :=
  (key.tagState message).digest

/-- The exclusive or of `total` and of the next `count` tags, each of them the
tag of the digest before it. -/
@[specialize] def accumulate (key : Key Word) :
    (count : Nat) → (last total : State Word) → State Word
  | 0, _, total => total
  | count + 1, last, total =>
    let next := key.outer.absorbDigest (key.inner.absorbDigest last)
    accumulate key count next (total.xor next)

/-- The first block of the key that `rounds` tags stretch from a secret. -/
@[specialize] def stretch (key : Key Word) (salt : List UInt8) (rounds : Nat) :
    Bytes (8 * family.wordSize) :=
  let first := key.tagState (salt ++ [0, 0, 0, 1])
  (key.accumulate (rounds - 1) first first).digest

end Key

end SeedVault.Hmac

namespace SeedVault

def hmacSha256 (secret message : List UInt8) : Bytes 32 :=
  (Hmac.Key.ofSecret UInt32 secret).tag message

def stretchSha256 (secret salt : List UInt8) (rounds : Nat) : Bytes 32 :=
  (Hmac.Key.ofSecret UInt32 secret).stretch salt rounds

def stretchSha512 (secret salt : List UInt8) (rounds : Nat) : Bytes 64 :=
  (Hmac.Key.ofSecret UInt64 secret).stretch salt rounds

end SeedVault
