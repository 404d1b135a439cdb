/-
The SHA-2 family: a message is padded to whole blocks of sixteen words, and
each block is mixed into eight chaining words. The members differ in the width
of a word, in the rotation counts and in the constants.
-/

import SeedVault.Bytes

namespace SeedVault

namespace Sha2

/-- The eight chaining words. -/
structure State (Word : Type) where
  a : Word
  b : Word
  c : Word
  d : Word
  e : Word
  f : Word
  g : Word
  h : Word
deriving DecidableEq, Inhabited

/-- What distinguishes one member of the family: the functions that mix a word
with rotated copies of itself, and the constants. -/
class Family (Word : Type) extends Add Word, XorOp Word, AndOp Word, Complement Word where
  wordSize : Nat
  ofNat : Nat → Word
  toNat : Word → Nat
  mixA : Word → Word
  mixE : Word → Word
  spreadEarly : Word → Word
  spreadLate : Word → Word
  start : State Word
  roundConstants : List Word

@[inline] def rotateRight32 (word count : UInt32) : UInt32 :=
  (word >>> count) ||| (word <<< (32 - count))

@[inline] def rotateRight64 (word count : UInt64) : UInt64 :=
  (word >>> count) ||| (word <<< (64 - count))

/-- SHA-256. Its constants are the first 32 fractional bits of the square roots
of the first 8 primes and of the cube roots of the first 64. -/
instance : Family UInt32 where
  wordSize := 4
  ofNat := UInt32.ofNat
  toNat := UInt32.toNat
  mixA word := rotateRight32 word 2 ^^^ rotateRight32 word 13 ^^^ rotateRight32 word 22
  mixE word := rotateRight32 word 6 ^^^ rotateRight32 word 11 ^^^ rotateRight32 word 25
  spreadEarly word := rotateRight32 word 7 ^^^ rotateRight32 word 18 ^^^ (word >>> 3)
  spreadLate word := rotateRight32 word 17 ^^^ rotateRight32 word 19 ^^^ (word >>> 10)
  start :=
    ⟨0x6a09e667, 0xbb67ae85, 0x3c6ef372, 0xa54ff53a,
    0x510e527f, 0x9b05688c, 0x1f83d9ab, 0x5be0cd19⟩
  roundConstants :=
    [ 0x428a2f98, 0x71374491, 0xb5c0fbcf, 0xe9b5dba5, 0x3956c25b, 0x59f111f1,
      0x923f82a4, 0xab1c5ed5, 0xd807aa98, 0x12835b01, 0x243185be, 0x550c7dc3,
      0x72be5d74, 0x80deb1fe, 0x9bdc06a7, 0xc19bf174, 0xe49b69c1, 0xefbe4786,
      0x0fc19dc6, 0x240ca1cc, 0x2de92c6f, 0x4a7484aa, 0x5cb0a9dc, 0x76f988da,
      0x983e5152, 0xa831c66d, 0xb00327c8, 0xbf597fc7, 0xc6e00bf3, 0xd5a79147,
      0x06ca6351, 0x14292967, 0x27b70a85, 0x2e1b2138, 0x4d2c6dfc, 0x53380d13,
      0x650a7354, 0x766a0abb, 0x81c2c92e, 0x92722c85, 0xa2bfe8a1, 0xa81a664b,
      0xc24b8b70, 0xc76c51a3, 0xd192e819, 0xd6990624, 0xf40e3585, 0x106aa070,
      0x19a4c116, 0x1e376c08, 0x2748774c, 0x34b0bcb5, 0x391c0cb3, 0x4ed8aa4a,
      0x5b9cca4f, 0x682e6ff3, 0x748f82ee, 0x78a5636f, 0x84c87814, 0x8cc70208,
      0x90befffa, 0xa4506ceb, 0xbef9a3f7, 0xc67178f2 ]

/-- SHA-512. Its constants are the first 64 fractional bits of the square roots
of the first 8 primes and of the cube roots of the first 80. -/
instance : Family UInt64 where
  wordSize := 8
  ofNat := UInt64.ofNat
  toNat := UInt64.toNat
  mixA word := rotateRight64 word 28 ^^^ rotateRight64 word 34 ^^^ rotateRight64 word 39
  mixE word := rotateRight64 word 14 ^^^ rotateRight64 word 18 ^^^ rotateRight64 word 41
  spreadEarly word := rotateRight64 word 1 ^^^ rotateRight64 word 8 ^^^ (word >>> 7)
  spreadLate word := rotateRight64 word 19 ^^^ rotateRight64 word 61 ^^^ (word >>> 6)
  start :=
    ⟨0x6a09e667f3bcc908, 0xbb67ae8584caa73b, 0x3c6ef372fe94f82b, 0xa54ff53a5f1d36f1,
      0x510e527fade682d1, 0x9b05688c2b3e6c1f, 0x1f83d9abfb41bd6b, 0x5be0cd19137e2179⟩
  roundConstants :=
    [ 0x428a2f98d728ae22, 0x7137449123ef65cd, 0xb5c0fbcfec4d3b2f, 0xe9b5dba58189dbbc,
      0x3956c25bf348b538, 0x59f111f1b605d019, 0x923f82a4af194f9b, 0xab1c5ed5da6d8118,
      0xd807aa98a3030242, 0x12835b0145706fbe, 0x243185be4ee4b28c, 0x550c7dc3d5ffb4e2,
      0x72be5d74f27b896f, 0x80deb1fe3b1696b1, 0x9bdc06a725c71235, 0xc19bf174cf692694,
      0xe49b69c19ef14ad2, 0xefbe4786384f25e3, 0x0fc19dc68b8cd5b5, 0x240ca1cc77ac9c65,
      0x2de92c6f592b0275, 0x4a7484aa6ea6e483, 0x5cb0a9dcbd41fbd4, 0x76f988da831153b5,
      0x983e5152ee66dfab, 0xa831c66d2db43210, 0xb00327c898fb213f, 0xbf597fc7beef0ee4,
      0xc6e00bf33da88fc2, 0xd5a79147930aa725, 0x06ca6351e003826f, 0x142929670a0e6e70,
      0x27b70a8546d22ffc, 0x2e1b21385c26c926, 0x4d2c6dfc5ac42aed, 0x53380d139d95b3df,
      0x650a73548baf63de, 0x766a0abb3c77b2a8, 0x81c2c92e47edaee6, 0x92722c851482353b,
      0xa2bfe8a14cf10364, 0xa81a664bbc423001, 0xc24b8b70d0f89791, 0xc76c51a30654be30,
      0xd192e819d6ef5218, 0xd69906245565a910, 0xf40e35855771202a, 0x106aa07032bbd1b8,
      0x19a4c116b8d2d0c8, 0x1e376c085141ab53, 0x2748774cdf8eeb99, 0x34b0bcb5e19b48a8,
      0x391c0cb3c5c95a63, 0x4ed8aa4ae3418acb, 0x5b9cca4f7763e373, 0x682e6ff3d6b2b8a3,
      0x748f82ee5defb2fc, 0x78a5636f43172f60, 0x84c87814a1f0ab72, 0x8cc702081a6439ec,
      0x90befffa23631e28, 0xa4506cebde82bde9, 0xbef9a3f7b2c67915, 0xc67178f2e372532b,
      0xca273eceea26619c, 0xd186b8c721c0c207, 0xeada7dd6cde0eb1e, 0xf57d4f7fee6ed178,
      0x06f067aa72176fba, 0x0a637dc5a2c898a6, 0x113f9804bef90dae, 0x1b710b35131c471b,
      0x28db77f523047d84, 0x32caab7b40c72493, 0x3c9ebe0a15c9bebc, 0x431d67c49c100d4c,
      0x4cc5d4becb3e42b6, 0x597f299cfc657e2a, 0x5fcb6fab3ad6faec, 0x6c44198c4a475817 ]

section

variable {Word : Type} [family : Family Word]

/-- One round per constant. The schedule is a window of sixteen words that
moves on by one word each round, so all words can stay in registers. -/
@[specialize] def rounds : List Word →
    (w0 w1 w2 w3 w4 w5 w6 w7 w8 w9 w10 w11 w12 w13 w14 w15 : Word) →
    (a b c d e f g h : Word) → State Word
  | [], _, _, _, _, _, _, _, _, _, _, _, _, _, _, _, _, a, b, c, d, e, f, g, h =>
    ⟨a, b, c, d, e, f, g, h⟩
  | constant :: constants, w0, w1, w2, w3, w4, w5, w6, w7, w8, w9, w10, w11, w12, w13, w14, w15,
      a, b, c, d, e, f, g, h =>
    let chosen := (e &&& f) ^^^ (~~~e &&& g)
    let majority := (a &&& b) ^^^ (a &&& c) ^^^ (b &&& c)
    let first := h + family.mixE e + chosen + constant + w0
    let second := family.mixA a + majority
    rounds constants w1 w2 w3 w4 w5 w6 w7 w8 w9 w10 w11 w12 w13 w14 w15
      (family.spreadLate w14 + w9 + family.spreadEarly w1 + w0)
      (first + second) a b c (d + first) e f g

namespace State

/-- Wordwise addition. -/
@[specialize] def add (s t : State Word) : State Word :=
  ⟨s.a + t.a, s.b + t.b, s.c + t.c, s.d + t.d, s.e + t.e, s.f + t.f, s.g + t.g, s.h + t.h⟩

/-- Wordwise exclusive or. -/
@[specialize] def xor (s t : State Word) : State Word :=
  ⟨s.a ^^^ t.a, s.b ^^^ t.b, s.c ^^^ t.c, s.d ^^^ t.d,
    s.e ^^^ t.e, s.f ^^^ t.f, s.g ^^^ t.g, s.h ^^^ t.h⟩

/-- Absorbs whole blocks of sixteen words; what is left over is dropped. -/
@[specialize] def absorb : State Word → List Word → State Word
  | s, w0 :: w1 :: w2 :: w3 :: w4 :: w5 :: w6 :: w7 :: w8 :: w9 :: w10 :: w11 :: w12 :: w13 ::
      w14 :: w15 :: rest =>
    absorb (s.add (rounds family.roundConstants
      w0 w1 w2 w3 w4 w5 w6 w7 w8 w9 w10 w11 w12 w13 w14 w15
      s.a s.b s.c s.d s.e s.f s.g s.h)) rest
  | s, _ => s

def words (s : State Word) : List Word :=
  [s.a, s.b, s.c, s.d, s.e, s.f, s.g, s.h]

/-- Absorbs the digest that `t` spells as the second and last block of a
message: a one bit, zeros, and the length of 24 words in bits. -/
@[specialize] def absorbDigest (s t : State Word) : State Word :=
  let zero := family.ofNat 0
  s.absorb (t.words ++
    [family.ofNat (1 <<< (8 * family.wordSize - 1)), zero, zero, zero, zero, zero, zero,
      family.ofNat (24 * 8 * family.wordSize)])

/-- The bytes that the chaining words spell. -/
def digest (s : State Word) : Bytes (8 * family.wordSize) :=
  Bytes.ofNat _ (s.words.foldl
    (fun value word => (value <<< (8 * family.wordSize)) + family.toNat word) 0)

end State

/-- The first `count` words of a list of bytes. -/
def wordsOf : (count : Nat) → List UInt8 → List Word
  | 0, _ => []
  | count + 1, bytes =>
    family.ofNat (Bytes.valueOf (bytes.take family.wordSize)) ::
      wordsOf count (bytes.drop family.wordSize)

variable (Word)

def blockSize : Nat := 16 * family.wordSize

/-- What follows a message of `size` bytes: a one bit, zeros up to a whole
block, and the length in bits, which is two words long. -/
def padding (size : Nat) : List UInt8 :=
  let filled := (size + 1 + 2 * family.wordSize) % blockSize Word
  0x80 :: List.replicate ((blockSize Word - filled) % blockSize Word) 0 ++
    (Bytes.ofNat (2 * family.wordSize) (8 * size)).toList

variable {Word}

namespace State

/-- Absorbs whole blocks of bytes. -/
def absorbBytes (s : State Word) (bytes : List UInt8) : State Word :=
  s.absorb (wordsOf (bytes.length / family.wordSize) bytes)

/-- Absorbs the end of a message of which `absorbed` bytes, a whole number of
blocks, are already in the state. -/
def finish (s : State Word) (absorbed : Nat) (message : List UInt8) : State Word :=
  s.absorbBytes (message ++ padding Word (absorbed + message.length))

end State

variable (Word)

def hash (message : List UInt8) : Bytes (8 * family.wordSize) :=
  (family.start.finish 0 message).digest

end

end Sha2

def sha256 (message : List UInt8) : Bytes 32 :=
  Sha2.hash UInt32 message

end SeedVault
