/-
AES with a key of 256 bits: fourteen rounds on a block of four columns of four
bytes, the first column first.
-/

import SeedVault.Bytes

namespace SeedVault.Aes

/-- Multiplication by `x` in the field of 256 elements, modulo
`x^8 + x^4 + x^3 + x + 1`. -/
def double (byte : UInt8) : UInt8 :=
  (byte <<< 1) ^^^ (if byte < 0x80 then 0 else 0x1b)

/-- The product in the field, one bit of the left factor after another. -/
def multiply (left right : UInt8) : UInt8 :=
  (Nat.fold 8 (fun bit _ (product, power) =>
    (if left.toNat.testBit bit then product ^^^ power else product, double power))
    (0, right)).1

/-- The inverse in the field, with 0 as its own inverse: the power 254, which is
the product of the powers 2, 4, 8 and so on up to 128. -/
def inverse (byte : UInt8) : UInt8 :=
  (Nat.fold 7 (fun _ _ (product, power) =>
    let square := multiply power power
    (multiply product square, square))
    (1, byte)).1

def rotateLeft (byte count : UInt8) : UInt8 :=
  (byte <<< count) ||| (byte >>> (8 - count))

/-- The inverse, followed by an affine map on its bits. -/
def substitutionOf (byte : UInt8) : UInt8 :=
  let i := inverse byte
  i ^^^ rotateLeft i 1 ^^^ rotateLeft i 2 ^^^ rotateLeft i 3 ^^^ rotateLeft i 4 ^^^ 0x63

def substitutions : Vector UInt8 256 :=
  Vector.ofFn fun index => substitutionOf index.val.toUInt8

def substitute (byte : UInt8) : UInt8 :=
  substitutions.get ⟨byte.toNat, byte.toNat_lt⟩

/-- Row `r` moves `r` columns to the left. -/
def shiftRows (block : Bytes 16) : Bytes 16 :=
  Vector.ofFn fun index =>
    let column := index.val / 4
    let row := index.val % 4
    block[4 * ((column + row) % 4) + row]

/-- Every column is multiplied by the polynomial `3x^3 + x^2 + x + 2`. -/
def mixColumns (block : Bytes 16) : Bytes 16 :=
  Vector.ofFn fun index =>
    let column := index.val / 4
    let row := index.val % 4
    double block[4 * column + row] ^^^ multiply 3 block[4 * column + (row + 1) % 4] ^^^
      block[4 * column + (row + 2) % 4] ^^^ block[4 * column + (row + 3) % 4]

/-- Eight words of the key schedule, which hold two round keys. -/
abbrev KeyWords := Vector (Bytes 4) 8

/-- The eight words after the given ones. -/
def nextKeyWords (roundConstant : UInt8) (words : KeyWords) : KeyWords :=
  let last := words[7]
  let turned : Bytes 4 :=
    #v[substitute last[1] ^^^ roundConstant, substitute last[2], substitute last[3],
      substitute last[0]]
  let word0 := words[0].xor turned
  let word1 := words[1].xor word0
  let word2 := words[2].xor word1
  let word3 := words[3].xor word2
  let word4 := words[4].xor (word3.map substitute)
  let word5 := words[5].xor word4
  let word6 := words[6].xor word5
  #v[word0, word1, word2, word3, word4, word5, word6, words[7].xor word6]

/-- The key schedule, eight words at a time: the round constants are the
powers of `x`. -/
def schedule : (count : Nat) → (roundConstant : UInt8) → KeyWords → List KeyWords
  | 0, _, _ => []
  | count + 1, roundConstant, words =>
    words :: schedule count (double roundConstant) (nextKeyWords roundConstant words)

def roundKeysOf (words : KeyWords) : List (Bytes 16) :=
  [ Vector.ofFn fun index => words[index.val / 4][index.val % 4],
    Vector.ofFn fun index => words[4 + index.val / 4][index.val % 4] ]

/-- The first round key, the keys of the thirteen inner rounds, and the key of
the last round. -/
def roundKeys (key : Bytes 32) : List (Bytes 16) :=
  let words : KeyWords :=
    Vector.ofFn fun word => Vector.ofFn fun byte => key[4 * word.val + byte.val]
  (schedule 8 1 words).flatMap roundKeysOf

def substituteAndShift (block : Bytes 16) : Bytes 16 :=
  shiftRows (block.map substitute)

/-- The rounds under the given keys; the last one does not mix the columns. -/
def rounds : List (Bytes 16) → Bytes 16 → Bytes 16
  | [], block => block
  | [key], block => (substituteAndShift block).xor key
  | key :: keys, block => rounds keys ((mixColumns (substituteAndShift block)).xor key)

def encrypt (key : Bytes 32) (block : Bytes 16) : Bytes 16 :=
  match (roundKeys key).take 15 with
  | [] => block
  | first :: others => rounds others (block.xor first)

end SeedVault.Aes
