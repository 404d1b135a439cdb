/-
The ChaCha generator with twelve rounds: a key of 32 bytes is expanded into
blocks of sixteen words, numbered by a counter of 64 bits.
-/

import SeedVault.Bytes

namespace SeedVault.ChaCha

abbrev Block := Vector UInt32 16

def rotateLeft (word count : UInt32) : UInt32 :=
  (word <<< count) ||| (word >>> (32 - count))

/-- Mixes the words at four places. -/
def quarterRound (block : Block) (a b c d : Fin 16) : Block :=
  let block := block.set a (block[a] + block[b])
  let block := block.set d (rotateLeft (block[d] ^^^ block[a]) 16)
  let block := block.set c (block[c] + block[d])
  let block := block.set b (rotateLeft (block[b] ^^^ block[c]) 12)
  let block := block.set a (block[a] + block[b])
  let block := block.set d (rotateLeft (block[d] ^^^ block[a]) 8)
  let block := block.set c (block[c] + block[d])
  block.set b (rotateLeft (block[b] ^^^ block[c]) 7)

/-- One round on the columns and one on the diagonals. -/
def doubleRound (block : Block) : Block :=
  let block := quarterRound block 0 4 8 12
  let block := quarterRound block 1 5 9 13
  let block := quarterRound block 2 6 10 14
  let block := quarterRound block 3 7 11 15
  let block := quarterRound block 0 5 10 15
  let block := quarterRound block 1 6 11 12
  let block := quarterRound block 2 7 8 13
  quarterRound block 3 4 9 14

/-- Word `index` of the key, least significant byte first. -/
def keyWord (key : Bytes 32) (index : Fin 8) : UInt32 :=
  key[4 * index.val].toUInt32 ||| (key[4 * index.val + 1].toUInt32 <<< 8) |||
    (key[4 * index.val + 2].toUInt32 <<< 16) ||| (key[4 * index.val + 3].toUInt32 <<< 24)

/-- The text "expand 32-byte k", the key, the counter, and an empty nonce. -/
def initial (key : Bytes 32) (counter : Nat) : Block :=
  #v[0x61707865, 0x3320646e, 0x79622d32, 0x6b206574,
    keyWord key 0, keyWord key 1, keyWord key 2, keyWord key 3,
    keyWord key 4, keyWord key 5, keyWord key 6, keyWord key 7,
    counter.toUInt32, (counter >>> 32).toUInt32, 0, 0]

def block (key : Bytes 32) (counter : Nat) : Block :=
  let start := initial key counter
  Vector.zipWith (· + ·) (Nat.repeat doubleRound 6 start) start

/-- The words that the generator yields, one after another. -/
def stream (key : Bytes 32) (place : Nat) : UInt32 :=
  (block key (place / 16))[place % 16]

end SeedVault.ChaCha
