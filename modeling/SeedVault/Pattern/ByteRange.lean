/-
Sets of code points as sequences of ranges of bytes.
-/

import SeedVault.Pattern.CodeSet

namespace SeedVault.Pattern

/-- The bytes from one to another. -/
structure ByteRange where
  low : UInt8
  high : UInt8
deriving DecidableEq

namespace CodeSet

/-- The characters that take the same number of bytes, without surrogates. -/
def sections : List (Nat × Nat) :=
  [(0, 0x7f), (0x80, 0x7ff), (0x800, 0xd7ff), (0xe000, 0xffff), (0x10000, greatest)]

/-- Cuts a range where blocks of the given sizes begin, each size within the blocks of the
size before. Only whole blocks stay together. -/
def cutAtBlocks : List Nat → Nat → Nat → List (Nat × Nat)
  | [], low, high => [(low, high)]
  | size :: sizes, low, high =>
    let start := (low + size - 1) / size * size
    let stop := (high + 1) / size * size
    if low / size = high / size then [(low, high)]
    else
      (if low < start then [(low, start - 1)] else []) ++
        (if start < stop then cutAtBlocks sizes start (stop - 1) else []) ++
        if stop ≤ high then [(stop, high)] else []

/-- The ranges of a set, cut so that each byte of a character is in a range of its own. -/
def pieces (set : CodeSet) : List (Nat × Nat) :=
  (overlaps set.ranges sections).flatMap fun (low, high) =>
    if high < 0x80 then [(low, high)] else cutAtBlocks [0x40, 0x1000, 0x40000] low high

def bytes (code : Nat) : List UInt8 :=
  String.utf8EncodeChar (Char.ofNat code)

/-- The sequences of bytes that are characters of a set. -/
def byteRanges (set : CodeSet) : List (List ByteRange) :=
  set.pieces.map fun (low, high) => (bytes low).zipWith ByteRange.mk (bytes high)

end CodeSet

end SeedVault.Pattern
