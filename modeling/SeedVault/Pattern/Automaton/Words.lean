/-
The part of an automaton that reads one of several words. Words that begin alike share
their states as long as no other word ends in between.
-/

import SeedVault.Pattern.Automaton.Extent

namespace SeedVault.Pattern

namespace Extent

/-- The words that end somewhere cut those that go on into pieces. Before any goes on, it
does not matter how many end. -/
def piecesOf (words : List (List UInt8)) : List (List (List UInt8)) :=
  let words :=
    match words with
    | [] :: others => [] :: others.dropWhile List.isEmpty
    | words => words
  words.foldr (fun word pieces =>
    match word, pieces with
    | [], pieces => [] :: pieces
    | word, piece :: pieces => (word :: piece) :: pieces
    | word, [] => [[word]]) [[]]

/-- The words of a piece with the same first byte, without it. -/
def branchesOf (piece : List (List UInt8)) : List (List (List UInt8)) :=
  (piece.filterMap List.head?).eraseDups.map fun byte =>
    piece.filterMap fun word => if word.head? = some byte then some word.tail else none

/-- Adds the states for what is left of words that began alike. -/
def addJunction (words : List (List UInt8)) (extent : Extent) : Extent :=
  let pieces := piecesOf words
  let filled := pieces.filter fun piece => !piece.isEmpty
  let extent := filled.foldl (fun extent piece =>
    let count := (branchesOf piece).length
    extent.add 1 (if count = 1 then 0 else count * rangeSize)) extent
  if filled.isEmpty then extent
  else extent.add 1 ((filled.length + pieces.length - 1) * jumpSize)

/-- Adds the states for words that began alike, byte after byte. -/
def addJunctions : Nat → List (List (List UInt8)) → Extent → Extent
  | 0, _, extent => extent
  | length + 1, junctions, extent =>
    if junctions.isEmpty then extent
    else
      addJunctions length (junctions.flatMap fun words => (piecesOf words).flatMap branchesOf)
        (junctions.foldl (fun extent words => addJunction words extent) extent)

/-- Adds what reads one of several words. -/
def addWords (words : List (List UInt8)) (extent : Extent) : Extent :=
  let length := words.foldl (fun length word => max length word.length) 0
  addJunctions length [words] (extent.add 1 0)

end Extent

end SeedVault.Pattern
