/-
The part of an automaton that reads a character of a set, byte after byte. States that do
the same are shared, as far as they are remembered.
-/

import SeedVault.Pattern.Automaton.Extent
import SeedVault.Pattern.ByteRange
import SeedVault.Pattern.Memo

namespace SeedVault.Pattern

/-- An automaton, and which of its states is known by what it does. -/
structure Growth where
  extent : Extent
  known : Memo

namespace Growth

/-- The state that is known by a key. If there is none, one is added. -/
def state (growth : Growth) (key : List Nat) (linkBytes : Nat) : Nat × Growth :=
  match growth.known.find? key with
  | some state => (state, growth)
  | none =>
    let state := growth.extent.states
    (state, ⟨growth.extent.add 1 linkBytes, growth.known.insert key state⟩)

/-- The state that reads one of several sequences of at most so many ranges, up to the
state where all end. Sequences that follow each other share the range they begin with. -/
def forwardState (stop : Nat) : Nat → List (List ByteRange) → Growth → Nat × Growth
  | 0, _, growth => (stop, growth)
  | length + 1, sequences, growth =>
    if sequences.all List.isEmpty then (stop, growth)
    else
      let groups := sequences.splitBy fun left right => left.head? = right.head?
      let (key, growth) := groups.foldl (fun (key, growth) group =>
        match group with
        | (range :: _) :: _ =>
          let (next, growth) := forwardState stop length (group.map List.tail) growth
          (key ++ [range.low.toNat, range.high.toNat, next], growth)
        | _ => (key, growth)) ([], growth)
      growth.state key (groups.length * Extent.rangeSize)

/-- Adds what reads a sequence from its end, before a state. -/
def addBackward (growth : Growth) (stop : Nat) (ranges : List ByteRange) : Growth :=
  let (_, growth) := ranges.foldl
    (fun (next, growth) range => growth.state [next, range.low.toNat, range.high.toNat] 0)
    (stop, growth)
  { growth with extent := growth.extent.add 0 Extent.jumpSize }

end Growth

namespace Extent

/-- Adds what reads a character of a set. -/
def addSet (direction : Direction) (set : CodeSet) (extent : Extent) : Extent :=
  if set.isAscii then extent.add 2 (set.ranges.length * rangeSize)
  else
    match direction with
    | .forward =>
      let growth : Growth := ⟨extent.add 1 0, .empty 10000⟩
      (growth.forwardState extent.states 4 set.byteRanges).2.extent
    | .backward =>
      let growth : Growth := ⟨extent.add 2 0, .empty 1000⟩
      (set.byteRanges.foldl
        (fun growth ranges => growth.addBackward (extent.states + 1) ranges) growth).extent

end Extent

end SeedVault.Pattern
