/-
How large an automaton is.
-/

namespace SeedVault.Pattern

/-- The way in which an automaton reads a text. -/
inductive Direction
  | forward
  | backward
deriving DecidableEq

/-- The states of an automaton, and the bytes that the links between them take besides. -/
structure Extent where
  states : Nat
  linkBytes : Nat
deriving DecidableEq

namespace Extent

def empty : Extent := ⟨0, 0⟩

/-- The bytes of a state with no more than one link. -/
def stateSize : Nat := 32

/-- The bytes of a link without a condition, where a state has several. -/
def jumpSize : Nat := 4

/-- The bytes of a link that a range of bytes leads along. -/
def rangeSize : Nat := 8

/-- The greatest size of an automaton in bytes. -/
def sizeLimit : Nat := 10485760

def size (extent : Extent) : Nat :=
  extent.states * stateSize + extent.linkBytes

def isTooLarge (extent : Extent) : Bool :=
  sizeLimit < extent.size

/-- Adds states, and links as given by their bytes. -/
def add (extent : Extent) (states linkBytes : Nat) : Extent :=
  ⟨extent.states + states, extent.linkBytes + linkBytes⟩

/-- Adds something a number of times, or as often as there is room for it. -/
def addTimes (step : Extent → Extent) : Nat → Extent → Extent
  | 0, extent => extent
  | count + 1, extent =>
    if extent.isTooLarge then extent else addTimes step count (step extent)

end Extent

end SeedVault.Pattern
