/-
Uniform samples without repetition, drawn from a stream of 32-bit words.
-/

namespace SeedVault.Sample

/-- The number of values of a word. -/
def wordRange : Nat := 0x100000000

/-- The largest low half that a product may have. Above it the high half would
favour some values, so the word is rejected. -/
def zone (range : Nat) : Nat :=
  (range <<< (31 - range.log2)) - 1

/-- A value below `range`, unless the word is rejected. -/
def pick? (range : Nat) (word : UInt32) : Option Nat :=
  let product := word.toNat * range
  if product % wordRange ≤ zone range then some (product / wordRange) else none

/-- The value of the first accepted word from `place` on, and the place after
it. -/
def draw? (range : Nat) (stream : Nat → UInt32) : (attempts place : Nat) → Option (Nat × Nat)
  | 0, _ => none
  | attempts + 1, place =>
    match pick? range (stream place) with
    | some value => some (value, place + 1)
    | none => draw? range stream attempts (place + 1)

/-- The length after which a stream numbered by 64-bit blocks of sixteen words
repeats itself: if none of that many words is accepted, none ever is. -/
def period : Nat := 1 <<< 68

/-- Chooses one value for each bound, at most that bound: the drawn value, or
the bound itself if the drawn value is chosen already. -/
def choose (stream : Nat → UInt32) : (bounds : List Nat) → (place : Nat) → (chosen : List Nat) →
    List Nat
  | [], _, chosen => chosen
  | bound :: bounds, place, chosen =>
    let (value, next) := (draw? (bound + 1) stream period place).getD (bound, place)
    choose stream bounds next ((if value ∈ chosen then bound else value) :: chosen)

/-- `count` distinct values below `total`, all such sets equally likely. -/
def distinct (total count : Nat) (stream : Nat → UInt32) : List Nat :=
  choose stream (List.range' (total - count) count) 0 []

end SeedVault.Sample
