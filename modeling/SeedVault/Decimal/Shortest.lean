/-
The shortest decimal that reads back as a given binary fraction.
-/

import SeedVault.Decimal.Binary

namespace SeedVault.Decimal

/-- The number `digits * 10 ^ exponent`. -/
structure Scaled where
  digits : Nat
  exponent : Int
deriving DecidableEq

namespace Binary

/-- Whether the gap below the number is half as wide as the gap above it. -/
def hasNarrowGap (number : Binary) : Bool :=
  number.significand == leadingBit && -1074 < number.exponent

/-- A multiple of a quarter of the last place, and a multiple of a power of
ten, over one denominator. -/
def quarters (number : Binary) (exponent : Int) (count : Nat) : Nat :=
  (count <<< (number.exponent - 2).toNat) * Nat.pow 10 (-exponent).toNat

def tens (number : Binary) (exponent : Int) (count : Nat) : Nat :=
  (count <<< (2 - number.exponent).toNat) * Nat.pow 10 exponent.toNat

/-- Whether `digits * 10 ^ exponent` is rounded to the number: the ends of its
interval belong to it if its significand is even. -/
def isRoundedFrom (number : Binary) (exponent : Int) (digits : Nat) : Bool :=
  let low := number.quarters exponent
    (4 * number.significand - if number.hasNarrowGap then 1 else 2)
  let high := number.quarters exponent (4 * number.significand + 2)
  let middle := number.tens exponent digits
  if number.significand % 2 = 0 then low ≤ middle && middle ≤ high
  else low < middle && middle < high

/-- The multiple of `10 ^ exponent` nearest to the number among those that are
rounded to it. -/
def nearest? (number : Binary) (exponent : Int) : Option Scaled :=
  let value := number.quarters exponent (4 * number.significand)
  let below := value / number.tens exponent 1
  let above := below + 1
  match number.isRoundedFrom exponent below, number.isRoundedFrom exponent above with
  | false, false => none
  | true, false => some ⟨below, exponent⟩
  | false, true => some ⟨above, exponent⟩
  | true, true =>
    let middle := number.tens exponent below + number.tens exponent above
    if 2 * value < middle || (2 * value == middle && below % 2 == 0) then some ⟨below, exponent⟩
    else some ⟨above, exponent⟩

/-- The shortest decimal, from the coarsest grid that has one. -/
def shortest (number : Binary) : Scaled :=
  let exponents := (List.range 640).map fun (step : Nat) => (310 : Int) - step
  (exponents.findSome? number.nearest?).getD ⟨0, 0⟩

end Binary

end SeedVault.Decimal
