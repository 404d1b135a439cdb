/-
Binary fractions: finite floating-point numbers as integers times powers of two.
-/

namespace SeedVault.Decimal

/-- The number `significand * 2 ^ exponent`. -/
structure Binary where
  significand : Nat
  exponent : Int
deriving DecidableEq

/-- The bit above the 52 bits of a significand that are stored. -/
def leadingBit : Nat := 0x10000000000000

/-- The magnitude of a finite number. -/
def Binary.ofFloat (number : Float) : Binary :=
  let bits := number.toBits.toNat
  let fraction : Nat := bits % leadingBit
  let scale : Nat := bits / leadingBit % 2048
  if scale = 0 then ⟨fraction, -1074⟩ else ⟨fraction + leadingBit, (scale : Int) - 1075⟩

/-- The whole number nearest to a quotient; a tie goes to the even one. -/
def roundQuotient (numerator denominator : Nat) : Nat :=
  let quotient := numerator / denominator
  let rest := numerator % denominator
  if 2 * rest < denominator then quotient
  else if denominator < 2 * rest then quotient + 1
  else quotient + quotient % 2

/-- The digits of a number, with zeros in front up to the given width. -/
def padded (width number : Nat) : String :=
  let digits := Nat.toDigits 10 number
  String.ofList (List.replicate (width - digits.length) '0' ++ digits)

/-- A magnitude with the given number of decimal places. -/
def fixed (places : Nat) (number : Binary) : String :=
  let unit := Nat.pow 10 places
  let scaled :=
    roundQuotient ((number.significand * unit) <<< number.exponent.toNat)
      (1 <<< (-number.exponent).toNat)
  s!"{padded 1 (scaled / unit)}.{padded places (scaled % unit)}"

end SeedVault.Decimal
