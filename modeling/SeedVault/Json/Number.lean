/-
Numbers. A number that is skipped is only checked for its form; one that stands
in the place of something else is read, so that it can be named.
-/

import SeedVault.Decimal.Shortest
import SeedVault.Json.Problem

namespace SeedVault.Json

def isDigit (char : Char) : Bool :=
  '0' ≤ char && char ≤ '9'

def digitValue (char : Char) : Nat :=
  char.toNat - 48

def startsWithDigit (text : List Char) : Bool :=
  text.head?.any isDigit

def skipDigits (text : List Char) : List Char :=
  text.dropWhile isDigit

theorem length_skipDigits_le (text : List Char) : (skipDigits text).length ≤ text.length :=
  (List.dropWhile_sublist isDigit).length_le

/-- Skips the digits of an exponent, after its sign. -/
def skipExponentDigits (text : List Char) : Except Problem (List Char) :=
  if startsWithDigit text then .ok (skipDigits text) else .error .badNumber

def skipSign : List Char → List Char
  | '+' :: rest => rest
  | '-' :: rest => rest
  | text => text

def skipExponent : List Char → Except Problem (List Char)
  | 'e' :: rest => skipExponentDigits (skipSign rest)
  | 'E' :: rest => skipExponentDigits (skipSign rest)
  | text => .ok text

def skipFraction : List Char → Except Problem (List Char)
  | '.' :: rest =>
    if startsWithDigit rest then skipExponent (skipDigits rest) else .error .badNumber
  | text => skipExponent text

/-- Skips a number, after its sign. A leading zero stands alone. -/
def skipNumber : List Char → Except Problem (List Char)
  | [] => .error .badNumber
  | char :: rest =>
    if char = '0' then
      if startsWithDigit rest then .error .badNumber else skipFraction rest
    else if isDigit char then skipFraction (skipDigits rest)
    else .error .badNumber

theorem length_skipSign_le (text : List Char) : (skipSign text).length ≤ text.length := by
  unfold skipSign
  split <;> simp

theorem length_le_of_skipExponentDigits {text rest : List Char}
    (skipped : skipExponentDigits text = .ok rest) : rest.length ≤ text.length := by
  unfold skipExponentDigits at skipped
  split at skipped
  · cases skipped
    exact length_skipDigits_le text
  · simp at skipped

theorem length_le_of_skipExponent {text rest : List Char} (skipped : skipExponent text = .ok rest) :
    rest.length ≤ text.length := by
  unfold skipExponent at skipped
  split at skipped
  · rename_i tail
    have := length_le_of_skipExponentDigits skipped
    have := length_skipSign_le tail
    simp only [List.length_cons]
    omega
  · rename_i tail
    have := length_le_of_skipExponentDigits skipped
    have := length_skipSign_le tail
    simp only [List.length_cons]
    omega
  · simp_all

theorem length_le_of_skipFraction {text rest : List Char} (skipped : skipFraction text = .ok rest) :
    rest.length ≤ text.length := by
  unfold skipFraction at skipped
  split at skipped
  · rename_i tail
    split at skipped
    · have := length_le_of_skipExponent skipped
      have := length_skipDigits_le tail
      simp only [List.length_cons]
      omega
    · simp at skipped
  · exact length_le_of_skipExponent skipped

theorem length_lt_of_skipNumber {text rest : List Char} (skipped : skipNumber text = .ok rest) :
    rest.length < text.length := by
  unfold skipNumber at skipped
  split at skipped
  · simp at skipped
  · rename_i char tail
    simp only [List.length_cons]
    split at skipped
    · split at skipped
      · simp at skipped
      · have := length_le_of_skipFraction skipped
        omega
    · split at skipped
      · have := length_le_of_skipFraction skipped
        have := length_skipDigits_le tail
        omega
      · simp at skipped

/-- The largest number that is kept exactly. -/
def largestExact : Nat := 0xffffffffffffffff

/-- Appends digits to a number as long as it is kept exactly: the number, how
many digits were taken, and the rest. -/
def takeDigits (number : Nat) : List Char → Nat × Nat × List Char
  | [] => (number, 0, [])
  | char :: rest =>
    if isDigit char && number * 10 + digitValue char ≤ largestExact then
      let (number, count, rest) := takeDigits (number * 10 + digitValue char) rest
      (number, count + 1, rest)
    else (number, 0, char :: rest)

def powerOfTen (exponent : Nat) : Float :=
  Float.ofScientific 1 false exponent

/-- The magnitude `significand * 10 ^ exponent`, computed with one rounding for
each factor, the factors being at most `10 ^ 308`. -/
def magnitude (significand : Nat) (exponent : Int) : Except Problem Float :=
  let start := (UInt64.ofNat significand).toFloat
  if exponent > 308 then if significand = 0 then .ok 0 else .error .numberTooLarge
  else if exponent ≥ 0 then
    let product := start * powerOfTen exponent.toNat
    if product.isInf then .error .numberTooLarge else .ok product
  else if exponent ≥ -308 then .ok (start / powerOfTen (-exponent).toNat)
  else if exponent ≥ -616 then
    .ok (start / powerOfTen 308 / powerOfTen (-exponent - 308).toNat)
  else .ok 0

/-- The sign of an exponent is always written. -/
def exponentText (exponent : Int) : String :=
  if 0 ≤ exponent then "e+" ++ toString exponent else "e" ++ toString exponent

/-- Digits in a row: positional notation for numbers with at most sixteen digits
before the point and at most four zeros after it, and an exponent for others. -/
def scaledText (number : Decimal.Scaled) : String :=
  let digits := Nat.toDigits 10 number.digits
  let point := (digits.length : Int) + number.exponent
  if 0 ≤ number.exponent ∧ point ≤ 16 then
    String.ofList (digits ++ List.replicate number.exponent.toNat '0' ++ ['.', '0'])
  else if 0 < point ∧ point ≤ 16 then
    String.ofList (digits.take point.toNat ++ '.' :: digits.drop point.toNat)
  else if -5 < point ∧ point ≤ 0 then
    String.ofList ('0' :: '.' :: List.replicate (-point).toNat '0' ++ digits)
  else
    let fraction := if digits.length = 1 then [] else '.' :: digits.drop 1
    String.ofList (digits.take 1 ++ fraction) ++ exponentText (point - 1)

/-- A number that is not whole, in the fewest digits that read back. -/
def fractionText (negative : Bool) (number : Float) : String :=
  let binary := Decimal.Binary.ofFloat number
  let text := if binary.significand = 0 then "0.0" else scaledText binary.shortest
  if negative then "-" ++ text else text

def fractionFound (negative : Bool) (significand : Nat) (exponent : Int) : Except Problem Found :=
  (magnitude significand exponent).map fun number => .fraction (fractionText negative number)

/-- The number with a given significand, after which an exponent follows. -/
def exponentFound (negative : Bool) (significand : Nat) (start : Int) (text : List Char) :
    Except Problem Found :=
  match skipSign text with
  | [] => .error .endOfValue
  | char :: rest =>
    if isDigit char then
      let exponent :=
        (rest.takeWhile isDigit).foldl (fun value char => value * 10 + digitValue char)
          (digitValue char)
      fractionFound negative significand
        (if text.head? = some '-' then start - exponent else start + exponent)
    else .error .badNumber

def isExponentMark (char : Char) : Bool :=
  char == 'e' || char == 'E'

/-- The number with a given significand, which digits after the point extend.
Digits beyond those that are kept exactly are ignored. -/
def decimalsFound (negative : Bool) (significand : Nat) (start : Int) (text : List Char) :
    Except Problem Found :=
  let (significand, count, rest) := takeDigits significand text
  if count = 0 && !startsWithDigit rest then
    .error (if rest.isEmpty then .endOfValue else .badNumber)
  else
    match skipDigits rest with
    | [] => fractionFound negative significand (start - count)
    | char :: rest =>
      if isExponentMark char then exponentFound negative significand (start - count) rest
      else fractionFound negative significand (start - count)

/-- The number without a fraction or an exponent: whole if it fits into 64
bits. -/
def wholeFound (negative : Bool) (significand exponent : Nat) : Except Problem Found :=
  if exponent = 0 ∧ !negative then .ok (.integer significand)
  else if exponent = 0 ∧ 0 < significand ∧ significand ≤ 0x8000000000000000 then
    .ok (.integer (-significand))
  else fractionFound negative significand exponent

/-- What a number is found to be, after its sign. -/
def numberFound (negative : Bool) (text : List Char) : Except Problem Found :=
  match text with
  | [] => .error .endOfValue
  | first :: tail =>
    if !isDigit first || (first == '0' && startsWithDigit tail) then .error .badNumber
    else
      let (significand, _, rest) := takeDigits (digitValue first) tail
      let exponent := (rest.takeWhile isDigit).length
      match skipDigits rest with
      | [] => wholeFound negative significand exponent
      | char :: rest =>
        if char = '.' then decimalsFound negative significand exponent rest
        else if isExponentMark char then exponentFound negative significand exponent rest
        else wholeFound negative significand exponent

end SeedVault.Json
