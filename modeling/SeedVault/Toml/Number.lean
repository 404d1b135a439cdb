/-
Numbers, dates and times.
-/

import SeedVault.Toml.Lexical
import SeedVault.Toml.Table

namespace SeedVault.Toml

/-- Reads the digits that follow the first one. An underscore may stand between
two digits. -/
def readMoreDigits (isDigit : Char → Bool) : List Char → Reading (List Char)
  | '_' :: char :: rest =>
    if isDigit char then following char (readMoreDigits isDigit rest) else none
  | char :: rest =>
    if isDigit char then following char (readMoreDigits isDigit rest)
    else if char = '_' then none
    else some ([], char :: rest)
  | [] => some ([], [])

def readDigits (isDigit : Char → Bool) : List Char → Reading (List Char)
  | char :: rest =>
    if isDigit char then following char (readMoreDigits isDigit rest) else none
  | [] => none

/-- Reads the digits of a whole number; a leading zero stands alone. -/
def readWhole : List Char → Reading (List Char)
  | '0' :: rest => some (['0'], rest)
  | text => readDigits Char.isDigit text

/-- Whether a number is negative, and its text without the sign. -/
def readSign : List Char → Bool × List Char
  | '+' :: rest => (false, rest)
  | '-' :: rest => (true, rest)
  | text => (false, text)

/-- Reads an exponent, if there is one. -/
def readExponent : List Char → Option (Int × List Char)
  | [] => some (0, [])
  | char :: rest =>
    if char = 'e' || char = 'E' then do
      let (isNegative, rest) := readSign rest
      let (digits, rest) ← readDigits Char.isDigit rest
      let size := (Text.number 10 digits : Int)
      return (if isNegative then -size else size, rest)
    else some (0, char :: rest)

/-- The least number that is rounded to infinity, being as near to 2 ^ 1024 as to
the greatest one with 53 binary digits. -/
def overflowBound : Nat := (1 <<< 1024) - (1 <<< 970)

/-- Whether `digits` times a power of ten has no finite approximation. Scales that
decide by themselves are not computed with. -/
def overflows (digits : List Char) (scale : Int) : Bool :=
  let value := Text.number 10 digits
  if value = 0 then false
  else if 309 ≤ scale then true
  else if 0 ≤ scale then overflowBound ≤ value * Nat.pow 10 scale.toNat
  else if digits.length ≤ (-scale).toNat then false
  else overflowBound * Nat.pow 10 (-scale).toNat ≤ value

/-- The value of the highest of 64 bits. -/
def signBit : Nat := 0x8000000000000000

/-- The value of a whole number, if it fits into 64 bits. -/
def integer? (isNegative : Bool) (size : Nat) : Option Value :=
  if isNegative then if size ≤ signBit then some (.integer (-size)) else none
  else if size < signBit then some (.integer size)
  else none

/-- Reads what follows the mark of a base other than ten. -/
def readInBase (base : Nat) (text : List Char) : Option (Value × List Char) := do
  let (digits, rest) ← readDigits (Text.isDigitIn base) text
  return (← integer? false (Text.number base digits), rest)

/-- Reads a number, after its sign. Only a negative number may be infinite by its
size. -/
def readUnsigned (isNegative : Bool) (text : List Char) : Option (Value × List Char) := do
  let (whole, rest) ← readWhole text
  match rest with
  | '.' :: rest =>
    let (fraction, rest) ← readDigits Char.isDigit rest
    let (exponent, rest) ← readExponent rest
    if !isNegative && overflows (whole ++ fraction) (exponent - fraction.length) then none
    return (.fraction, rest)
  | char :: _ =>
    if char = 'e' || char = 'E' then
      let (exponent, rest) ← readExponent rest
      if !isNegative && overflows whole exponent then none
      return (.fraction, rest)
    return (← integer? isNegative (Text.number 10 whole), rest)
  | [] => return (← integer? isNegative (Text.number 10 whole), [])

def readNumber (text : List Char) : Option (Value × List Char) :=
  match text with
  | '0' :: 'x' :: rest => readInBase 16 rest
  | '0' :: 'o' :: rest => readInBase 8 rest
  | '0' :: 'b' :: rest => readInBase 2 rest
  | _ =>
    match readSign text with
    | (_, 'i' :: 'n' :: 'f' :: rest) => some (.fraction, rest)
    | (_, 'n' :: 'a' :: 'n' :: rest) => some (.fraction, rest)
    | (isNegative, rest) => readUnsigned isNegative rest

/-- Reads a number of exactly `size` digits within bounds. -/
def readField (size least most : Nat) (text : List Char) : Option (Nat × List Char) :=
  let digits := text.take size
  let value := Text.number 10 digits
  if digits.length = size ∧ digits.all Char.isDigit ∧ least ≤ value ∧ value ≤ most then
    some (value, text.drop size)
  else none

def skipChar? (char : Char) : List Char → Option (List Char)
  | first :: rest => if first = char then some rest else none
  | [] => none

def isLeapYear (year : Nat) : Bool :=
  year % 4 = 0 && (year % 100 ≠ 0 || year % 400 = 0)

def monthLength (year month : Nat) : Nat :=
  if month = 2 then if isLeapYear year then 29 else 28
  else if month ∈ [4, 6, 9, 11] then 30
  else 31

def skipDate? (text : List Char) : Option (List Char) := do
  let (year, rest) ← readField 4 0 9999 text
  let rest ← skipChar? '-' rest
  let (month, rest) ← readField 2 1 12 rest
  let rest ← skipChar? '-' rest
  let (_, rest) ← readField 2 1 (monthLength year month) rest
  return rest

/-- Skips hours and minutes. -/
def skipClock? (text : List Char) : Option (List Char) := do
  let (_, rest) ← readField 2 0 23 text
  let rest ← skipChar? ':' rest
  let (_, rest) ← readField 2 0 59 rest
  return rest

/-- Skips the fraction of a second, if there is one. -/
def skipSecondFraction : List Char → List Char
  | '.' :: char :: rest =>
    if char.isDigit then rest.dropWhile Char.isDigit else '.' :: char :: rest
  | text => text

def skipTime? (text : List Char) : Option (List Char) := do
  let rest ← skipClock? text
  let rest ← skipChar? ':' rest
  let (_, rest) ← readField 2 0 60 rest
  return skipSecondFraction rest

/-- Skips the offset of a time zone, if there is one. -/
def skipOffset : List Char → List Char
  | [] => []
  | char :: rest =>
    if char = 'Z' || char = 'z' then rest
    else if char = '+' || char = '-' then (skipClock? rest).getD (char :: rest)
    else char :: rest

/-- Skips a date, which a time may follow, or a time alone. -/
def skipMoment? (text : List Char) : Option (List Char) :=
  match skipDate? text with
  | none => skipTime? text
  | some [] => some []
  | some (char :: rest) =>
    if char = 'T' || char = 't' || char = ' ' then
      match skipTime? rest with
      | some rest => some (skipOffset rest)
      | none => some (char :: rest)
    else some (char :: rest)

end SeedVault.Toml
