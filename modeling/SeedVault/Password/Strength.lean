/-
A rough estimate of how hard a password is to guess.
-/

import SeedVault.Decimal.Binary
import SeedVault.Text.LowerCase

namespace SeedVault.Password

inductive Strength
  | weak
  | fair
  | strong
deriving DecidableEq

def Strength.label : Strength → String
  | weak => "weak"
  | fair => "fair"
  | strong => "strong"

/-- What makes a password easier to guess. -/
inductive Warning
  | empty
  | commonWord
  | repetition
  | sequences
  | short
deriving DecidableEq

def Warning.message : Warning → String
  | empty => "Password is empty"
  | commonWord => "Contains a commonly guessed word"
  | repetition => "Too many repeated characters"
  | sequences => "Contains sequences like abc or 321"
  | short => "12 or more characters are recommended"

/-- An estimate of a password. -/
structure Analysis where
  bits : Float
  strength : Strength
  warnings : List Warning

/-- The bits with six decimal places. -/
def Analysis.bitsText (analysis : Analysis) : String :=
  Decimal.fixed 6 (.ofFloat analysis.bits)

/-- Words that are tried first by anyone who guesses. -/
def commonWords : List String :=
  [ "password", "123456", "qwerty", "letmein", "iloveyou", "admin", "welcome", "monkey",
    "dragon", "aegen", "kadena", "wallet", "crypto", "bitcoin", "seed", "secret" ]

def isPunctuation (char : Char) : Bool :=
  let code := char.toNat
  (33 ≤ code && code ≤ 47) || (58 ≤ code && code ≤ 64) || (91 ≤ code && code ≤ 96) ||
    (123 ≤ code && code ≤ 126)

/-- The kinds of characters, each with the number of characters of that kind. -/
def classes : List ((Char → Bool) × Nat) :=
  [ (Char.isLower, 26), (Char.isUpper, 26), (Char.isDigit, 10),
    (fun char => isPunctuation char || char == ' ', 33),
    (fun char => 128 ≤ char.toNat, 100) ]

/-- How many characters the password seems to be chosen from. -/
def poolSize (password : List Char) : Nat :=
  (classes.map fun (isMember, size) => if password.any isMember then size else 0).foldl
    (· + ·) 0

/-- Whether the code points rise by one, or fall by one, twice in a row. -/
def isRun (first second third : Char) : Bool :=
  (second.toNat == first.toNat + 1 && third.toNat == second.toNat + 1) ||
    (first.toNat == second.toNat + 1 && second.toNat == third.toNat + 1)

/-- The number of runs of three adjacent characters. -/
def countRuns : List Char → Nat
  | first :: second :: third :: rest =>
    (if isRun first second third then 1 else 0) + countRuns (second :: third :: rest)
  | _ => 0

def occursIn (word : List Char) : List Char → Bool
  | [] => word.isEmpty
  | char :: rest => word.isPrefixOf (char :: rest) || occursIn word rest

def hasCommonWord (password : String) : Bool :=
  commonWords.any fun word => occursIn word.toList (Text.lower password).toList

/-- Whether fewer than half of the characters are different. -/
def isRepetitive (password : List Char) : Bool :=
  2 * password.eraseDups.length < password.length

def Strength.ofBits (bits : Float) : Strength :=
  if bits < 40 then weak else if bits < 64 then fair else strong

/-- The bits of a password chosen freely from its pool, less what a common
word, repetition and runs take away. -/
def analyse (password : String) : Analysis :=
  let chars := password.toList
  if chars.isEmpty then ⟨0, .weak, [.empty]⟩
  else
    let runs := countRuns chars
    let free := chars.length.toFloat * (max (poolSize chars) 1).toFloat.log2
    let uncommon := if hasCommonWord password then free * 0.5 else free
    let varied := if isRepetitive chars then uncommon * 0.6 else uncommon
    let reduced := if 1 < runs then varied - runs.toFloat * 3 else varied
    let bits := if reduced < 0 then 0 else reduced
    let warnings :=
      (if hasCommonWord password then [Warning.commonWord] else []) ++
      (if isRepetitive chars then [Warning.repetition] else []) ++
      (if 1 < runs then [Warning.sequences] else []) ++
      (if chars.length < 12 then [Warning.short] else [])
    ⟨bits, .ofBits bits, warnings⟩

end SeedVault.Password
