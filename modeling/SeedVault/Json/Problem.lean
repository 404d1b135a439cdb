/-
What may be wrong with a JSON text.
-/

import SeedVault.Text.Quoted

namespace SeedVault.Json

/-- A value that stands where another kind of value is due. -/
inductive Found
  | null
  | boolean (value : Bool)
  | integer (value : Int)
  | fraction (digits : String)
  | text (value : String)
  | list
  | object
deriving DecidableEq

def Found.described : Found → String
  | null => "null"
  | boolean value => s!"boolean `{value}`"
  | integer value => s!"integer `{value}`"
  | fraction digits => s!"floating point `{digits}`"
  | text value => s!"string {Text.quoteText value}"
  | list => "sequence"
  | object => "map"

/-- What the first problem of a text is, named by what ends too early, what is due,
or what is wrong. -/
inductive Problem
  | endOfValue
  | endOfList
  | endOfObject
  | endOfText
  | valueDue
  | literalDue
  | colonDue
  | listEndDue
  | objectEndDue
  | keyDue
  | trailingComma
  | trailingCharacters
  | badNumber
  | numberTooLarge
  | controlCharacter
  | badEscape
  | unpairedSurrogate
  | loneSurrogate
  | wrongType (found : Found) (expected : String)
  | wrongLength (found : Nat) (expected : String)
  | missingField (name : String)
  | duplicateField (name : String)
deriving DecidableEq

namespace Problem

def message : Problem → String
  | endOfValue => "EOF while parsing a value"
  | endOfList => "EOF while parsing a list"
  | endOfObject => "EOF while parsing an object"
  | endOfText => "EOF while parsing a string"
  | valueDue => "expected value"
  | literalDue => "expected ident"
  | colonDue => "expected `:`"
  | listEndDue => "expected `,` or `]`"
  | objectEndDue => "expected `,` or `\x7d`"
  | keyDue => "key must be a string"
  | trailingComma => "trailing comma"
  | trailingCharacters => "trailing characters"
  | badNumber => "invalid number"
  | numberTooLarge => "number out of range"
  | controlCharacter => "control character (\\u0000-\\u001F) found while parsing a string"
  | badEscape => "invalid escape"
  | unpairedSurrogate => "unexpected end of hex escape"
  | loneSurrogate => "lone leading surrogate in hex escape"
  | wrongType found expected => s!"invalid type: {found.described}, expected {expected}"
  | wrongLength found expected => s!"invalid length {found}, expected {expected}"
  | missingField name => s!"missing field `{name}`"
  | duplicateField name => s!"duplicate field `{name}`"

/-- Whether the text ended too early. -/
def isEndOfInput : Problem → Bool
  | endOfValue | endOfList | endOfObject | endOfText => true
  | _ => false

end Problem

/-- What reading a part of a text gives: a value and the rest of the text. -/
abbrev Reading (α : Type) := Except Problem (α × List Char)

/-- White space between tokens. -/
def isBlank (char : Char) : Bool :=
  char == ' ' || char == '\t' || char == '\n' || char == '\r'

def skipBlank (text : List Char) : List Char :=
  text.dropWhile isBlank

theorem length_skipBlank_le (text : List Char) : (skipBlank text).length ≤ text.length :=
  (List.dropWhile_sublist isBlank).length_le

/-- Only white space may be left. -/
def atEnd (text : List Char) : Except Problem Unit :=
  if (skipBlank text).isEmpty then .ok () else .error .trailingCharacters

/-- Reads the rest of a literal such as `null`. -/
def literal : (letters : List Char) → List Char → Except Problem (List Char)
  | [], text => .ok text
  | _ :: _, [] => .error .endOfValue
  | letter :: letters, char :: text =>
    if char = letter then literal letters text else .error .literalDue

theorem length_literal_le {letters text rest : List Char} (read : literal letters text = .ok rest) :
    rest.length ≤ text.length := by
  induction letters generalizing text with
  | nil => simp_all [literal]
  | cons letter letters ih =>
    cases text with
    | nil => simp [literal] at read
    | cons char text =>
      simp only [literal] at read
      split at read
      · have := ih read
        simp only [List.length_cons]
        omega
      · simp at read

end SeedVault.Json
