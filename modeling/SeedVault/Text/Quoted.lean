/-
Quoted characters and texts, as error messages show them.
-/

import SeedVault.Text.Invisible

namespace SeedVault.Text

/-- The digits of a code point, without leading zeros. -/
def hexNumber (number : Nat) : String :=
  String.ofList (Nat.toDigits 16 number)

/-- How a character stands between two `quote` characters. -/
def escape (quote char : Char) : String :=
  if char = '\x00' then "\\0"
  else if char = '\t' then "\\t"
  else if char = '\r' then "\\r"
  else if char = '\n' then "\\n"
  else if char = '\\' || char = quote then String.ofList ['\\', char]
  else if isInvisible char then "\\u\x7b" ++ hexNumber char.toNat ++ "\x7d"
  else char.toString

def quoteChar (char : Char) : String :=
  "'" ++ escape '\'' char ++ "'"

def quoteText (text : String) : String :=
  "\"" ++ String.join (text.toList.map (escape '"')) ++ "\""

end SeedVault.Text
