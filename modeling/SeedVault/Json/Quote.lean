/-
Writing a text between quotation marks. Only quotation marks, backslashes and
control characters need an escape, which is a letter where there is one.
-/

import SeedVault.Hex

namespace SeedVault.Json

/-- The letter that stands for a character in an escape. -/
def escapeLetter? : Char → Option Char
  | '"' => some '"'
  | '\\' => some '\\'
  | '\x08' => some 'b'
  | '\x0c' => some 'f'
  | '\n' => some 'n'
  | '\r' => some 'r'
  | '\t' => some 't'
  | _ => none

/-- A character as it is written between quotation marks. -/
def escape (char : Char) : List Char :=
  match escapeLetter? char with
  | some letter => ['\\', letter]
  | none =>
    if char.toNat < 0x20 then ['\\', 'u', '0', '0'] ++ Hex.encodeByte (UInt8.ofNat char.toNat)
    else [char]

def quote (text : String) : String :=
  "\"" ++ String.ofList (text.toList.flatMap escape) ++ "\""

end SeedVault.Json
