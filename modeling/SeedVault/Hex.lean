/-
Bytes as hexadecimal digits. Writing uses lower case; reading takes either case
and reports the first byte of the text that is not a digit.
-/

import SeedVault.Bytes
import SeedVault.Text.Quoted
import SeedVault.Text.Utf8

namespace SeedVault.Hex

def digit (value : UInt8) : Char :=
  Char.ofUInt8 (if value < 10 then 48 + value else 87 + value)

def encodeByte (byte : UInt8) : List Char :=
  [digit (byte >>> 4), digit (byte &&& 15)]

def encode (bytes : List UInt8) : String :=
  String.ofList (bytes.flatMap encodeByte)

/-- The value of the digit with the given code. -/
def value? (code : UInt8) : Option UInt8 :=
  if 48 ≤ code ∧ code ≤ 57 then some (code - 48)
  else if 97 ≤ code ∧ code ≤ 102 then some (code - 87)
  else if 65 ≤ code ∧ code ≤ 70 then some (code - 55)
  else none

def isDigit (code : UInt8) : Bool :=
  (value? code).isSome

def value (code : UInt8) : UInt8 :=
  (value? code).getD 0

/-- The bytes that pairs of digits denote. -/
def decodeDigits : List UInt8 → List UInt8
  | high :: low :: rest => (value high <<< 4 ||| value low) :: decodeDigits rest
  | _ => []

/-- Why a text is not the digits of a byte string of a given length. -/
inductive Fault
  | length (found : Nat)
  | digit (code : UInt8) (position : Nat)
deriving DecidableEq

namespace Fault

/-- The bad digit is shown as the character that its byte is the code of. -/
def detail : Fault → String
  | length _ => "Invalid string length"
  | digit code position =>
    s!"Invalid character {Text.quoteChar (Char.ofUInt8 code)} at position {position}"

end Fault

/-- Reads exactly `size` bytes. The length is counted in bytes of the text, and
it is looked at first. -/
def decode (size : Nat) (text : String) : Except Fault (Bytes size) :=
  let codes := Text.utf8 text
  if codes.length ≠ 2 * size then .error (.length codes.length)
  else
    match codes.findIdx? (fun code => !isDigit code) with
    | some position => .error (.digit (codes.getD position 0) position)
    | none =>
      .ok (Vector.ofFn fun index =>
        value (codes.getD (2 * index.val) 0) <<< 4 ||| value (codes.getD (2 * index.val + 1) 0))

end SeedVault.Hex
