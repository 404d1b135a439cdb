/-
Texts between quotation marks, with escapes.
-/

import SeedVault.Json.Problem
import SeedVault.Text.Digit

namespace SeedVault.Json

/-- One piece of a quoted text. -/
inductive Piece
  | close
  | char (value : Char)
  /-- A UTF-16 unit given by its number. -/
  | unit (value : Nat)

/-- Four digits. If less than four bytes are left, the text ends too early
whatever they are. -/
def readUnit : List Char → Reading Nat
  | a :: b :: c :: d :: rest =>
    match Text.hexDigit? a, Text.hexDigit? b, Text.hexDigit? c, Text.hexDigit? d with
    | some a, some b, some c, some d => .ok (((a * 16 + b) * 16 + c) * 16 + d, rest)
    | _, _, _, _ => .error .badEscape
  | text => .error (if (String.ofList text).utf8ByteSize < 4 then .endOfText else .badEscape)

/-- The character that a one-letter escape stands for. -/
def escaped? : Char → Option Char
  | '"' => some '"'
  | '\\' => some '\\'
  | '/' => some '/'
  | 'b' => some '\x08'
  | 'f' => some '\x0c'
  | 'n' => some '\n'
  | 'r' => some '\r'
  | 't' => some '\t'
  | _ => none

def readPiece : List Char → Reading Piece
  | [] => .error .endOfText
  | '"' :: rest => .ok (.close, rest)
  | '\\' :: [] => .error .endOfText
  | '\\' :: 'u' :: rest =>
    match readUnit rest with
    | .ok (value, rest) => .ok (.unit value, rest)
    | .error problem => .error problem
  | '\\' :: letter :: rest =>
    match escaped? letter with
    | some char => .ok (.char char, rest)
    | none => .error .badEscape
  | char :: rest => if char.toNat < 0x20 then .error .controlCharacter else .ok (.char char, rest)

theorem length_lt_of_readUnit {text rest : List Char} {value : Nat}
    (read : readUnit text = .ok (value, rest)) : rest.length < text.length := by
  unfold readUnit at read
  split at read
  · split at read
    · simp only [Except.ok.injEq, Prod.mk.injEq] at read
      simp only [← read.2, List.length_cons]
      omega
    · simp at read
  · simp at read

theorem length_lt_of_readPiece {text rest : List Char} {piece : Piece}
    (read : readPiece text = .ok (piece, rest)) : rest.length < text.length := by
  unfold readPiece at read
  split at read
  · simp at read
  · simp_all
  · simp at read
  · split at read
    · rename_i unitRead
      have := length_lt_of_readUnit unitRead
      simp only [Except.ok.injEq, Prod.mk.injEq] at read
      simp only [← read.2, List.length_cons]
      omega
    · simp at read
  · split at read
    · simp only [Except.ok.injEq, Prod.mk.injEq] at read
      simp only [← read.2, List.length_cons]
      omega
    · simp at read
  · split at read
    · simp at read
    · simp_all

def isHighSurrogate (unit : Nat) : Bool := 0xd800 ≤ unit && unit < 0xdc00

def isLowSurrogate (unit : Nat) : Bool := 0xdc00 ≤ unit && unit < 0xe000

/-- The second half of a character that takes two units. -/
def readLowSurrogate (high : Nat) : List Char → Reading Char
  | [] => .error .endOfText
  | ['\\'] => .error .endOfText
  | '\\' :: 'u' :: rest =>
    match readUnit rest with
    | .error problem => .error problem
    | .ok (low, rest) =>
      if isLowSurrogate low then
        .ok (Char.ofNat (0x10000 + (high - 0xd800) * 0x400 + (low - 0xdc00)), rest)
      else .error .loneSurrogate
  | _ => .error .unpairedSurrogate

theorem length_lt_of_readLowSurrogate {high : Nat} {text rest : List Char} {char : Char}
    (read : readLowSurrogate high text = .ok (char, rest)) : rest.length < text.length := by
  unfold readLowSurrogate at read
  split at read
  · simp at read
  · simp at read
  · split at read
    · simp at read
    · rename_i unitRead
      have := length_lt_of_readUnit unitRead
      split at read
      · simp only [Except.ok.injEq, Prod.mk.injEq] at read
        simp only [← read.2, List.length_cons]
        omega
      · simp at read
  · simp at read

/-- The character of a unit, together with the unit after it if it takes two. -/
def readUnitChar (unit : Nat) (text : List Char) : Reading Char :=
  if isLowSurrogate unit then .error .loneSurrogate
  else if isHighSurrogate unit then readLowSurrogate unit text
  else .ok (Char.ofNat unit, text)

theorem length_le_of_readUnitChar {unit : Nat} {text rest : List Char} {char : Char}
    (read : readUnitChar unit text = .ok (char, rest)) : rest.length ≤ text.length := by
  unfold readUnitChar at read
  split at read
  · simp at read
  · split at read
    · exact Nat.le_of_lt (length_lt_of_readLowSurrogate read)
    · simp_all

/-- The characters up to the closing mark, after those that were read before,
which are given in reverse. -/
def readChars (before text : List Char) : Reading (List Char) :=
  match _pieceRead : readPiece text with
  | .error problem => .error problem
  | .ok (.close, rest) => .ok (before.reverse, rest)
  | .ok (.char char, rest) => readChars (char :: before) rest
  | .ok (.unit unit, rest) =>
    match _charRead : readUnitChar unit rest with
    | .error problem => .error problem
    | .ok (char, rest) => readChars (char :: before) rest
termination_by text.length
decreasing_by
  · exact length_lt_of_readPiece _pieceRead
  · have := length_lt_of_readPiece _pieceRead
    have := length_le_of_readUnitChar _charRead
    omega

/-- The text up to the closing mark. -/
def readText (text : List Char) : Reading String :=
  match readChars [] text with
  | .ok (chars, rest) => .ok (String.ofList chars, rest)
  | .error problem => .error problem

/-- What follows the closing mark; of escapes only the form is looked at. -/
def skipText (text : List Char) : Except Problem (List Char) :=
  match _pieceRead : readPiece text with
  | .error problem => .error problem
  | .ok (.close, rest) => .ok rest
  | .ok (.char _, rest) => skipText rest
  | .ok (.unit _, rest) => skipText rest
termination_by text.length
decreasing_by all_goals exact length_lt_of_readPiece _pieceRead

theorem length_lt_of_readChars {before text chars rest : List Char}
    (read : readChars before text = .ok (chars, rest)) : rest.length < text.length := by
  fun_induction readChars before text with
  | case1 => simp at read
  | case2 => rename_i pieceRead; have := length_lt_of_readPiece pieceRead; simp_all
  | case3 before text char rest' pieceRead ih =>
    have := length_lt_of_readPiece pieceRead
    have := ih read
    omega
  | case4 => simp at read
  | case5 before text unit rest' pieceRead char rest'' charRead ih =>
    have := length_lt_of_readPiece pieceRead
    have := length_le_of_readUnitChar charRead
    have := ih read
    omega

theorem length_lt_of_readText {text rest : List Char} {value : String}
    (read : readText text = .ok (value, rest)) : rest.length < text.length := by
  unfold readText at read
  split at read
  · rename_i charsRead
    have := length_lt_of_readChars charsRead
    simp_all
  · simp at read

theorem length_lt_of_skipText {text rest : List Char} (read : skipText text = .ok rest) :
    rest.length < text.length := by
  fun_induction skipText text with
  | case1 => simp at read
  | case2 => rename_i pieceRead; have := length_lt_of_readPiece pieceRead; simp_all
  | case3 text char rest' pieceRead ih =>
    have := length_lt_of_readPiece pieceRead
    have := ih read
    omega
  | case4 text unit rest' pieceRead ih =>
    have := length_lt_of_readPiece pieceRead
    have := ih read
    omega

end SeedVault.Json
