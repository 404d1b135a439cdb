/-
Escapes: what a backslash and the characters behind it stand for.
-/

import SeedVault.Pattern.Basic
import SeedVault.Pattern.Cursor
import SeedVault.Text.Digit

namespace SeedVault.Pattern.Escape

/-- The character whose code point the digits spell. -/
def charOfDigits? (digits : List Char) : Option Char :=
  let code := Text.number 16 digits
  if code.isValidChar then some (Char.ofNat code) else none

/-- Reads hexadecimal digits, of which there must be as many as given. -/
def readDigits : (count : Nat) → Cursor → Except Fault (List Char × Cursor)
  | 0, cursor => .ok ([], cursor)
  | count + 1, cursor =>
    match cursor.rest with
    | [] => fail .escapeUnfinished cursor.point
    | digit :: _ =>
      if Text.isDigitIn 16 digit then do
        let (digits, cursor) ← readDigits count cursor.step
        return (digit :: digits, cursor)
      else fail .hexDigit cursor.charSpan

/-- Reads a code point of as many digits as given. -/
def readFixed (start : Place) (count : Nat) (cursor : Cursor) : Except Fault (Piece × Cursor) := do
  let (digits, stop) ← readDigits count cursor
  match charOfDigits? digits with
  | some char => return (⟨.char char (count = 2), stop.since start⟩, stop)
  | none => fail .hexNoCharacter (stop.since cursor.place)

/-- Reads a code point in braces. -/
def readBraced (start : Place) (brace : Cursor) : Except Fault (Piece × Cursor) :=
  let (digits, stop) := brace.step.takeWhile (Text.isDigitIn 16)
  let after := stop.step
  if stop.isAtEnd then fail .escapeUnfinished (stop.since brace.place)
  else if !stop.isAt '}' then fail .hexDigit stop.charSpan
  else if digits.isEmpty then fail .hexEmpty (after.since brace.place)
  else
    match charOfDigits? digits with
    | some char => .ok (⟨.char char false, after.since start⟩, after)
    | none => fail .hexNoCharacter (stop.since brace.next.place)

/-- Reads a code point behind the letter that announces it. -/
def readCodePoint (start : Place) (count : Nat) (letter : Cursor) :
    Except Fault (Piece × Cursor) :=
  let cursor := letter.step
  if cursor.isAtEnd then fail .escapeUnfinished cursor.point
  else if cursor.isAt '{' then readBraced start cursor
  else readFixed start count cursor

/-- Reads the name of a property behind the letter that announces it. A name without
braces is a single character. -/
def readProperty (start : Place) (letter : Cursor) : Except Fault (Piece × Cursor) :=
  let cursor := letter.step
  match cursor.rest with
  | [] => fail .escapeUnfinished cursor.point
  | '{' :: _ =>
    let (name, stop) := cursor.step.takeWhile (· ≠ '}')
    if stop.isAtEnd then fail .escapeUnfinished stop.point
    else .ok (⟨.property (String.ofList name), stop.next.since start⟩, stop.next)
  | char :: _ =>
    if char = '\\' then fail .propertyLetter cursor.charSpan
    else .ok (⟨.property char.toString, cursor.step.since start⟩, cursor.step)

def isBoundaryChar (char : Char) : Bool :=
  char.isAlpha || char = '-'

/-- The edges of words by their names. -/
def boundaryNames : List (String × WordEdge) :=
  [("start", .start), ("end", .stop), ("start-half", .startHalf), ("end-half", .stopHalf)]

/-- Reads an edge of words, with its name if it has one. A brace that is not followed by
a letter or a dash is left alone, since it may begin a count. -/
def readBoundary (start : Place) (cursor : Cursor) : Except Fault (Piece × Cursor) :=
  let plain : Except Fault (Piece × Cursor) :=
    .ok (⟨.wordEdge .any, cursor.since start⟩, cursor)
  if cursor.isAt '{' then
    let inside := cursor.step
    if inside.isAtEnd then fail .boundaryOrCountUnclosed (inside.since start)
    else
      let (name, stop) := inside.takeWhile isBoundaryChar
      if name.isEmpty then plain
      else if !stop.isAt '}' then fail .boundaryUnclosed (stop.since cursor.place)
      else
        match boundaryNames.lookup (String.ofList name) with
        | some edge => .ok (⟨.wordEdge edge, stop.next.since start⟩, stop.next)
        | none => fail .boundaryUnknown (stop.since inside.place)
  else plain

/-- The ASCII characters that mean themselves behind a backslash: all but letters, digits
and angle brackets. -/
def isEscapable (char : Char) : Bool :=
  char.toNat < 0x80 && !char.isAlphanum && char ≠ '<' && char ≠ '>'

/-- What single letters and angle brackets stand for. -/
def ofLetter? : Char → Option Atom
  | 'a' => some (.char '\x07' false)
  | 'f' => some (.char '\x0c' false)
  | 't' => some (.char '\t' false)
  | 'n' => some (.char '\n' false)
  | 'r' => some (.char '\r' false)
  | 'v' => some (.char '\x0b' false)
  | 'A' => some (.edge .textStart)
  | 'z' => some (.edge .textEnd)
  | 'B' => some (.wordEdge .none)
  | '<' => some (.wordEdge .start)
  | '>' => some (.wordEdge .stop)
  | 'd' => some (.kind .digit false)
  | 's' => some (.kind .space false)
  | 'w' => some (.kind .word false)
  | 'D' => some (.kind .digit true)
  | 'S' => some (.kind .space true)
  | 'W' => some (.kind .word true)
  | _ => none

/-- Reads an escape. -/
def read (backslash : Cursor) : Except Fault (Piece × Cursor) :=
  let start := backslash.place
  let cursor := backslash.next
  match cursor.rest with
  | [] => fail .escapeUnfinished (cursor.since start)
  | 'x' :: _ => readCodePoint start 2 cursor
  | 'u' :: _ => readCodePoint start 4 cursor
  | 'U' :: _ => readCodePoint start 8 cursor
  | 'p' :: _ => readProperty start cursor
  | 'P' :: _ => readProperty start cursor
  | 'b' :: _ => readBoundary start cursor.next
  | char :: _ =>
    let span := cursor.next.since start
    if char.isDigit then fail .backreference span
    else if isEscapable char then .ok (⟨.char char false, span⟩, cursor.next)
    else
      match ofLetter? char with
      | some atom => .ok (⟨atom, span⟩, cursor.next)
      | none => fail .escapeUnknown span

end SeedVault.Pattern.Escape
