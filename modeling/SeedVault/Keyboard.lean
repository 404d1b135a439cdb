/-
Typing a line that is not shown. The keys that edit the line take effect while it is
typed, and of all other control characters and escape sequences nothing is left.
-/

import SeedVault.Text.Blank

namespace SeedVault

/-- What a character that is typed asks for. -/
inductive Keystroke
  | letter (char : Char)
  | enter
  | erase
  | eraseWord
  | eraseLine
  /-- To end the input, unless something has been typed. -/
  | close
  | interrupt
  | escape
  | idle
deriving DecidableEq

def Keystroke.ofChar (char : Char) : Keystroke :=
  if char = '\n' || char = '\r' then .enter
  else if char = '\x08' || char = '\x7f' then .erase
  else if char = '\x17' then .eraseWord
  else if char = '\x15' then .eraseLine
  else if char = '\x04' then .close
  else if char = '\x03' then .interrupt
  else if char = '\x1b' then .escape
  else if char < ' ' || ('\x7f' < char && char < '\xa0') then .idle
  else .letter char

/-- Where the next character stands: alone, after an escape, or inside a sequence that an
escape has begun. -/
inductive Sequence
  | alone
  | begun
  | inside
deriving DecidableEq

/-- A line that is being typed. -/
structure Draft where
  /-- The characters of the line, the last one first. -/
  typed : List Char
  /-- How many characters the screen is taken to show. -/
  shown : Nat
  /-- How many characters have been wiped from the screen. -/
  wiped : Nat
  sequence : Sequence
  shown_le_length : shown ≤ typed.length
deriving DecidableEq

namespace Draft

def empty : Draft :=
  ⟨[], 0, 0, .alone, Nat.le_refl 0⟩

/-- A letter is not shown. -/
def add (char : Char) (draft : Draft) : Draft :=
  { draft with
    typed := char :: draft.typed
    shown_le_length := Nat.le_succ_of_le draft.shown_le_length }

/-- Erases the last character, and wipes one if any is taken to be shown. -/
def erase (draft : Draft) : Draft :=
  { draft with
    typed := draft.typed.tail
    shown := draft.shown - 1
    wiped := draft.wiped + min draft.shown 1
    shown_le_length := by
      rw [List.length_tail]
      exact Nat.sub_le_sub_right draft.shown_le_length 1 }

def eraseLine (draft : Draft) : Draft :=
  { draft with
    typed := []
    shown := 0
    wiped := draft.wiped + draft.shown
    shown_le_length := Nat.le_refl 0 }

/-- The characters before the last word and all white space after it. A word begins
after a space; white space of another kind within it belongs to it. -/
def withoutWord (typed : List Char) : List Char :=
  (typed.dropWhile Text.isBlank).dropWhile fun char => char != ' '

/-- Erases the last word and the white space after it, and wipes as many characters, but
no more than are taken to be shown. What is left is from then on taken to be shown. -/
def eraseWord (draft : Draft) : Draft :=
  let typed := withoutWord draft.typed
  { draft with
    typed
    shown := typed.length
    wiped := draft.wiped + min draft.shown (draft.typed.length - typed.length)
    shown_le_length := Nat.le_refl _ }

def text (draft : Draft) : String :=
  String.ofList draft.typed.reverse

/-- How characters are wiped from the screen: each is overwritten by a space. -/
def trace (draft : Draft) : String :=
  String.join (List.replicate draft.wiped "\x08 \x08")

end Draft

/-- Where a character leads. -/
inductive Typing
  | goesOn (draft : Draft)
  | ends (draft : Draft)
  | fails (draft : Draft)
deriving DecidableEq

namespace Draft

def press (draft : Draft) : Keystroke → Typing
  | .letter char => .goesOn (draft.add char)
  | .enter => .ends draft
  | .erase => .goesOn draft.erase
  | .eraseWord => .goesOn draft.eraseWord
  | .eraseLine => .goesOn draft.eraseLine
  | .close => if draft.typed.isEmpty then .fails draft else .goesOn draft
  | .interrupt => .fails draft
  | .escape => .goesOn { draft with sequence := .begun }
  | .idle => .goesOn draft

/-- Takes the next character. An escape takes the character after it along; a bracket or
an `O` there begins a sequence that ends with the next character from `@` to `~`. -/
def take (draft : Draft) (char : Char) : Typing :=
  match draft.sequence with
  | .alone => draft.press (.ofChar char)
  | .begun =>
    .goesOn { draft with sequence := if char = '[' || char = 'O' then .inside else .alone }
  | .inside =>
    .goesOn { draft with sequence := if '@' ≤ char && char ≤ '~' then .alone else .inside }

/-- Takes characters until the line is ended or fails. Those after it are left. -/
def takeAll (draft : Draft) : List Char → Typing × List Char
  | [] => (.goesOn draft, [])
  | char :: rest =>
    match draft.take char with
    | .goesOn draft => draft.takeAll rest
    | typing => (typing, rest)

end Draft

namespace Typing

/-- The line, if it was ended. -/
def text? : Typing → Option String
  | ends draft => some draft.text
  | _ => none

/-- What is seen on the screen: the line itself is not, but its end is. -/
def trace : Typing → String
  | ends draft => draft.trace ++ "\n"
  | goesOn draft => draft.trace
  | fails draft => draft.trace

end Typing

/-- Where secrets are typed. -/
inductive Keyboard
  /-- In the input, like all else. -/
  | shared
  /-- Nowhere: the machine has no keyboard. -/
  | missing
  /-- At a keyboard, with the characters that will be typed and what was shown so far. -/
  | separate (typed : List Char) (shown : String)
deriving DecidableEq

namespace Keyboard

/-- Shows a prompt and reads the next secret. -/
def read (prompt : String) : Keyboard → Option String × Keyboard
  | .separate typed shown =>
    let (typing, rest) := Draft.empty.takeAll typed
    (typing.text?, .separate rest (shown ++ prompt ++ typing.trace))
  | keyboard => (none, keyboard)

end Keyboard

end SeedVault
