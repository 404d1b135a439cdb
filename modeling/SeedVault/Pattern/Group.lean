/-
The openings of groups: names, flags, and what is not allowed there.
-/

import SeedVault.Pattern.Basic
import SeedVault.Pattern.Cursor
import SeedVault.Text.Letter

namespace SeedVault.Pattern

def Flag.ofLetter? : Char → Option Flag
  | 'i' => some .ignoreCase
  | 'm' => some .multiLine
  | 's' => some .dotMatchesAll
  | 'U' => some .swapGreed
  | 'u' => some .unicode
  | 'R' => some .carriageReturns
  | 'x' => some .spaced
  | _ => none

def FlagItem.ofChar? (char : Char) : Option FlagItem :=
  if char = '-' then some .negation else (Flag.ofLetter? char).map .flag

/-- The problem of having an item twice. -/
def FlagItem.repeatedProblem : FlagItem → Problem
  | .flag _ => .flagTwice
  | .negation => .negationTwice

namespace Group

/-- Whether a name may begin with a character. -/
def isNameStart (char : Char) : Bool :=
  char = '_' || Text.isAlphabetic char

/-- Whether a character may stand in a name. -/
def isNameChar (char : Char) : Bool :=
  char ∈ ['_', '.', '[', ']'] || Text.isAlphabetic char || Text.isNumeric char

/-- Reads flags up to a colon or a closing parenthesis. The items before are given with
their places, the last one first. -/
def readFlags (found : List (FlagItem × Span)) (cursor : Cursor) :
    Except Fault (List FlagItem × Cursor) :=
  match _notAtEnd : cursor.rest with
  | [] => fail .flagUnfinished cursor.point
  | char :: _ =>
    if char = ':' ∨ char = ')' then
      match found with
      | (.negation, span) :: _ => fail .negationOfNothing span
      | _ => .ok (found.reverse.map Prod.fst, cursor)
    else
      match FlagItem.ofChar? char with
      | none => fail .flagUnknown cursor.charSpan
      | some item =>
        match found.lookup item with
        | some earlier => .error ⟨item.repeatedProblem, cursor.charSpan, some earlier⟩
        | none => readFlags ((item, cursor.charSpan) :: found) cursor.next
termination_by cursor.rest.length
decreasing_by exact Cursor.length_next_lt cursor (by simp [*])

/-- The names of groups, with their places. -/
abbrev Names := List (String × Span)

/-- Reads a name, and the angle bracket behind it. -/
def readName (names : Names) (cursor : Cursor) : Except Fault (Names × Cursor) :=
  let letters := cursor.rest.takeWhile isNameChar
  let name := String.ofList letters
  let stop := Nat.repeat Cursor.next letters.length cursor
  let span := stop.since cursor.place
  match cursor.rest with
  | [] => fail .nameUnclosed cursor.point
  | char :: _ =>
    if char = '>' then fail .nameEmpty cursor.point
    else if !isNameStart char then fail .nameCharacter cursor.charSpan
    else if stop.isAtEnd then fail .nameUnclosed stop.point
    else if !stop.isAt '>' then fail .nameCharacter stop.charSpan
    else
      match names.lookup name with
      | some earlier => .error ⟨.nameTwice, span, some earlier⟩
      | none => .ok ((name, span) :: names, stop.next)

/-- What an opening parenthesis begins. -/
inductive Opening
  /-- Flags for the rest of the group around. -/
  | setting (items : List FlagItem)
  /-- A group, with flags and with the names of groups so far. -/
  | group (isCapturing : Bool) (items : List FlagItem) (names : Names)

/-- Reads flags, and what shows whether they have a group of their own. -/
def readSetting (names : Names) (parenthesis : Span) (mark : Cursor) :
    Except Fault (Opening × Cursor) := do
  if mark.next.isAtEnd then fail .groupUnclosed parenthesis
  else
    let (items, stop) ← readFlags [] mark.next
    if stop.isAt ':' then return (.group false items names, stop.next)
    else if items.isEmpty then fail .nothingToRepeat mark.point
    else return (.setting items, stop.next)

/-- Reads the opening of a group. -/
def read (names : Names) (cursor : Cursor) : Except Fault (Opening × Cursor) := do
  let inside := cursor.step
  match ["?=", "?!", "?<=", "?<!"].findSome? inside.pass? with
  | some stop => fail .lookAround (stop.since cursor.place)
  | none =>
    match (inside.pass? "?P<").or (inside.pass? "?<") with
    | some start =>
      let (names, stop) ← readName names start
      return (.group true [] names, stop)
    | none =>
      if inside.isAt '?' then readSetting names cursor.charSpan inside
      else return (.group true [] names, inside)

end Group

end SeedVault.Pattern
