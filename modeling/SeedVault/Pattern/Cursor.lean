/-
Going through a pattern character by character.
-/

import SeedVault.Pattern.Problem
import SeedVault.Text.Blank

namespace SeedVault.Pattern

/-- A place in a pattern with what follows it. In a spaced pattern blanks mean nothing,
and neither do comments, which begin with a number sign and end with the line. -/
structure Cursor where
  place : Place
  rest : List Char
  isSpaced : Bool

namespace Cursor

def ofPattern (pattern : List Char) : Cursor :=
  ⟨.first, pattern, false⟩

/-- Goes on by a character. -/
def next (cursor : Cursor) : Cursor :=
  match cursor.rest with
  | [] => cursor
  | char :: rest => { cursor with place := cursor.place.after char, rest }

def skipFrom (inComment : Bool) (place : Place) : List Char → Place × List Char
  | [] => (place, [])
  | char :: rest =>
    if inComment then skipFrom (char ≠ '\n') (place.after char) rest
    else if Text.isBlank char then skipFrom false (place.after char) rest
    else if char = '#' then skipFrom true (place.after char) rest
    else (place, char :: rest)

/-- Goes on to what means something. -/
def skip (cursor : Cursor) : Cursor :=
  if cursor.isSpaced then
    { cursor with
      place := (skipFrom false cursor.place cursor.rest).1
      rest := (skipFrom false cursor.place cursor.rest).2 }
  else cursor

/-- Goes on by a character, and to what means something. -/
def step (cursor : Cursor) : Cursor :=
  cursor.next.skip

theorem length_next_lt (cursor : Cursor) (notAtEnd : cursor.rest ≠ []) :
    cursor.next.rest.length < cursor.rest.length := by
  unfold next
  split
  · contradiction
  · rename_i equation
    simp [equation]

theorem length_skipFrom_le (inComment : Bool) (place : Place) (rest : List Char) :
    (skipFrom inComment place rest).2.length ≤ rest.length := by
  induction rest generalizing inComment place with
  | nil => simp [skipFrom]
  | cons char rest inductionHypothesis =>
    simp only [skipFrom, List.length_cons]
    split
    · exact Nat.le_succ_of_le (inductionHypothesis _ _)
    · split
      · exact Nat.le_succ_of_le (inductionHypothesis _ _)
      · split
        · exact Nat.le_succ_of_le (inductionHypothesis _ _)
        · simp

theorem length_skip_le (cursor : Cursor) : cursor.skip.rest.length ≤ cursor.rest.length := by
  unfold skip
  split
  · exact length_skipFrom_le _ _ _
  · exact Nat.le_refl _

theorem length_step_lt (cursor : Cursor) (notAtEnd : cursor.rest ≠ []) :
    cursor.step.rest.length < cursor.rest.length :=
  Nat.lt_of_le_of_lt (length_skip_le cursor.next) (length_next_lt cursor notAtEnd)

def isAtEnd (cursor : Cursor) : Bool :=
  cursor.rest.isEmpty

/-- Whether the given character stands here. -/
def isAt (char : Char) (cursor : Cursor) : Bool :=
  cursor.rest.head? = some char

/-- The empty span here. -/
def point (cursor : Cursor) : Span :=
  .point cursor.place

/-- The span of the character that stands here. -/
def charSpan (cursor : Cursor) : Span :=
  ⟨cursor.place, cursor.next.place⟩

/-- The span from a place before this one. -/
def since (start : Place) (cursor : Cursor) : Span :=
  ⟨start, cursor.place⟩

/-- Goes on past a text, if it stands here. -/
def pass? (text : String) (cursor : Cursor) : Option Cursor :=
  if text.toList.isPrefixOf cursor.rest then some (Nat.repeat next text.length cursor) else none

/-- The characters of a kind that follow each other here, and where they end. -/
def takeWhile (isTaken : Char → Bool) (cursor : Cursor) : List Char × Cursor :=
  match _notAtEnd : cursor.rest with
  | [] => ([], cursor)
  | char :: _ =>
    if isTaken char then
      let (taken, stop) := takeWhile isTaken cursor.step
      (char :: taken, stop)
    else ([], cursor)
termination_by cursor.rest.length
decreasing_by exact length_step_lt cursor (by simp [*])

/-- The character behind the one that stands here. In a spaced pattern blanks before it
are passed over, and so is the sign that begins a comment, but not the comment; if
nothing else follows, it is the very next character. -/
def peek? (cursor : Cursor) : Option Char :=
  let following := cursor.rest.drop 1
  if cursor.isSpaced then
    match following.dropWhile Text.isBlank with
    | '#' :: comment => (comment.dropWhile Text.isBlank).head?.or following.head?
    | [] => following.head?
    | char :: _ => some char
  else following.head?

end Cursor

end SeedVault.Pattern
