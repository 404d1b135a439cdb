/-
Bracketed classes. They may be nested, and combined by operators of two equal signs, which
are taken from left to right.
-/

import SeedVault.Pattern.Escape

namespace SeedVault.Pattern

/-- A bracket that is open: where it starts, its opening as a whole, what stands before
the last operator, and the members behind it, the last one first. -/
structure OpenBracket where
  start : Place
  opening : Span
  isNegated : Bool
  left : Option (Members × Operator)
  place : Place
  parts : List Members

namespace OpenBracket

def add (bracket : OpenBracket) (part : Members) : OpenBracket :=
  { bracket with parts := part :: bracket.parts }

/-- The members behind the last operator. -/
def right (bracket : OpenBracket) : Members :=
  match bracket.parts with
  | [] => .none (.point bracket.place)
  | [part] => part
  | last :: others => .all bracket.parts.reverse ((others.getLastD last).span.through last.span)

/-- The members up to here. -/
def members (bracket : OpenBracket) : Members :=
  match bracket.left with
  | none => bracket.right
  | some (left, operator) =>
    .operation operator left bracket.right (left.span.through bracket.right.span)

/-- Goes on behind an operator. -/
def operate (bracket : OpenBracket) (operator : Operator) (place : Place) : OpenBracket :=
  { bracket with left := some (bracket.members, operator), place, parts := [] }

/-- The dashes that stand here, each as a member, in front of those before. -/
def takeDashes (dashes : List Members) (cursor : Cursor) : List Members × Cursor :=
  match _notAtEnd : cursor.rest with
  | '-' :: _ => takeDashes (.one ⟨.char '-' false, cursor.charSpan⟩ :: dashes) cursor.step
  | _ => (dashes, cursor)
termination_by cursor.rest.length
decreasing_by exact Cursor.length_step_lt cursor (by simp [*])

/-- Refuses a bracket that ends with the pattern. -/
def notAtEnd (span : Span) (cursor : Cursor) : Except Fault Unit :=
  if cursor.isAtEnd then fail .classUnclosed span else .ok ()

/-- Reads the opening of a bracket: its sign of negation, and dashes or a closing bracket,
which are members if they come first. -/
def read (cursor : Cursor) : Except Fault (OpenBracket × Cursor) := do
  let start := cursor.place
  let cursor := cursor.step
  notAtEnd (cursor.since start) cursor
  let isNegated := cursor.isAt '^'
  let cursor := if isNegated then cursor.step else cursor
  notAtEnd (cursor.since start) cursor
  let place := cursor.place
  let (dashes, cursor) := takeDashes [] cursor
  notAtEnd (.point start) cursor
  let isClosing := dashes.isEmpty && cursor.isAt ']'
  let parts := if isClosing then [.one ⟨.char ']' false, cursor.charSpan⟩] else dashes
  let cursor := if isClosing then cursor.step else cursor
  notAtEnd (cursor.since start) cursor
  return (⟨start, cursor.since start, isNegated, none, place, parts⟩, cursor)

end OpenBracket

namespace Bracket

/-- The class whose name stands here between colons, if there is one. -/
def ascii? (cursor : Cursor) : Option (Members × Cursor) := do
  let colon ← cursor.pass? "[:"
  let (isNegated, inside) :=
    match colon.pass? "^" with
    | some inside => (true, inside)
    | none => (false, colon)
  let name := inside.rest.takeWhile (· ≠ ':')
  let stop ← (Nat.repeat Cursor.next name.length inside).pass? ":]"
  let set ← CodeSet.named.lookup (String.ofList name)
  return (.ascii set isNegated (stop.since cursor.place), stop)

/-- Reads what may be a member or the end of a range. -/
def readPiece (cursor : Cursor) : Except Fault (Piece × Cursor) :=
  match cursor.rest with
  | '\\' :: _ => Escape.read cursor
  | char :: _ => .ok (⟨.char char false, cursor.charSpan⟩, cursor.next)
  | [] => fail .classUnclosed cursor.point

/-- A piece as a member. Edges match no character, so they are none. -/
def memberOf (piece : Piece) : Except Fault Members :=
  match piece.atom with
  | .edge _ => fail .classEscape piece.span
  | .wordEdge _ => fail .classEscape piece.span
  | _ => .ok (.one piece)

/-- The character of a piece that is the end of a range. -/
def charOf (piece : Piece) : Except Fault Char :=
  match piece.atom with
  | .char char _ => .ok char
  | _ => fail .rangeOfClass piece.span

/-- Reads a member, or a range of members. A dash before a closing bracket or another dash
makes no range. -/
def readRange (opening : Span) (cursor : Cursor) : Except Fault (Members × Cursor) := do
  let (first, cursor) ← readPiece cursor
  let cursor := cursor.skip
  OpenBracket.notAtEnd opening cursor
  if !cursor.isAt '-' || cursor.peek? = some ']' || cursor.peek? = some '-' then
    return (← memberOf first, cursor)
  else
    let cursor := cursor.step
    OpenBracket.notAtEnd opening cursor
    let (last, cursor) ← readPiece cursor
    let low ← charOf first
    let high ← charOf last
    if high < low then fail .rangeReversed (first.span.through last.span)
    else return (.range first last, cursor)

/-- The operator that stands here. -/
def operator? (cursor : Cursor) : Option Operator :=
  match cursor.rest with
  | '&' :: '&' :: _ => some .intersection
  | '-' :: '-' :: _ => some .difference
  | '~' :: '~' :: _ => some .symmetricDifference
  | _ => none

/-- Reads on in a bracket, up to the end of the outermost one. -/
def readIn (bracket : OpenBracket) (outer : List OpenBracket) (start : Cursor) :
    Except Fault (Members × Cursor) := do
  let cursor := start.skip
  let goOn (bracket : OpenBracket) (outer : List OpenBracket) (stop : Cursor) :=
    if stop.rest.length < start.rest.length then readIn bracket outer stop
    else fail .classUnclosed bracket.opening
  match cursor.rest with
  | [] => fail .classUnclosed bracket.opening
  | '[' :: _ =>
    match ascii? cursor with
    | some (part, stop) => goOn (bracket.add part) outer stop
    | none => do
      let (inner, stop) ← OpenBracket.read cursor
      goOn inner (bracket :: outer) stop
  | ']' :: _ =>
    let stop := cursor.next
    let members := .bracket bracket.isNegated bracket.members (stop.since bracket.start)
    match outer with
    | [] => return (members, stop)
    | around :: outer => goOn (around.add members) outer stop
  | _ =>
    match operator? cursor with
    | some operator =>
      goOn (bracket.operate operator cursor.next.next.place) outer cursor.next.next
    | none => do
      let (part, stop) ← readRange bracket.opening cursor
      goOn (bracket.add part) outer stop
termination_by start.rest.length

/-- Reads a bracketed class. -/
def read (cursor : Cursor) : Except Fault (Members × Cursor) := do
  let (bracket, cursor) ← OpenBracket.read cursor
  readIn bracket [] cursor

end Bracket

end SeedVault.Pattern
