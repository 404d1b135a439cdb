/-
Reading a pattern.
-/

import SeedVault.Pattern.Bracket
import SeedVault.Pattern.Group

namespace SeedVault.Pattern

namespace Count

/-- The greatest number of times that a part may be repeated. -/
def limit : Nat := 0xffffffff

/-- Reads a count with blanks around it. That there is none may be left unsaid if
something worse follows. -/
def readOne (cursor : Cursor) : Except Fault Nat × Cursor :=
  let start := (cursor.takeWhile Text.isBlank).2
  let (digits, stop) := start.takeWhile Char.isDigit
  let value := Text.number 10 digits
  let count : Except Fault Nat :=
    if digits.isEmpty then fail .countMissing (stop.since start.place)
    else if limit < value then fail .countTooLarge (stop.since start.place)
    else .ok value
  (count, (stop.takeWhile Text.isBlank).2)

/-- Reads counts in braces, up to the closing one. -/
def readInside (brace : Cursor) (cursor : Cursor) :
    Except Fault ((Nat × Option Nat) × Cursor) := do
  let unclosed (stop : Cursor) : Except Fault ((Nat × Option Nat) × Cursor) :=
    fail .countUnclosed (stop.since brace.place)
  let (least, stop) := readOne cursor
  if stop.isAtEnd then unclosed stop
  else if stop.isAt ',' then
    let stop := stop.step
    if stop.isAtEnd then unclosed stop
    else if stop.isAt '}' then return ((← least, none), stop)
    else
      let least ← least
      let (greatest, stop) := readOne stop
      let greatest ← greatest
      if stop.isAt '}' then return ((least, some greatest), stop) else unclosed stop
  else
    let count ← least
    if stop.isAt '}' then return ((count, some count), stop) else unclosed stop

/-- Goes on past a question mark, which makes a repetition modest. Tells whether it is
greedy. -/
def passMark (cursor : Cursor) : Bool × Cursor :=
  if cursor.isAt '?' then (false, cursor.next) else (true, cursor)

/-- Reads counts in braces, and the question mark that may follow. -/
def read (brace : Cursor) : Except Fault ((Nat × Option Nat × Bool) × Cursor) := do
  let cursor := brace.step
  if cursor.isAtEnd then fail .countUnclosed (cursor.since brace.place)
  else
    let ((least, greatest), stop) ← readInside brace cursor
    let (isGreedy, stop) := passMark stop.step
    if greatest.any (· < least) then fail .countsReversed (stop.since brace.place)
    else return ((least, greatest, isGreedy), stop)

end Count

/-- A part of a pattern that is being read: where it starts, its branches so far, where
the last branch starts, and the nodes of that one. Of both the last one comes first. -/
structure Level where
  start : Place
  branches : List Node
  place : Place
  nodes : List Node

namespace Level

def opened (place : Place) : Level :=
  ⟨place, [], place, []⟩

def add (level : Level) (node : Node) : Level :=
  { level with nodes := node :: level.nodes }

/-- The branch that is read, which ends at a place. -/
def branch (level : Level) (stop : Place) : Node :=
  .ofSequence level.nodes.reverse ⟨level.place, stop⟩

/-- Begins another branch behind the sign at a place. -/
def branchOff (level : Level) (sign : Cursor) : Level :=
  { level with
    branches := level.branch sign.place :: level.branches
    place := sign.next.place
    nodes := [] }

/-- The part as a whole, which ends at a place. -/
def node (level : Level) (stop : Place) : Node :=
  match level.branches with
  | [] => level.branch stop
  | branches => .choice (level.branch stop :: branches).reverse ⟨level.start, stop⟩

end Level

/-- A group that is open: what stands around it, its parenthesis, what kind of group it
is, and whether the pattern around it is spaced. -/
structure OpenGroup where
  around : Level
  parenthesis : Span
  isCapturing : Bool
  items : List FlagItem
  isSpaced : Bool

/-- What is read of a pattern. -/
structure Reader where
  level : Level
  groups : List OpenGroup
  names : Group.Names
  cursor : Cursor

namespace Reader

def ofPattern (pattern : List Char) : Reader :=
  ⟨.opened .first, [], [], .ofPattern pattern⟩

/-- Adds a node that ends at a cursor. -/
def add (reader : Reader) (node : Node) (cursor : Cursor) : Reader :=
  { reader with level := reader.level.add node, cursor }

/-- Reads an opening parenthesis and what belongs to it. -/
def openGroup (reader : Reader) : Except Fault Reader := do
  let cursor := reader.cursor
  let (opening, stop) ← Group.read reader.names cursor
  let spaced (items : List FlagItem) : Cursor :=
    { stop with isSpaced := (Flag.spaced.setting? items).getD cursor.isSpaced }
  match opening with
  | .setting items => return reader.add (.setting items (stop.since cursor.place)) (spaced items)
  | .group isCapturing items names =>
    let group : OpenGroup :=
      ⟨reader.level, cursor.charSpan, isCapturing, items, cursor.isSpaced⟩
    return ⟨.opened stop.place, group :: reader.groups, names, spaced items⟩

/-- Reads a closing parenthesis. -/
def closeGroup (reader : Reader) : Except Fault Reader :=
  let cursor := reader.cursor
  match reader.groups with
  | [] => fail .groupUnopened cursor.charSpan
  | group :: groups =>
    let stop := { cursor.next with isSpaced := group.isSpaced }
    let span := stop.since group.parenthesis.start
    let node := .group group.isCapturing group.items (reader.level.node cursor.place) span
    .ok ⟨group.around.add node, groups, reader.names, stop⟩

/-- Takes back the last node, which is to be repeated. -/
def takeLast (reader : Reader) : Except Fault (Node × Reader) :=
  match reader.level.nodes with
  | [] => fail .nothingToRepeat reader.cursor.point
  | .setting _ _ :: _ => fail .nothingToRepeat reader.cursor.point
  | node :: nodes => .ok (node, { reader with level := { reader.level with nodes } })

/-- Repeats the last node. -/
def repeatLast (reader : Reader) (least : Nat) (greatest : Option Nat) : Except Fault Reader := do
  let (node, reader) ← reader.takeLast
  let (isGreedy, stop) := Count.passMark reader.cursor.next
  let span := stop.since node.span.start
  return reader.add (.repeated node least greatest isGreedy span) stop

/-- Repeats the last node as often as counts in braces say. -/
def repeatCounted (reader : Reader) : Except Fault Reader := do
  let (node, reader) ← reader.takeLast
  let ((least, greatest, isGreedy), stop) ← Count.read reader.cursor
  let span := stop.since node.span.start
  return reader.add (.repeated node least greatest isGreedy span) stop

/-- The atom that a single character is. -/
def atomOf : Char → Atom
  | '.' => .anyChar
  | '^' => .edge .lineStart
  | '$' => .edge .lineEnd
  | char => .char char false

/-- Reads what begins with a character. -/
def step (reader : Reader) (char : Char) : Except Fault Reader :=
  let cursor := reader.cursor
  match char with
  | '(' => reader.openGroup
  | ')' => reader.closeGroup
  | '|' => .ok { reader with level := reader.level.branchOff cursor, cursor := cursor.next }
  | '[' => do
    let (members, stop) ← Bracket.read cursor
    return reader.add (.oneOf members) stop
  | '?' => reader.repeatLast 0 (some 1)
  | '*' => reader.repeatLast 0 none
  | '+' => reader.repeatLast 1 none
  | '{' => reader.repeatCounted
  | '\\' => do
    let (piece, stop) ← Escape.read cursor
    return reader.add (.atom piece) stop
  | char => .ok (reader.add (.atom ⟨atomOf char, cursor.charSpan⟩) cursor.next)

/-- The pattern as a whole, once it is read to its end. -/
def finish (reader : Reader) : Except Fault Node :=
  match reader.groups with
  | [] => .ok (reader.level.node reader.cursor.place)
  | group :: _ => fail .groupUnclosed group.parenthesis

/-- Reads on to the end of the pattern. -/
def readAll (reader : Reader) : Except Fault Node := do
  let start := { reader with cursor := reader.cursor.skip }
  match start.cursor.rest with
  | [] => start.finish
  | char :: _ => do
    let after ← start.step char
    if after.cursor.rest.length < reader.cursor.rest.length then after.readAll
    else start.finish
termination_by reader.cursor.rest.length

end Reader

/-- The tree of a pattern. -/
def Node.ofPattern (pattern : List Char) : Except Fault Node :=
  (Reader.ofPattern pattern).readAll

end SeedVault.Pattern
