/-
Patterns as trees, in the way they are written.
-/

import SeedVault.Pattern.CodeSet
import SeedVault.Pattern.Place

namespace SeedVault.Pattern

/-- Where a line or the text as a whole starts or ends. -/
inductive Edge
  | lineStart
  | lineEnd
  | textStart
  | textEnd
deriving DecidableEq

/-- Where a word starts or ends, or where none does either. Of half an edge only one side
is looked at. -/
inductive WordEdge
  | any
  | none
  | start
  | stop
  | startHalf
  | stopHalf
deriving DecidableEq

/-- Kinds of characters that have a letter of their own. -/
inductive Kind
  | digit
  | space
  | word
deriving DecidableEq

/-- The smallest parts of a pattern. -/
inductive Atom
  /-- A character that means itself, or that an escape stands for. One that is written as
  `\x` with two digits can be a byte. -/
  | char (value : Char) (isByte : Bool)
  | anyChar
  | edge (edge : Edge)
  | wordEdge (edge : WordEdge)
  /-- The characters of a kind, or all others. -/
  | kind (kind : Kind) (isNegated : Bool)
  /-- The characters with a property. -/
  | property (name : String)
deriving DecidableEq

/-- An atom and where it is. -/
structure Piece where
  atom : Atom
  span : Span
deriving DecidableEq

/-- How two classes are combined. -/
inductive Operator
  | intersection
  | difference
  | symmetricDifference
deriving DecidableEq

/-- The members of a bracketed class. -/
inductive Members
  | none (span : Span)
  | one (piece : Piece)
  | range (first last : Piece)
  | ascii (set : CodeSet) (isNegated : Bool) (span : Span)
  | bracket (isNegated : Bool) (members : Members) (span : Span)
  | all (parts : List Members) (span : Span)
  | operation (operator : Operator) (left right : Members) (span : Span)

namespace Members

def span : Members → Span
  | none span => span
  | one piece => piece.span
  | range first last => first.span.through last.span
  | ascii _ _ span => span
  | bracket _ _ span => span
  | all _ span => span
  | operation _ _ _ span => span

end Members

/-- What changes the way a pattern is read. -/
inductive Flag
  | ignoreCase
  | multiLine
  | dotMatchesAll
  | swapGreed
  | unicode
  | carriageReturns
  | spaced
deriving DecidableEq

/-- A part of a list of flags. The flags behind a negation are turned off. -/
inductive FlagItem
  | flag (flag : Flag)
  | negation
deriving DecidableEq

/-- Whether a list of flags turns a flag on or off, if it does either. -/
def Flag.setting? (flag : Flag) (items : List FlagItem) : Option Bool :=
  if .flag flag ∈ items.takeWhile (· ≠ .negation) then some true
  else if .flag flag ∈ items then some false
  else none

inductive Node
  | empty (span : Span)
  /-- Flags for what follows in the same group. -/
  | setting (items : List FlagItem) (span : Span)
  | atom (piece : Piece)
  | oneOf (members : Members)
  /-- A part that is repeated at least, and at most, a number of times: as often as can
  be if it is greedy. -/
  | repeated (node : Node) (least : Nat) (greatest : Option Nat) (isGreedy : Bool)
    (span : Span)
  /-- A group with flags of its own. What a capturing group matches is kept. -/
  | group (isCapturing : Bool) (items : List FlagItem) (node : Node) (span : Span)
  | sequence (nodes : List Node) (span : Span)
  | choice (nodes : List Node) (span : Span)

namespace Node

def span : Node → Span
  | empty span => span
  | setting _ span => span
  | atom piece => piece.span
  | oneOf members => members.span
  | repeated _ _ _ _ span => span
  | group _ _ _ span => span
  | sequence _ span => span
  | choice _ span => span

/-- The nodes one after the other. -/
def ofSequence (nodes : List Node) (span : Span) : Node :=
  match nodes with
  | [] => .empty span
  | [node] => node
  | nodes => .sequence nodes span

end Node

end SeedVault.Pattern
