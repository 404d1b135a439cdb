/-
Places in a pattern, and what lies between two of them.
-/

namespace SeedVault.Pattern

/-- A place in front of a character or at the end. Lines and columns are counted from
one. -/
structure Place where
  line : Nat
  column : Nat
deriving DecidableEq

namespace Place

def first : Place := ⟨1, 1⟩

/-- The place behind a character that stands here. -/
def after (place : Place) (char : Char) : Place :=
  if char = '\n' then ⟨place.line + 1, 1⟩ else ⟨place.line, place.column + 1⟩

end Place

/-- What lies between two places. -/
structure Span where
  start : Place
  stop : Place
deriving DecidableEq

namespace Span

/-- The empty span at a place. -/
def point (place : Place) : Span :=
  ⟨place, place⟩

/-- From the start of one span to the end of another. -/
def through (first last : Span) : Span :=
  ⟨first.start, last.stop⟩

def isOneLine (span : Span) : Bool :=
  span.start.line = span.stop.line

end Span

end SeedVault.Pattern
