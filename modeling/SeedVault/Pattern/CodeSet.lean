/-
Sets of code points.
-/

namespace SeedVault.Pattern

/-- A set of code points: the ranges of its members, in ascending order and with gaps
between them. -/
structure CodeSet where
  ranges : List (Nat × Nat)
deriving DecidableEq

namespace CodeSet

def empty : CodeSet := ⟨[]⟩

/-- The greatest code point. -/
def greatest : Nat := 0x10ffff

/-- Puts a range among others. It is joined with those that it meets. -/
def insertRange (low high : Nat) : List (Nat × Nat) → List (Nat × Nat)
  | [] => [(low, high)]
  | (first, last) :: rest =>
    if high + 1 < first then (low, high) :: (first, last) :: rest
    else if last + 1 < low then (first, last) :: insertRange low high rest
    else insertRange (min low first) (max high last) rest

def insertAll (set : CodeSet) (ranges : List (Nat × Nat)) : CodeSet :=
  ⟨ranges.foldl (fun set (low, high) => insertRange low high set) set.ranges⟩

def ofRange (low high : Nat) : CodeSet :=
  ⟨[(low, high)]⟩

def ofChars (chars : List Char) : CodeSet :=
  empty.insertAll (chars.map fun char => (char.toNat, char.toNat))

def union (left right : CodeSet) : CodeSet :=
  left.insertAll right.ranges

/-- What lies between the first member of one set and the last member of another. -/
def through (first last : CodeSet) : CodeSet :=
  match first.ranges.head?, last.ranges.getLast? with
  | some (low, _), some (_, high) => ofRange low high
  | _, _ => empty

/-- The code point of the next character: surrogates are no characters. -/
def next (code : Nat) : Nat :=
  if code = 0xd7ff then 0xe000 else code + 1

/-- The code point of the character before. -/
def previous (code : Nat) : Nat :=
  if code = 0xe000 then 0xd7ff else code - 1

/-- The gaps behind a member. Where only the surrogates are between two members, these
two are the gap. -/
def gapsAfter (last : Nat) : List (Nat × Nat) → List (Nat × Nat)
  | [] => if last < greatest then [(next last, greatest)] else []
  | (low, high) :: rest =>
    (min (next last) (previous low), max (next last) (previous low)) :: gapsAfter high rest

/-- All other code points. -/
def complement (set : CodeSet) : CodeSet :=
  match set.ranges with
  | [] => ofRange 0 greatest
  | (low, high) :: rest =>
    ⟨(if 0 < low then [(0, previous low)] else []) ++ gapsAfter high rest⟩

/-- The parts of ranges that lie in others. -/
def overlaps (left right : List (Nat × Nat)) : List (Nat × Nat) :=
  left.flatMap fun (low, high) =>
    right.filterMap fun (first, last) =>
      if max low first ≤ min high last then some (max low first, min high last) else none

def inter (left right : CodeSet) : CodeSet :=
  ⟨overlaps left.ranges right.ranges⟩

def diff (left right : CodeSet) : CodeSet :=
  if right.ranges.isEmpty then left else left.inter right.complement

/-- The members of one of two sets but not of both. -/
def symmDiff (left right : CodeSet) : CodeSet :=
  (left.union right).diff (left.inter right)

/-- The set with each ASCII letter in both cases. -/
def foldCase (set : CodeSet) : CodeSet :=
  let lower := (set.inter (ofRange 0x61 0x7a)).ranges
  let upper := (set.inter (ofRange 0x41 0x5a)).ranges
  (set.insertAll (lower.map fun (low, high) => (low - 0x20, high - 0x20))).insertAll
    (upper.map fun (low, high) => (low + 0x20, high + 0x20))

def isAscii (set : CodeSet) : Bool :=
  set.ranges.all fun (_, high) => high < 0x80

/-- The member of a set that has only one. -/
def single? (set : CodeSet) : Option Char :=
  match set.ranges with
  | [(low, high)] => if low = high then some (Char.ofNat low) else none
  | _ => none

/-- How many code points the ranges span. -/
def size (set : CodeSet) : Nat :=
  set.ranges.foldl (fun size (low, high) => size + (high + 1 - low)) 0

def chars (set : CodeSet) : List Char :=
  set.ranges.flatMap fun (low, high) =>
    ((List.range' low (high + 1 - low)).filter Nat.isValidChar).map Char.ofNat

def digit : CodeSet := ofRange 0x30 0x39

def space : CodeSet := ⟨[(0x09, 0x0d), (0x20, 0x20)]⟩

def word : CodeSet := ⟨[(0x30, 0x39), (0x41, 0x5a), (0x5f, 0x5f), (0x61, 0x7a)]⟩

/-- The sets of ASCII characters that have names. -/
def named : List (String × CodeSet) :=
  [ ("alnum", ⟨[(0x30, 0x39), (0x41, 0x5a), (0x61, 0x7a)]⟩),
    ("alpha", ⟨[(0x41, 0x5a), (0x61, 0x7a)]⟩),
    ("ascii", ofRange 0x00 0x7f),
    ("blank", ⟨[(0x09, 0x09), (0x20, 0x20)]⟩),
    ("cntrl", ⟨[(0x00, 0x1f), (0x7f, 0x7f)]⟩),
    ("digit", digit),
    ("graph", ofRange 0x21 0x7e),
    ("lower", ofRange 0x61 0x7a),
    ("print", ofRange 0x20 0x7e),
    ("punct", ⟨[(0x21, 0x2f), (0x3a, 0x40), (0x5b, 0x60), (0x7b, 0x7e)]⟩),
    ("space", space),
    ("upper", ofRange 0x41 0x5a),
    ("word", word),
    ("xdigit", ⟨[(0x30, 0x39), (0x41, 0x46), (0x61, 0x66)]⟩) ]

end CodeSet

end SeedVault.Pattern
