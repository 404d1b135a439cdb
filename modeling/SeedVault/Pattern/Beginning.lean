/-
What matches begin with. A form with few beginnings that are whole matches is searched for
without an automaton.
-/

import SeedVault.Pattern.Form
import SeedVault.Text.Utf8

namespace SeedVault.Pattern

/-- Bytes that a match begins with, or that it consists of. -/
structure Beginning where
  bytes : List UInt8
  isWhole : Bool
deriving DecidableEq

namespace Beginning

def empty : Beginning := ⟨[], true⟩

def unfinished (beginning : Beginning) : Beginning :=
  { beginning with isWhole := false }

/-- No more than so many bytes of a beginning. -/
def cut (length : Nat) (beginning : Beginning) : Beginning :=
  if length < beginning.bytes.length then ⟨beginning.bytes.take length, false⟩ else beginning

/-- What goes on as another does. -/
def append (first second : Beginning) : Beginning :=
  if first.isWhole then ⟨first.bytes ++ second.bytes, second.isWhole⟩ else first

/-- How many bytes of a beginning are looked at. -/
def lengthLimit : Nat := 100

/-- How many beginnings there may be. -/
def countLimit : Nat := 250

/-- How many characters of a set, and how many repetitions, are looked at. -/
def widthLimit : Nat := 10

/-- Of equal beginnings that follow each other one is kept. It is whole if all are. -/
def merge (beginnings : List Beginning) : List Beginning :=
  beginnings.foldr (fun beginning others =>
    match others with
    | [] => [beginning]
    | next :: rest =>
      if beginning.bytes = next.bytes then
        ⟨beginning.bytes, beginning.isWhole && next.isWhole⟩ :: rest
      else beginning :: others) []

/-- No more than so many bytes of each beginning. -/
def shorten (length : Nat) (beginnings : List Beginning) : List Beginning :=
  merge (beginnings.map (cut length))

/-- Without those that begin like an earlier one, which is found first. -/
def preferred (beginnings : List Beginning) : List Beginning :=
  (beginnings.foldl (fun kept beginning =>
    if kept.any fun earlier => earlier.bytes.isPrefixOf beginning.bytes then kept
    else beginning :: kept) []).reverse

/-- Whether nothing can follow any of the beginnings. -/
def areUnfinished : Option (List Beginning) → Bool
  | some beginnings => beginnings.all (!·.isWhole)
  | none => true

/-- The beginnings of what matches two forms in sequence. There is no list of them if they
may begin with anything. -/
def sequence : Option (List Beginning) → Option (List Beginning) → Option (List Beginning)
  | some firsts, some seconds =>
    if countLimit < firsts.length * seconds.length then sequenceAny firsts
    else
      some <| (merge (firsts.flatMap fun first =>
        if first.isWhole then seconds.map first.append else [first])).map (cut lengthLimit)
  | some firsts, none => sequenceAny firsts
  | none, _ => none
where
  /-- The beginnings if anything may follow. -/
  sequenceAny (firsts : List Beginning) : Option (List Beginning) :=
    if firsts.any (·.bytes.isEmpty) then none else some (firsts.map unfinished)

/-- The beginnings of what matches one of two forms. -/
def choice : Option (List Beginning) → Option (List Beginning) → Option (List Beginning)
  | some firsts, some seconds =>
    if firsts.length + seconds.length ≤ countLimit then some (merge (firsts ++ seconds))
    else
      let firsts := shorten 4 firsts
      let seconds := shorten 4 seconds
      if firsts.length + seconds.length ≤ countLimit then some (merge (firsts ++ seconds))
      else none
  | _, _ => none

/-- The beginnings of what is repeated exactly so many times. -/
def times (beginnings : Option (List Beginning)) : Nat → Option (List Beginning) →
    Option (List Beginning)
  | 0, before => before
  | count + 1, before =>
    if areUnfinished before then before
    else times beginnings count (sequence before beginnings)

/-- The beginnings of what is repeated. -/
def repeated (beginnings : Option (List Beginning)) (least : Nat) (greatest : Option Nat)
    (isGreedy : Bool) : Option (List Beginning) :=
  let unfinishedUnless (isWhole : Bool) (beginnings : Option (List Beginning)) :=
    if isWhole then beginnings else beginnings.map (List.map unfinished)
  if least = 0 then
    let once := unfinishedUnless (greatest = some 1) beginnings
    if isGreedy then choice once (some [empty]) else choice (some [empty]) once
  else
    unfinishedUnless (least ≤ widthLimit && greatest = some least)
      (times beginnings (min least widthLimit) (some [empty]))

end Beginning

namespace Form

mutual

/-- What the matches of a form begin with, unless they may begin with anything. -/
def beginnings : Form → Option (List Beginning)
  | empty => some [.empty]
  | literal chars =>
    some [Beginning.cut Beginning.lengthLimit ⟨Text.utf8 (String.ofList chars), true⟩]
  | oneOf _ set =>
    if Beginning.widthLimit < set.size then none
    else some (set.chars.map fun char => ⟨Text.utf8 char.toString, true⟩)
  | look _ => some [.empty]
  | repeated form least greatest isGreedy =>
    Beginning.repeated form.beginnings least greatest isGreedy
  | capture form => form.beginnings
  | sequence forms => sequenceBeginnings (some [.empty]) forms
  | choice forms => choiceBeginnings (some []) forms

/-- The beginnings of a sequence, given those of the parts before. -/
def sequenceBeginnings (before : Option (List Beginning)) :
    List Form → Option (List Beginning)
  | [] => before
  | form :: forms =>
    if Beginning.areUnfinished before then before
    else sequenceBeginnings (Beginning.sequence before form.beginnings) forms

/-- The beginnings of a choice, given those of the branches before. -/
def choiceBeginnings (before : Option (List Beginning)) : List Form → Option (List Beginning)
  | [] => before
  | form :: forms =>
    if before.isNone then none
    else choiceBeginnings (Beginning.choice before form.beginnings) forms

end

end Form

namespace Beginning

/-- Bytes that are met in many texts. -/
def isFrequent (byte : UInt8) : Bool :=
  0x80 ≤ byte || byte ∈ Text.utf8 "\n\r (),-./0129:_abcdefghilmnoprstuvxy|"

/-- How many bytes two lists have in common at their start. -/
def commonLength (left right : List UInt8) : Nat :=
  ((left.zip right).takeWhile fun (left, right) => left = right).length

/-- What all beginnings begin with. -/
def commonStart : List Beginning → List UInt8
  | [] => []
  | first :: others =>
    others.foldl (fun start beginning => start.take (commonLength start beginning.bytes))
      first.bytes

/-- The beginnings cut to a length as long as there are more than so many, for each of some
lengths. -/
def shortenWhile : List (Nat × Nat) → List Beginning → List Beginning
  | [], beginnings => beginnings
  | (length, count) :: attempts, beginnings =>
    if beginnings.length ≤ count then beginnings
    else shortenWhile attempts (preferred (beginnings.map (cut length)))

def areWhole (beginnings : List Beginning) : Bool :=
  beginnings.all isWhole

/-- Whether beginnings are whole after they are shortened for a fast search. If this gains
nothing they are taken as they are. -/
def areWholeWhenShortened (beginnings : List Beginning) : Bool :=
  let shortened := shortenWhile [(5, 10), (4, 10), (3, 64), (2, 64), (1, 10)] beginnings
  let isUseless := 64 < shortened.length || shortened.any (·.bytes.length ≤ 2)
  areWhole beginnings && (isUseless || areWhole shortened)

/-- Whether beginnings are still whole matches when they are searched for. A rare first
byte, or a long common start, is searched for instead of them. -/
def areSearchedWhole (beginnings : List Beginning) : Bool :=
  let kept := preferred beginnings
  let start := commonStart kept
  let isFast := areWhole kept && kept.length ≤ 16
  if 1 < beginnings.length && start.length ≤ 3 && start.head?.any (!isFrequent ·) then
    areWhole (shorten 1 kept)
  else if 4 < start.length || (1 < start.length && !isFast) then
    areWholeWhenShortened (shorten start.length kept)
  else areWholeWhenShortened kept

end Beginning

/-- Whether the matches of a form are found without an automaton. -/
def Form.isPlain (form : Form) : Bool :=
  let isMark : Form → Bool := fun form =>
    match form with
    | .look _ => true
    | .capture _ => true
    | _ => false
  match form.beginnings with
  | some beginnings =>
    !form.any isMark && !beginnings.isEmpty && !beginnings.any (·.bytes.isEmpty) &&
      Beginning.areSearchedWhole beginnings
  | none => false

end SeedVault.Pattern
