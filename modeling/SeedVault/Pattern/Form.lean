/-
Patterns in a normal form: what they match, apart from the way they are written.
-/

import SeedVault.Pattern.Basic
import SeedVault.Pattern.Problem

namespace SeedVault.Pattern

/-- What is asked of a place between two characters. -/
inductive Look
  | textStart
  | textEnd
  | lineStart (hasReturns : Bool)
  | lineEnd (hasReturns : Bool)
  | word (edge : WordEdge) (isUnicode : Bool)
deriving DecidableEq

inductive Form
  | empty
  | literal (chars : List Char)
  /-- A character of a set, of which there may be none. -/
  | oneOf (isBytes : Bool) (set : CodeSet)
  | look (look : Look)
  | repeated (form : Form) (least : Nat) (greatest : Option Nat) (isGreedy : Bool)
  | capture (form : Form)
  | sequence (forms : List Form)
  | choice (forms : List Form)

/-- How many bytes a code point takes. -/
def codeLength (code : Nat) : Nat :=
  if code < 0x80 then 1
  else if code < 0x800 then 2
  else if code < 0x10000 then 3
  else 4

/-- How many bytes characters take. -/
def literalLength (chars : List Char) : Nat :=
  chars.foldl (fun length char => length + codeLength char.toNat) 0

namespace Form

mutual

/-- Whether a form matches nothing but the empty text. -/
def isZeroWidth : Form → Bool
  | empty => true
  | literal _ => false
  | oneOf _ _ => false
  | look _ => true
  | repeated form _ _ _ => form.isZeroWidth
  | capture form => form.isZeroWidth
  | sequence forms => areZeroWidth forms
  | choice forms => areZeroWidth forms

def areZeroWidth : List Form → Bool
  | [] => true
  | form :: forms => form.isZeroWidth && areZeroWidth forms

end

mutual

/-- How many bytes a form matches at least. Nothing is said of a form with a set that has
no members. -/
def minLength : Form → Option Nat
  | empty => some 0
  | literal chars => some (literalLength chars)
  | oneOf _ set => set.ranges.head?.map fun (low, _) => codeLength low
  | look _ => some 0
  | repeated form least _ _ => form.minLength.map (least * ·)
  | capture form => form.minLength
  | sequence forms => minLengthSum 0 forms
  | choice forms => minLengthMin none forms

def minLengthSum (sum : Nat) : List Form → Option Nat
  | [] => some sum
  | form :: forms =>
    match form.minLength with
    | none => none
    | some length => minLengthSum (sum + length) forms

def minLengthMin (least : Option Nat) : List Form → Option Nat
  | [] => least
  | form :: forms =>
    match form.minLength with
    | none => none
    | some length => minLengthMin (some (min length (least.getD length))) forms

end

mutual

/-- Whether a form matches at the start of the text only. -/
def startsText : Form → Bool
  | look asked => asked = .textStart
  | repeated form least _ _ => 0 < least && form.startsText
  | capture form => form.startsText
  | sequence forms => anyStartsText forms
  | choice forms => allStartText forms
  | _ => false

/-- Whether one of the parts of a sequence is at the start of the text. -/
def anyStartsText : List Form → Bool
  | [] => false
  | form :: forms => form.startsText || (form.isZeroWidth && anyStartsText forms)

def allStartText : List Form → Bool
  | [] => true
  | form :: forms => form.startsText && allStartText forms

end

mutual

/-- Whether a condition holds of a form or of a part of it. -/
def any (condition : Form → Bool) : Form → Bool
  | repeated form least greatest isGreedy =>
    condition (repeated form least greatest isGreedy) || form.any condition
  | capture form => condition (capture form) || form.any condition
  | sequence forms => condition (sequence forms) || anyOf condition forms
  | choice forms => condition (choice forms) || anyOf condition forms
  | form => condition form

def anyOf (condition : Form → Bool) : List Form → Bool
  | [] => false
  | form :: forms => form.any condition || anyOf condition forms

end

mutual

/-- Whether two forms are the same. A capture is the same as no other. -/
def isSame : Form → Form → Bool
  | empty, empty => true
  | literal left, literal right => left = right
  | oneOf leftIsBytes left, oneOf rightIsBytes right =>
    leftIsBytes = rightIsBytes && left = right
  | look left, look right => left = right
  | repeated left leftLeast leftGreatest leftIsGreedy,
      repeated right rightLeast rightGreatest rightIsGreedy =>
    leftLeast = rightLeast && leftGreatest = rightGreatest && leftIsGreedy = rightIsGreedy &&
      left.isSame right
  | sequence lefts, sequence rights => areSame lefts rights
  | choice lefts, choice rights => areSame lefts rights
  | _, _ => false

def areSame : List Form → List Form → Bool
  | [], [] => true
  | left :: lefts, right :: rights => left.isSame right && areSame lefts rights
  | _, _ => false

end

def literal? : Form → Option (List Char)
  | literal chars => some chars
  | _ => none

/-- The character of a literal that has only one. -/
def char? : Form → Option Char
  | literal [char] => some char
  | _ => none

def set? : Form → Option CodeSet
  | oneOf _ set => some set
  | _ => none

def sequence? : Form → Option (List Form)
  | sequence forms => some forms
  | _ => none

/-- The parts of a form that follow each other. -/
def parts : Form → List Form
  | empty => []
  | sequence forms => forms
  | form => [form]

/-- The forms of which one must match. -/
def branches : Form → List Form
  | choice forms => forms
  | form => [form]

/-- The form that matches nothing. -/
def never : Form :=
  oneOf true .empty

/-- One of the characters of a set. -/
def ofSet (isBytes : Bool) (set : CodeSet) : Form :=
  if set.ranges.isEmpty then never
  else
    match set.single? with
    | some char => literal [char]
    | none => oneOf isBytes set

/-- A form that is repeated. What matches no character is repeated once at most. -/
def times (form : Form) (least : Nat) (greatest : Option Nat) (isGreedy : Bool) : Form :=
  let least := if form.isZeroWidth then min 1 least else least
  let greatest := if form.isZeroWidth then some (min 1 (greatest.getD 1)) else greatest
  if least = 0 ∧ greatest = some 0 then empty
  else if least = 1 ∧ greatest = some 1 then form
  else repeated form least greatest isGreedy

/-- Puts a form in front of others. Two literals become one. -/
def join : Form → List Form → List Form
  | literal left, literal right :: forms => literal (left ++ right) :: forms
  | form, forms => form :: forms

/-- Forms that follow each other. -/
def ofSequence (forms : List Form) : Form :=
  match (forms.flatMap parts).foldr join [] with
  | [] => empty
  | [form] => form
  | forms => sequence forms

/-- What two sequences have in common at their start. -/
def common (left right : List Form) : List Form :=
  ((left.zip right).takeWhile fun (left, right) => left.isSame right).map Prod.fst

/-- What all sequences have in common at their start. -/
def commonStart : List (List Form) → List Form
  | [] => []
  | first :: others => others.foldl common first

/-- The set of the characters that forms match, if these are only characters or only
sets. -/
def unitedSet? (forms : List Form) : Option CodeSet :=
  ((forms.mapM char?).map CodeSet.ofChars).or
    ((forms.mapM set?).map fun sets => sets.foldl CodeSet.union .empty)

/-- Forms of which one must match. What all begin with is put in front. What then remains
may be choices with a common start again, nested no deeper than given. -/
def ofBranches : Nat → List Form → Form
  | 0, forms => choice forms
  | depth + 1, forms =>
    match forms.flatMap branches with
    | [] => never
    | [form] => form
    | forms =>
      match unitedSet? forms with
      | some set => ofSet false set
      | none =>
        match forms.mapM sequence? with
        | none => choice forms
        | some sequences =>
          let start := commonStart sequences
          let rests := sequences.map fun forms => ofSequence (forms.drop start.length)
          if start.isEmpty then choice forms
          else ofSequence (start ++ [ofBranches depth rests])

def ofChoice (forms : List Form) : Form :=
  ofBranches nestingLimit forms

end Form

end SeedVault.Pattern
