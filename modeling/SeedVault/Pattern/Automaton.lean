/-
The automaton of a form, as far as its size goes. A form that is repeated has states of its
own for every time, so that a short pattern can have a large automaton.
-/

import SeedVault.Pattern.Automaton.Characters
import SeedVault.Pattern.Automaton.Words
import SeedVault.Pattern.Form

namespace SeedVault.Pattern

/-- The other edge of a word, if the edge is one of the two. -/
def WordEdge.reversed : WordEdge → WordEdge
  | .any => .any
  | .none => .none
  | .start => .stop
  | .stop => .start
  | .startHalf => .stopHalf
  | .stopHalf => .startHalf

def Look.reversed : Look → Look
  | .textStart => .textEnd
  | .textEnd => .textStart
  | .lineStart hasReturns => .lineEnd hasReturns
  | .lineEnd hasReturns => .lineStart hasReturns
  | .word edge isUnicode => .word edge.reversed isUnicode

namespace Form

mutual

/-- The form as it is met from its end: the last part of a sequence comes first. Literals
are left as they are. -/
def reversed : Form → Form
  | look asked => look asked.reversed
  | repeated form least greatest isGreedy => repeated form.reversed least greatest isGreedy
  | capture form => capture form.reversed
  | sequence forms => sequence (reversedBefore [] forms)
  | choice forms => choice (reversedBefore [] forms).reverse
  | form => form

/-- Puts the reversed forms in front of others, the last one first. -/
def reversedBefore (others : List Form) : List Form → List Form
  | [] => others
  | form :: forms => reversedBefore (form.reversed :: others) forms

end

mutual

/-- Whether a form ends in a state that has several links. -/
def endsInFork (direction : Direction) : Form → Bool
  | repeated form least none _ => 0 < least || form.minLength.any (0 < ·)
  | repeated form least (some greatest) _ => least = greatest && form.endsInFork direction
  | capture form => direction = .backward && form.endsInFork direction
  | sequence forms => lastEndsInFork direction forms
  | _ => false

def lastEndsInFork (direction : Direction) : List Form → Bool
  | [] => false
  | [form] => form.endsInFork direction
  | _ :: forms => lastEndsInFork direction forms

end

/-- The bytes of the link from the end of a form to what follows. -/
def endSize (direction : Direction) (form : Form) : Nat :=
  if form.endsInFork direction then Extent.jumpSize else 0

/-- The bytes of a literal in the order in which they are read. -/
def literalBytes (direction : Direction) (chars : List Char) : List UInt8 :=
  let bytes := chars.flatMap String.utf8EncodeChar
  match direction with
  | .forward => bytes
  | .backward => bytes.reverse

end Form

namespace Extent

/-- Adds what reads something, as given, a number of times at least and at most. -/
def addRepeated (isEmptyMatch : Bool) (endSize least : Nat) (greatest : Option Nat)
    (step : Extent → Extent) (extent : Extent) : Extent :=
  match least, greatest with
  | 0, none =>
    if isEmptyMatch then (step extent).add 3 (4 * jumpSize + endSize)
    else step (extent.add 1 (jumpSize + endSize))
  | least, none => (addTimes step least extent).add 1 (jumpSize + least * endSize)
  | 0, some 1 => (step (extent.add 1 0)).add 1 (2 * jumpSize + endSize)
  | least, some greatest =>
    let before := if least = 0 then extent.add 1 0 else addTimes step least extent
    if least = greatest then before.add 0 ((least - 1) * endSize)
    else
      addTimes (fun extent => step (extent.add 1 (2 * jumpSize))) (greatest - least)
        (before.add 1 (greatest * endSize))

mutual

/-- Adds what reads a form. -/
def addForm (direction : Direction) (extent : Extent) : Form → Extent
  | .empty => extent.add 1 0
  | .literal chars => extent.add (literalLength chars) 0
  | .oneOf _ set => addSet direction set extent
  | .look _ => extent.add 1 0
  | .repeated form least greatest _ =>
    addRepeated (!form.minLength.any (0 < ·)) (form.endSize direction) least greatest
      (fun extent => addForm direction extent form) extent
  | .capture form =>
    match direction with
    | .forward => (addForm direction (extent.add 1 0) form).add 1 (form.endSize direction)
    | .backward => addForm direction extent form
  | .sequence forms => addSequence direction extent forms
  | .choice forms =>
    match forms.mapM Form.literal? with
    | some literals => addWords (literals.map (Form.literalBytes direction)) extent
    | none => addBranches direction 0 extent forms

/-- Adds what reads forms that follow each other. -/
def addSequence (direction : Direction) (extent : Extent) : List Form → Extent
  | [] => extent
  | [form] => addForm direction extent form
  | form :: forms =>
    addSequence direction ((addForm direction extent form).add 0 (form.endSize direction)) forms

/-- Adds what reads one of several forms, of which so many were added before. Two states
join all: they come behind the second form. -/
def addBranches (direction : Direction) (before : Nat) (extent : Extent) : List Form → Extent
  | [] => extent
  | form :: forms =>
    addBranches direction (before + 1)
      ((addForm direction extent form).add (if before = 1 then 2 else 0)
        (jumpSize + form.endSize direction)) forms

end

/-- Adds what reads anything before a match, unless this must start where the text does. -/
def addStart (form : Form) (extent : Extent) : Extent :=
  if form.startsText then extent.add 1 0 else extent.add 3 (rangeSize + 2 * jumpSize)

/-- The automaton that finds what a form matches. Forward, it keeps the form as a whole like
a capture. -/
def ofForm (direction : Direction) (form : Form) : Extent :=
  match direction with
  | .forward => (addForm direction (addStart form empty) (.capture form)).add 1 0
  | .backward =>
    let form := form.reversed
    (addForm direction (addStart form empty) form).add 1 (form.endSize direction)

end Extent

end SeedVault.Pattern
