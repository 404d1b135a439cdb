/-
What a pattern means. A pattern is about Unicode text unless a flag says otherwise, but
nothing is known of Unicode here: neither cases, nor kinds of characters, nor properties.
If a pattern is not about Unicode, it must not match bytes that are no text.
-/

import SeedVault.Pattern.Form

namespace SeedVault.Pattern

/-- The flags that decide what a part means. -/
structure Mode where
  ignoreCase : Bool := false
  multiLine : Bool := false
  dotMatchesAll : Bool := false
  swapGreed : Bool := false
  isUnicode : Bool := true
  carriageReturns : Bool := false
deriving DecidableEq

namespace Mode

/-- The mode that a list of flags leads to. -/
def set (mode : Mode) (items : List FlagItem) : Mode where
  ignoreCase := (Flag.ignoreCase.setting? items).getD mode.ignoreCase
  multiLine := (Flag.multiLine.setting? items).getD mode.multiLine
  dotMatchesAll := (Flag.dotMatchesAll.setting? items).getD mode.dotMatchesAll
  swapGreed := (Flag.swapGreed.setting? items).getD mode.swapGreed
  isUnicode := (Flag.unicode.setting? items).getD mode.isUnicode
  carriageReturns := (Flag.carriageReturns.setting? items).getD mode.carriageReturns

/-- What a dot matches. -/
def dot (mode : Mode) : CodeSet :=
  if mode.dotMatchesAll then CodeSet.empty.complement
  else if mode.carriageReturns then (CodeSet.ofChars ['\n', '\r']).complement
  else (CodeSet.ofChars ['\n']).complement

def look (mode : Mode) : Edge → Look
  | .lineStart => if mode.multiLine then .lineStart mode.carriageReturns else .textStart
  | .lineEnd => if mode.multiLine then .lineEnd mode.carriageReturns else .textEnd
  | .textStart => .textStart
  | .textEnd => .textEnd

/-- The set with both cases of each letter, if the case does not matter. -/
def foldCase (mode : Mode) (set : CodeSet) : CodeSet :=
  if mode.ignoreCase then set.foldCase else set

/-- A set, or all others. The others of a set of bytes have bytes among them that are no
text. -/
def negate (mode : Mode) (isNegated : Bool) (set : CodeSet) (span : Span) :
    Except Fault CodeSet :=
  if !isNegated then .ok set
  else if mode.isUnicode then .ok set.complement
  else fail .invalidUtf8 span

end Mode

/-- The name of a property as it is looked up: in lower case, without blanks, dashes,
underscores and what is not ASCII, and without `is` in front. -/
def propertyKey (name : String) : String :=
  let chars := name.toList
  let chars :=
    if (chars.take 2).map Char.toLower = ['i', 's'] then chars.drop 2 else chars
  let chars := chars.filter fun char => char.toNat < 0x80 && char ∉ [' ', '_', '-']
  String.ofList (chars.map Char.toLower)

/-- A property is looked up by its name, but these three stand for the values of one. -/
def propertyProblem (name : String) : Problem :=
  if propertyKey name ∈ ["cf", "lc", "sc"] then .propertyValueUnknown else .propertyUnknown

/-- The characters of a kind, as far as they are ASCII. -/
def Kind.set : Kind → CodeSet
  | .digit => .digit
  | .space => .space
  | .word => .word

namespace Piece

/-- The characters that a kind or a property stands for. -/
def kindSet (mode : Mode) (piece : Piece) : Except Fault CodeSet :=
  match piece.atom with
  | .kind kind isNegated =>
    if mode.isUnicode then fail .kindUnknown piece.span
    else mode.negate isNegated kind.set piece.span
  | .property name =>
    if mode.isUnicode then fail (propertyProblem name) piece.span
    else fail .unicodeOff piece.span
  | _ => .ok .empty

/-- What a piece stands for in a class. Whether the case of a character matters is decided
for the class as a whole. -/
def set (mode : Mode) (piece : Piece) : Except Fault CodeSet :=
  match piece.atom with
  | .char char isByte =>
    if mode.isUnicode ∨ char.toNat ≤ 0x7f then .ok (.ofChars [char])
    else if isByte then fail .invalidUtf8 piece.span
    else fail .unicodeOff piece.span
  | _ => piece.kindSet mode

/-- What a character stands for outside of classes. -/
def charForm (mode : Mode) (char : Char) (isByte : Bool) (span : Span) : Except Fault Form :=
  if mode.isUnicode then
    if mode.ignoreCase then fail .caseUnknown span else .ok (.literal [char])
  else if isByte ∧ 0x7f < char.toNat then fail .invalidUtf8 span
  else .ok (.ofSet true (mode.foldCase (.ofChars [char])))

/-- What a piece stands for outside of classes. -/
def form (mode : Mode) (piece : Piece) : Except Fault Form :=
  match piece.atom with
  | .char char isByte => charForm mode char isByte piece.span
  | .anyChar => if mode.isUnicode then .ok (.oneOf false mode.dot) else fail .invalidUtf8 piece.span
  | .edge edge => .ok (.look (mode.look edge))
  | .wordEdge edge => .ok (.look (.word edge mode.isUnicode))
  | _ => (piece.kindSet mode).map (Form.ofSet true)

end Piece

namespace Members

def isCharOrRange : Members → Bool
  | one piece => (piece.atom matches .char _ _)
  | range _ _ => true
  | _ => false

/-- Whether characters are given that are not in brackets of their own. -/
def hasChars : Members → Bool
  | all parts _ => parts.any isCharOrRange
  | members => members.isCharOrRange

/-- Refuses characters whose case should not matter. -/
def checkCase (mode : Mode) (members : Members) (span : Span) : Except Fault Unit :=
  if mode.isUnicode ∧ mode.ignoreCase ∧ members.hasChars then fail .caseUnknown span else .ok ()

end Members

/-- The members that two sets have together. -/
def Operator.apply : Operator → CodeSet → CodeSet → CodeSet
  | .intersection => .inter
  | .difference => .diff
  | .symmetricDifference => .symmDiff

namespace Members

mutual

/-- The characters that members stand for. -/
def set (mode : Mode) : Members → Except Fault CodeSet
  | none _ => .ok .empty
  | one piece => piece.set mode
  | range first last => do
    let first ← first.set mode
    let last ← last.set mode
    return first.through last
  | ascii set isNegated span => do
    if mode.isUnicode ∧ mode.ignoreCase then fail .caseUnknown span
    mode.negate isNegated (mode.foldCase set) span
  | bracket isNegated members span => do
    let set ← members.set mode
    members.checkCase mode span
    mode.negate isNegated (mode.foldCase set) span
  | all parts _ => setOfAll mode .empty parts
  | operation operator left right _ => do
    let leftSet ← left.set mode
    let rightSet ← right.set mode
    right.checkCase mode right.span
    left.checkCase mode left.span
    return operator.apply (mode.foldCase leftSet) (mode.foldCase rightSet)

/-- The characters of a set, and those that parts stand for. -/
def setOfAll (mode : Mode) (before : CodeSet) : List Members → Except Fault CodeSet
  | [] => .ok before
  | part :: parts => do
    let set ← part.set mode
    setOfAll mode (before.union set) parts

end

end Members

namespace Node

mutual

/-- What a node matches, and the mode behind it. -/
def form (mode : Mode) : Node → Except Fault (Mode × Form)
  | empty _ => .ok (mode, .empty)
  | setting items _ => .ok (mode.set items, .empty)
  | atom piece => do
    let form ← piece.form mode
    return (mode, form)
  | oneOf members => do
    let set ← members.set mode
    return (mode, .ofSet (!mode.isUnicode) set)
  | repeated node least greatest isGreedy _ => do
    let (mode, form) ← node.form mode
    return (mode, form.times least greatest (isGreedy != mode.swapGreed))
  | group isCapturing items node _ => do
    let (_, form) ← node.form (mode.set items)
    return (mode, if isCapturing then .capture form else form)
  | sequence nodes _ => do
    let (mode, forms) ← forms mode [] nodes
    return (mode, .ofSequence forms)
  | choice nodes _ => do
    let (mode, forms) ← forms mode [] nodes
    return (mode, .ofChoice forms)

/-- What nodes match, one after the other. What those before match is given, the last one
first. -/
def forms (mode : Mode) (before : List Form) : List Node → Except Fault (Mode × List Form)
  | [] => .ok (mode, before.reverse)
  | node :: nodes => do
    let (mode, form) ← node.form mode
    forms mode (form :: before) nodes

end

end Node

end SeedVault.Pattern
