/-
The small parts of TOML: blanks, comments, keys and quoted texts. A reader returns
what it read and the rest of the text, or nothing if there is none to read.
-/

import SeedVault.Text.Digit

namespace SeedVault.Toml

abbrev Reading (α : Type) := Option (α × List Char)

def isBlank (char : Char) : Bool :=
  char == ' ' || char == '\t'

/-- The characters that may stand in a comment, and that mean themselves in a quoted
text unless they have a meaning there. -/
def isPlainChar (char : Char) : Bool :=
  char == '\t' || (0x20 ≤ char.toNat && char.toNat ≠ 0x7f)

def isBasicChar (char : Char) : Bool :=
  isPlainChar char && char != '"' && char != '\\'

def isLiteralChar (char : Char) : Bool :=
  isPlainChar char && char != '\''

/-- The characters of a key without quotation marks. -/
def isKeyChar (char : Char) : Bool :=
  char.isAlphanum || char == '-' || char == '_'

def skipBlank (text : List Char) : List Char :=
  text.dropWhile isBlank

def skipComment : List Char → List Char
  | '#' :: rest => rest.dropWhile isPlainChar
  | text => text

def skipLineEnd? : List Char → Option (List Char)
  | '\n' :: rest => some rest
  | '\r' :: '\n' :: rest => some rest
  | _ => none

/-- Skips what may follow the last part of a line, and the end of the line. -/
def skipLine? (text : List Char) : Option (List Char) :=
  match skipComment (skipBlank text) with
  | [] => some []
  | rest => skipLineEnd? rest

/-- Skips blanks and ends of lines. -/
def skipBlankLines : List Char → List Char
  | '\n' :: rest => skipBlankLines rest
  | '\r' :: '\n' :: rest => skipBlankLines rest
  | char :: rest => if isBlank char then skipBlankLines rest else char :: rest
  | [] => []

/-- Skips blanks, ends of lines and comments. -/
def skipSpace (inComment : Bool) : List Char → List Char
  | '\n' :: rest => skipSpace false rest
  | '\r' :: '\n' :: rest => skipSpace false rest
  | char :: rest =>
    if inComment then
      if isPlainChar char then skipSpace true rest else char :: rest
    else if isBlank char then skipSpace false rest
    else if char = '#' then skipSpace true rest
    else char :: rest
  | [] => []

/-- The character whose code point the first `count` characters spell. -/
def codePoint? (count : Nat) (text : List Char) : Option Char :=
  let digits := text.take count
  let code := Text.number 16 digits
  if digits.length = count ∧ digits.all (Text.isDigitIn 16) ∧ code.isValidChar then
    some (Char.ofNat code)
  else none

/-- The character that an escape stands for, and how many characters of the text
after the backslash belong to the escape. -/
def escape? : List Char → Option (Char × Nat)
  | 'b' :: _ => some ('\x08', 1)
  | 't' :: _ => some ('\t', 1)
  | 'n' :: _ => some ('\n', 1)
  | 'f' :: _ => some ('\x0c', 1)
  | 'r' :: _ => some ('\r', 1)
  | '"' :: _ => some ('"', 1)
  | '\\' :: _ => some ('\\', 1)
  | 'u' :: rest => (codePoint? 4 rest).map (·, 5)
  | 'U' :: rest => (codePoint? 8 rest).map (·, 9)
  | _ => none

/-- Puts a character in front of what is read. -/
def following (char : Char) (read : Reading (List Char)) : Reading (List Char) :=
  read.map fun (chars, rest) => (char :: chars, rest)

/-- Reads a text with escapes, up to the closing quotation mark. -/
def readBasic (text : List Char) : Reading (List Char) :=
  match text with
  | [] => none
  | '"' :: rest => some ([], rest)
  | '\\' :: rest =>
    match escape? rest with
    | some (char, size) => following char (readBasic (rest.drop size))
    | none => none
  | char :: rest => if isBasicChar char then following char (readBasic rest) else none
termination_by text.length

/-- Reads a text without escapes, up to the closing apostrophe. -/
def readLiteral : List Char → Reading (List Char)
  | [] => none
  | '\'' :: rest => some ([], rest)
  | char :: rest => if isLiteralChar char then following char (readLiteral rest) else none

/-- What follows three quotation marks that end a text; up to two more of them
belong to it. -/
def readLongEnd (mark : Char) : List Char → List Char × List Char
  | first :: second :: rest =>
    if first = mark then
      if second = mark then ([mark, mark], rest) else ([mark], second :: rest)
    else ([], first :: second :: rest)
  | [first] => if first = mark then ([mark], []) else ([], [first])
  | [] => ([], [])

/-- Skips the end of a line after a backslash, with all white space that follows
it. -/
def skipJoint? (text : List Char) : Option (List Char) :=
  (skipLineEnd? (skipBlank text)).map skipBlankLines

theorem length_skipBlankLines_le (text : List Char) :
    (skipBlankLines text).length ≤ text.length := by
  fun_induction skipBlankLines text <;> simp_all <;> omega

theorem length_lt_of_skipLineEnd? {text rest : List Char}
    (skipped : skipLineEnd? text = some rest) : rest.length < text.length := by
  unfold skipLineEnd? at skipped
  split at skipped
  · cases skipped
    simp
  · cases skipped
    simp only [List.length_cons]
    omega
  · simp at skipped

theorem length_lt_of_skipJoint? {text rest : List Char} (skipped : skipJoint? text = some rest) :
    rest.length < text.length := by
  obtain ⟨middle, lineEnd, equal⟩ := Option.map_eq_some_iff.mp skipped
  have := length_lt_of_skipLineEnd? lineEnd
  have : (skipBlank text).length ≤ text.length := (List.dropWhile_sublist isBlank).length_le
  have := length_skipBlankLines_le middle
  rw [← equal]
  omega

/-- Reads a text of several lines with escapes, up to three quotation marks. -/
def readLongBasic (text : List Char) : Reading (List Char) :=
  match text with
  | [] => none
  | '"' :: '"' :: '"' :: rest => some (readLongEnd '"' rest)
  | '"' :: rest => following '"' (readLongBasic rest)
  | '\\' :: rest =>
    match _skipped : skipJoint? rest with
    | some rest => readLongBasic rest
    | none =>
      match escape? rest with
      | some (char, size) => following char (readLongBasic (rest.drop size))
      | none => none
  | '\n' :: rest => following '\n' (readLongBasic rest)
  | '\r' :: '\n' :: rest => following '\n' (readLongBasic rest)
  | char :: rest => if isBasicChar char then following char (readLongBasic rest) else none
termination_by text.length
decreasing_by
  all_goals simp only [List.length_cons, List.length_drop]
  all_goals try have := length_lt_of_skipJoint? _skipped
  all_goals omega

/-- Reads a text of several lines without escapes, up to three apostrophes. -/
def readLongLiteral : List Char → Reading (List Char)
  | [] => none
  | '\'' :: '\'' :: '\'' :: rest => some (readLongEnd '\'' rest)
  | '\'' :: rest => following '\'' (readLongLiteral rest)
  | '\n' :: rest => following '\n' (readLongLiteral rest)
  | '\r' :: '\n' :: rest => following '\n' (readLongLiteral rest)
  | char :: rest => if isLiteralChar char then following char (readLongLiteral rest) else none

/-- Skips the end of a line with which a text of several lines begins. -/
def skipFirstLineEnd (text : List Char) : List Char :=
  (skipLineEnd? text).getD text

/-- Reads a quoted text, from its first mark on. -/
def readText (text : List Char) : Reading String :=
  let read :=
    match text with
    | '"' :: '"' :: '"' :: rest => readLongBasic (skipFirstLineEnd rest)
    | '\'' :: '\'' :: '\'' :: rest => readLongLiteral (skipFirstLineEnd rest)
    | '"' :: rest => readBasic rest
    | '\'' :: rest => readLiteral rest
    | _ => none
  read.map fun (chars, rest) => (String.ofList chars, rest)

/-- Reads one part of a key. -/
def readKeyPart (text : List Char) : Reading String :=
  let read :=
    match text with
    | '"' :: rest => readBasic rest
    | '\'' :: rest => readLiteral rest
    | _ =>
      let chars := text.takeWhile isKeyChar
      if chars.isEmpty then none else some (chars, text.dropWhile isKeyChar)
  read.map fun (chars, rest) => (String.ofList chars, rest)

/-- The nesting at which keys and values are refused. -/
def nestingLimit : Nat := 80

/-- Reads the parts of a key between the dots, at most as many as allowed. -/
def readKeyParts : (allowed : Nat) → List Char → Option (List String × List Char)
  | 0, _ => none
  | allowed + 1, text => do
    let (part, rest) ← readKeyPart (skipBlank text)
    match skipBlank rest with
    | '.' :: rest => (readKeyParts allowed rest).map fun (parts, rest) => (part :: parts, rest)
    | rest => some ([part], rest)

/-- Reads a key: the names of the tables it goes through, and its own name. -/
def readKey (text : List Char) : Option ((List String × String) × List Char) := do
  let (parts, rest) ← readKeyParts (nestingLimit - 1) text
  let name ← parts.getLast?
  return ((parts.dropLast, name), rest)

end SeedVault.Toml
