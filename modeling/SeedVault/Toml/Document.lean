/-
TOML documents.
-/

import SeedVault.Toml.Number

namespace SeedVault.Toml

/-- Reads the items of an array, up to its closing bracket. -/
def readItems (readItem : List Char → Reading Value) (text : List Char) :
    Option (List Value × List Char) :=
  match skipSpace false text with
  | ']' :: rest => some ([], rest)
  | start => do
    let (item, rest) ← readItem start
    match skipSpace false rest with
    | ']' :: rest => return ([item], rest)
    | ',' :: rest =>
      if rest.length < text.length then
        let (items, rest) ← readItems readItem rest
        return (item :: items, rest)
      else none
    | _ => none
termination_by text.length

/-- Reads a key with its value. -/
def readMember (readItem : List Char → Reading Value) (text : List Char) :
    Option ((List String × String × Value) × List Char) := do
  let ((path, name), rest) ← readKey text
  let rest ← skipChar? '=' rest
  let (value, rest) ← readItem (skipBlank rest)
  return ((path, name, value), rest)

/-- Reads the members of an inline table, up to its closing brace. -/
def readInlineMembers (readItem : List Char → Reading Value) (members : Members)
    (text : List Char) : Option (Members × List Char) := do
  let ((path, name, value), rest) ← readMember readItem text
  let members ← members.add name value path true
  match skipBlank rest with
  | '}' :: rest => return (members, rest)
  | ',' :: rest =>
    if rest.length < text.length then readInlineMembers readItem members rest else none
  | _ => none
termination_by text.length

def readInline (readItem : List Char → Reading Value) (text : List Char) :
    Option (Members × List Char) :=
  match skipBlank text with
  | '}' :: rest => some ([], rest)
  | start => readInlineMembers readItem [] start

/-- Reads a value without other values in it. -/
def readScalar (text : List Char) : Option (Value × List Char) :=
  match text with
  | '"' :: _ => (readText text).map fun (value, rest) => (.text value, rest)
  | '\'' :: _ => (readText text).map fun (value, rest) => (.text value, rest)
  | 't' :: 'r' :: 'u' :: 'e' :: rest => some (.boolean true, rest)
  | 'f' :: 'a' :: 'l' :: 's' :: 'e' :: rest => some (.boolean false, rest)
  | _ =>
    match skipMoment? text with
    | some rest => some (.moment, rest)
    | none => readNumber text

/-- Reads a value in which arrays and inline tables are nested less deep than
`depth`. -/
def readValue : (depth : Nat) → List Char → Reading Value
  | depth + 1, '[' :: rest =>
    (readItems (readValue depth) rest).map fun (items, rest) => (.array items, rest)
  | depth + 1, '{' :: rest =>
    (readInline (readValue depth) rest).map fun (members, rest) => (.table .inline members, rest)
  | _, text => readScalar text

/-- The document so far, and the path of the table to which members are added. -/
structure Document where
  members : Members := []
  path : List String := []

namespace Document

/-- Takes the header of a table, or of one more instance of it. -/
def enter (document : Document) (isInstance : Bool) (path : List String) (name : String) :
    Option Document := do
  let start := if isInstance then Members.openInstance name else Members.openTable name
  return ⟨← document.members.change start path, path ++ [name]⟩

def add (document : Document) (path : List String) (name : String) (value : Value) :
    Option Document := do
  let members ← document.members.change (Members.add name value path true) document.path
  return { document with members }

/-- Reads the rest of a header. -/
def readHeader (document : Document) (isInstance : Bool) (text : List Char) :
    Option (Document × List Char) := do
  let ((path, name), rest) ← readKey text
  let rest ← skipChar? ']' rest
  let rest ← if isInstance then skipChar? ']' rest else some rest
  return (← document.enter isInstance path name, ← skipLine? rest)

/-- Reads a line that is not blank. -/
def readLine (document : Document) (text : List Char) : Option (Document × List Char) :=
  match text with
  | '[' :: '[' :: rest => document.readHeader true rest
  | '[' :: rest => document.readHeader false rest
  | _ => do
    let ((path, name, value), rest) ← readMember (readValue (nestingLimit - 1)) text
    return (← document.add path name value, ← skipLine? rest)

/-- Reads the lines of a document. -/
def readLines (document : Document) (text : List Char) : Option Document :=
  match skipSpace false text with
  | [] => some document
  | start => do
    let (document, rest) ← document.readLine start
    if rest.length < text.length then readLines document rest else none
termination_by text.length

end Document

/-- The members of the document that a text is. A byte order mark may come
first. -/
def ofText (text : String) : Option Members :=
  let chars :=
    match text.toList with
    | '\ufeff' :: rest => rest
    | chars => chars
  (Document.readLines {} chars).map Document.members

end SeedVault.Toml
