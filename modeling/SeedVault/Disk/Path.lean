/-
Paths as they are written. What a path leads to depends on the disk; here are the
questions that its text alone answers.
-/

import SeedVault.Text.Cut

namespace SeedVault

/-- A path: the parts of its text between the slashes, of which there is at least
one. Empty parts are kept, so that the text can be written again. -/
structure Path where
  first : String
  others : List String
deriving DecidableEq

namespace Path

def ofText (text : String) : Path :=
  let (first, others) := Text.parts '/' text
  ⟨first, others⟩

def text (path : Path) : String :=
  "/".intercalate (path.first :: path.others)

def isEmpty (path : Path) : Bool :=
  path.first = "" && path.others.isEmpty

/-- A path that begins with a slash starts at the root of the disk. -/
def isAbsolute (path : Path) : Bool :=
  path.first = "" && !path.others.isEmpty

/-- A path that ends in a slash must lead to a directory. -/
def endsInSlash (path : Path) : Bool :=
  path.others.getLast? = some ""

/-- The parts that take a step. -/
def steps (path : Path) : List String :=
  (path.first :: path.others).filter (· ≠ "")

/-- Whether a part, standing at the end of a path, does not change where the path
leads. -/
def isIdle (part : String) : Bool :=
  part = "" || part = "."

/-- Whether a part is the name of something. -/
def isName (part : String) : Bool :=
  part ≠ "" && part ≠ "." && part ≠ ".."

/-- The path with the given parts, of which the first one is empty if it starts
at the root. -/
def ofParts (first : String) (others : List String) : Path :=
  if first = "" ∧ others = [] then ⟨"", [""]⟩ else ⟨first, others⟩

/-- The path without its last step, if it has one. -/
def parent? (path : Path) : Option Path :=
  match path.others.reverse.dropWhile isIdle with
  | _ :: above => some (ofParts path.first (above.dropWhile isIdle).reverse)
  | [] => if path.first = "" then none else some ⟨"", []⟩

/-- The last step, if it is the name of something. -/
def fileName? (path : Path) : Option String :=
  let last := (path.others.reverse.dropWhile isIdle).head?.getD path.first
  if isName last then some last else none

/-- The path to something with the given name, in the directory that a path leads
to. -/
def join (directory : Path) (name : String) : Path :=
  if directory.isEmpty then ⟨name, []⟩
  else if directory.endsInSlash then ⟨directory.first, directory.others.dropLast ++ [name]⟩
  else ⟨directory.first, directory.others ++ [name]⟩

/-- The path with another last name. -/
def withFileName (path : Path) (name : String) : Path :=
  match path.fileName? with
  | some _ => (path.parent?.getD path).join name
  | none => path.join name

/-- The paths that begin with the same parts and leave out some of the last ones;
the parts after the first one are given from the last one on. -/
def shortened (first : String) : List String → List Path
  | [] => if first = "" then [] else [⟨first, []⟩]
  | part :: above =>
    if isIdle part then shortened first above
    else ⟨first, (part :: above).reverse⟩ :: shortened first above

/-- The paths to the directories above, the nearest one first. The root and the
directory where a relative path starts are not among them. -/
def ancestors (path : Path) : List Path :=
  match path.others.reverse.dropWhile isIdle with
  | _ :: above => shortened path.first above
  | [] => []

end Path

end SeedVault
