/-
A disk as a value: what is at which location, the rules by which a path leads to a
location, and whether a program may use what is there. All files belong to the
program's user, the directories can be searched and changed by it, and there are no
links: whatever is on the disk is a directory or a file with one name. A new file
has the mode that it is made with.
-/

import SeedVault.Disk.Access

namespace SeedVault

/-- The names from the root of a disk down to something on it. -/
abbrev Location := List String

/-- What may be at a location. -/
inductive Node
  | directory
  | file (mode : Nat) (content : List UInt8)
deriving DecidableEq

/-- What is on a disk, apart from the root, the directory where relative paths start,
and whether the program may use files whatever their modes. -/
structure FileTree where
  start : Location
  nodes : List (Location × Node) := []
  isPrivileged : Bool := false
deriving DecidableEq

namespace FileTree

/-- What is at a location. -/
def node? (tree : FileTree) (location : Location) : Option Node :=
  if location = [] then some .directory else tree.nodes.lookup location

def erase (tree : FileTree) (location : Location) : FileTree :=
  { tree with nodes := tree.nodes.filter (·.1 ≠ location) }

def insert (tree : FileTree) (location : Location) (node : Node) : FileTree :=
  { tree with nodes := (location, node) :: (tree.erase location).nodes }

/-- The mode of a file that only its owner can use. -/
def privateMode : Nat := 0o600

/-- Whether the program may read a file with a mode: its owner may, or it may read all. -/
def mayRead (tree : FileTree) (mode : Nat) : Bool :=
  tree.isPrivileged || mode.testBit 8

/-- Whether the program may write to a file with a mode that is already there. -/
def mayWrite (tree : FileTree) (mode : Nat) : Bool :=
  tree.isPrivileged || mode.testBit 7

/-- The longest name, in bytes. -/
def longestName : Nat := 255

/-- The longest path, in bytes. -/
def longestPath : Nat := 4095

/-- What a path leads to: the place of a name in a directory, which may be empty;
or a directory that its last step does not name. -/
inductive Target
  | named (location : Location)
  | unnamed (location : Location)
deriving DecidableEq

def Target.location : Target → Location
  | named location => location
  | unnamed location => location

/-- Takes one step from a directory. -/
def step (location : Location) (part : String) : Except DiskError Target :=
  if part = "." then .ok (.unnamed location)
  else if part = ".." then .ok (.unnamed location.dropLast)
  else if longestName < part.utf8ByteSize then .error .nameTooLong
  else .ok (.named (location ++ [part]))

/-- Takes steps from a directory; each of them but the last one must lead to a
directory. -/
def walk (tree : FileTree) (location : Location) : List String → Except DiskError Target
  | [] => .ok (.unnamed location)
  | [part] => step location part
  | part :: next :: parts => do
    let target ← step location part
    match tree.node? target.location with
    | none => .error .notFound
    | some (.file _ _) => .error .notADirectory
    | some .directory => walk tree target.location (next :: parts)

/-- Follows a path. -/
def resolve (tree : FileTree) (path : Path) : Except DiskError Target :=
  if '\x00' ∈ path.text.toList then .error .zeroInPath
  else if path.isEmpty then .error .notFound
  else if longestPath < path.text.utf8ByteSize then .error .nameTooLong
  else walk tree (if path.isAbsolute then [] else tree.start) path.steps

/-- What a path leads to, where that is there and is a directory if the path ends
in a slash. -/
def find (tree : FileTree) (path : Path) : Except DiskError (Location × Node) := do
  let target ← resolve tree path
  match tree.node? target.location with
  | none => .error .notFound
  | some .directory => .ok (target.location, .directory)
  | some (.file mode content) =>
    if path.endsInSlash then .error .notADirectory
    else .ok (target.location, .file mode content)

def read (tree : FileTree) (path : Path) : Except DiskError (List UInt8) :=
  match tree.find path with
  | .ok (_, .file mode content) =>
    if tree.mayRead mode then .ok content else .error .permissionDenied
  | .ok (_, .directory) => .error .isADirectory
  | .error problem => .error problem

def isPresent (tree : FileTree) (path : Path) : Bool :=
  (tree.find path).isOk

def isDirectory (tree : FileTree) (path : Path) : Bool :=
  match tree.find path with
  | .ok (_, .directory) => true
  | _ => false

def makeDirectory (tree : FileTree) (path : Path) : Except DiskError FileTree := do
  match ← resolve tree path with
  | .unnamed _ => .error .alreadyExists
  | .named location =>
    match tree.node? location with
    | some _ => .error .alreadyExists
    | none => .ok (tree.insert location .directory)

/-- Empties a file, which keeps its mode, or makes an empty private one. -/
def openEmpty (tree : FileTree) (path : Path) : Except DiskError FileTree := do
  match ← resolve tree path with
  | .unnamed _ => .error .isADirectory
  | .named location =>
    if path.endsInSlash then .error .isADirectory
    else
      match tree.node? location with
      | some .directory => .error .isADirectory
      | some (.file mode _) =>
        if tree.mayWrite mode then .ok (tree.insert location (.file mode []))
        else .error .permissionDenied
      | none => .ok (tree.insert location (.file privateMode []))

/-- Writes at the end of a file that was opened. Its mode was looked at then. -/
def append (tree : FileTree) (path : Path) (bytes : List UInt8) : Except DiskError FileTree :=
  match tree.find path with
  | .ok (location, .file mode content) =>
    .ok (tree.insert location (.file mode (content ++ bytes)))
  | .ok (_, .directory) => .error .isADirectory
  | .error problem => .error problem

/-- Moves a file to another path, where it takes the place of a file but not that
of a directory. -/
def rename (tree : FileTree) (source target : Path) : Except DiskError FileTree := do
  match ← resolve tree source, ← resolve tree target with
  | .named old, .named new =>
    match tree.node? old with
    | none => .error .notFound
    | some .directory => .error .isADirectory
    | some node =>
      if source.endsInSlash || target.endsInSlash then .error .notADirectory
      else if tree.node? new = some .directory then .error .isADirectory
      else .ok ((tree.erase old).insert new node)
  | _, _ => .error .busy

def remove (tree : FileTree) (path : Path) : Except DiskError FileTree := do
  match ← resolve tree path with
  | .unnamed _ => .error .isADirectory
  | .named location =>
    match tree.node? location with
    | none => .error .notFound
    | some .directory => .error .isADirectory
    | some (.file _ _) =>
      if path.endsInSlash then .error .notADirectory else .ok (tree.erase location)

end FileTree

end SeedVault
