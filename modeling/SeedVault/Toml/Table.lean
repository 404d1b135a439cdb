/-
Values, and the rules by which keys and headers build tables out of them. No key
may be given twice, and how a table came to be decides what may still be added.
-/

namespace SeedVault.Toml

inductive Origin
  /-- Given by a header of its own. -/
  | header
  /-- On the way to the table of a header. -/
  | implied
  /-- On the way to a dotted key. -/
  | dotted
  /-- Written between braces. -/
  | inline
deriving DecidableEq

/-- A value. Of numbers with a fraction and of dates it is only kept that they are
there. -/
inductive Value
  | text (value : String)
  | integer (value : Int)
  | fraction
  | boolean (value : Bool)
  | moment
  | array (items : List Value)
  /-- A table with several instances, each given by a header of its own. -/
  | tables (instances : List (List (String × Value)))
  | table (origin : Origin) (members : List (String × Value))

abbrev Members := List (String × Value)

namespace Members

/-- Replaces the value of a key, or adds the key. -/
def set (members : Members) (key : String) (value : Value) : Members :=
  match members with
  | [] => [(key, value)]
  | member :: rest => if member.1 = key then (key, value) :: rest else member :: set rest key value

/-- Adds a value under a key, which goes through the tables named by `path`. The
last one must be open for it: at the start of the path it is, and further on it is
if it came to be by a dotted key. -/
def add (key : String) (value : Value) : (path : List String) → (isOpen : Bool) → Members →
    Option Members
  | [], isOpen, members =>
    if isOpen && (members.lookup key).isNone then some (members.set key value) else none
  | name :: path, _, members =>
    match members.lookup name with
    | none => (add key value path true []).map fun inner => members.set name (.table .dotted inner)
    | some (.table .dotted inner) =>
      (add key value path true inner).map fun inner => members.set name (.table .dotted inner)
    | some (.table .implied inner) =>
      (add key value path false inner).map fun inner => members.set name (.table .implied inner)
    | some (.tables instances) =>
      (add key value path false (instances.getLast?.getD [])).map fun inner =>
        members.set name (.tables (instances.dropLast ++ [inner]))
    | some _ => none

/-- Changes the table that the path of a header leads to. What is missing on the
way is made, and of a table with several instances the last one is meant. -/
def change (update : Members → Option Members) : (path : List String) → Members → Option Members
  | [], members => update members
  | name :: path, members =>
    match members.lookup name with
    | none => (change update path []).map fun inner => members.set name (.table .implied inner)
    | some (.table .inline _) => none
    | some (.table origin inner) =>
      (change update path inner).map fun inner => members.set name (.table origin inner)
    | some (.tables instances) =>
      (change update path (instances.getLast?.getD [])).map fun inner =>
        members.set name (.tables (instances.dropLast ++ [inner]))
    | some _ => none

/-- Gives a table a header, which it may have only once. -/
def openTable (name : String) (members : Members) : Option Members :=
  match members.lookup name with
  | none => some (members.set name (.table .header []))
  | some (.table .implied inner) => some (members.set name (.table .header inner))
  | some _ => none

/-- Adds an instance to a table with several instances. -/
def openInstance (name : String) (members : Members) : Option Members :=
  match members.lookup name with
  | none => some (members.set name (.tables [[]]))
  | some (.tables instances) => some (members.set name (.tables (instances ++ [[]])))
  | some _ => none

end Members

end SeedVault.Toml
