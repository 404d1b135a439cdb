/-
What the operations on a disk do, if they succeed: along any path, and along a path of names.
-/

import SeedVault.Proofs.Disk.Tree

namespace SeedVault

/-- The directory where a path starts, if relative ones start at the given directory. -/
def Path.base (path : Path) (start : Location) : Location :=
  if path.isAbsolute then [] else start

/-- Where a part of a path leads from a location, if it leads anywhere. -/
def Path.moved (location : Location) (part : String) : Location :=
  if part = "." then location
  else if part = ".." then location.dropLast
  else location ++ [part]

/-- Where any path leads, if it leads anywhere. -/
def Path.place (path : Path) (start : Location) : Location :=
  path.steps.foldl Path.moved (path.base start)

/-- Where a path of names leads. -/
def Path.location (path : Path) (start : Location) : Location :=
  path.base start ++ path.steps

/-- The locations of the directories that a path of names leads through. -/
def Path.IsAbove (path : Path) (start place : Location) : Prop :=
  FileTree.Along (path.base start) path.steps.dropLast place

/-- A path whose steps are names. -/
structure Path.IsNamed (path : Path) : Prop where
  steps : ∀ name ∈ path.steps, Path.isName name = true
  some : path.steps ≠ []

theorem Path.IsNamed.location_ne_nil {path : Path} (isNamed : path.IsNamed) (start : Location) :
    path.location start ≠ [] := by
  simp [location, isNamed.some]

theorem Path.foldl_moved {parts : List String} (areNames : ∀ name ∈ parts, isName name = true)
    (location : Location) : parts.foldl moved location = location ++ parts := by
  induction parts generalizing location with
  | nil => simp
  | cons name parts ih =>
      simp only [List.forall_mem_cons] at areNames
      obtain ⟨notHere, notAbove⟩ := FileTree.ne_of_isName areNames.1
      rw [List.foldl_cons, ih areNames.2, moved, if_neg notHere, if_neg notAbove, List.append_assoc,
        List.singleton_append]

theorem Path.IsNamed.place_eq {path : Path} (isNamed : path.IsNamed) (start : Location) :
    path.place start = path.location start :=
  foldl_moved isNamed.steps _

/-- The mode of a file. -/
def Node.mode? : Node → Option Nat
  | directory => none
  | file mode _ => some mode

namespace FileTree

/-- The mode of the file at a location, if a file is there. -/
def mode? (tree : FileTree) (location : Location) : Option Nat :=
  (tree.node? location).bind Node.mode?

variable {tree after : FileTree} {path source target : Path}

section anywhere

variable {location : Location} {parts : List String} {reached : Target} {mode : Nat}
  {bytes content : List UInt8}

theorem location_of_step_eq_ok {part : String} (stepped : step location part = .ok reached) :
    reached.location = Path.moved location part := by
  unfold step at stepped
  unfold Path.moved
  split at stepped
  · cases stepped
    rw [if_pos ‹_›]
    rfl
  · rw [if_neg ‹_›]
    split at stepped
    · cases stepped
      rw [if_pos ‹_›]
      rfl
    · rw [if_neg ‹_›]
      split at stepped
      · cases stepped
      · cases stepped
        rfl

/-- Where steps lead depends on their parts alone. -/
theorem location_of_walk_eq_ok (walked : walk tree location parts = .ok reached) :
    reached.location = parts.foldl Path.moved location := by
  induction parts generalizing location with
  | nil =>
      cases walked
      rfl
  | cons part parts ih =>
      cases parts with
      | nil => exact location_of_step_eq_ok walked
      | cons next parts =>
          rw [walk_cons (List.cons_ne_nil _ _)] at walked
          obtain ⟨first, stepped, walked⟩ := bind_eq_ok_iff.mp walked
          split at walked
          · cases walked
          · cases walked
          · rw [List.foldl_cons, ← location_of_step_eq_ok stepped]
            exact ih walked

theorem resolve_eq_ok_iff :
    tree.resolve path = .ok reached ↔
      '\x00' ∉ path.text.toList ∧ path.isEmpty = false ∧ path.text.utf8ByteSize ≤ longestPath ∧
        walk tree (path.base tree.start) path.steps = .ok reached := by
  unfold resolve
  split
  · rename_i zero
    exact ⟨nofun, fun reaches => absurd zero reaches.1⟩
  · split
    · rename_i empty
      exact ⟨nofun, fun reaches => absurd empty (by simp [reaches.2.1])⟩
    · split
      · rename_i long
        exact ⟨nofun, fun reaches => absurd long (Nat.not_lt.mpr reaches.2.2.1)⟩
      · rename_i noZero some short
        exact ⟨fun walked => ⟨noZero, by simpa using some, Nat.not_lt.mp short, walked⟩,
          fun reaches => reaches.2.2.2⟩

/-- A path leads where it led, if all directories are still there. -/
theorem resolve_of_directories (start : after.start = tree.start)
    (directories : ∀ place, tree.node? place = some .directory → after.node? place = some .directory)
    (resolved : tree.resolve path = .ok reached) : after.resolve path = .ok reached := by
  obtain ⟨noZero, some, short, walked⟩ := resolve_eq_ok_iff.mp resolved
  refine resolve_eq_ok_iff.mpr ⟨noZero, some, short, ?_⟩
  rw [start]
  exact walk_of_directories directories walked

theorem location_of_resolve_eq_ok (resolved : tree.resolve path = .ok reached) :
    reached.location = path.place tree.start :=
  location_of_walk_eq_ok (resolve_eq_ok_iff.mp resolved).2.2.2

theorem exists_of_makeDirectory_eq_ok (made : tree.makeDirectory path = .ok after) :
    ∃ location, tree.resolve path = .ok (.named location) ∧ tree.node? location = none ∧
      after = tree.insert location .directory := by
  obtain ⟨reached, resolved, made⟩ := bind_eq_ok_iff.mp made
  cases reached with
  | unnamed location => cases made
  | named location =>
      dsimp only at made
      split at made
      · cases made
      · rename_i absent
        cases made
        exact ⟨location, resolved, absent, rfl⟩

theorem exists_of_openEmpty_eq_ok (opened : tree.openEmpty path = .ok after) :
    ∃ location, tree.resolve path = .ok (.named location) ∧ tree.node? location ≠ some .directory ∧
      after = tree.insert location (.file ((tree.mode? location).getD privateMode) []) := by
  obtain ⟨reached, resolved, opened⟩ := bind_eq_ok_iff.mp opened
  cases reached with
  | unnamed location => cases opened
  | named location =>
      refine ⟨location, resolved, ?_⟩
      dsimp only at opened
      split at opened
      · cases opened
      · unfold mode?
        cases found : tree.node? location with
        | none =>
            rw [found] at opened
            cases opened
            exact ⟨by simp, rfl⟩
        | some node =>
            rw [found] at opened
            cases node with
            | directory => cases opened
            | file mode content =>
                dsimp only at opened
                split at opened
                · cases opened
                  exact ⟨by simp, rfl⟩
                · cases opened

theorem exists_of_find_eq_ok {node : Node} (found : tree.find path = .ok (location, node)) :
    ∃ reached, tree.resolve path = .ok reached ∧ location = reached.location ∧
      tree.node? location = some node := by
  obtain ⟨reached, resolved, found⟩ := bind_eq_ok_iff.mp found
  refine ⟨reached, resolved, ?_⟩
  split at found
  · cases found
  · rename_i isDirectory
    cases found
    exact ⟨rfl, isDirectory⟩
  · rename_i isFile
    split at found
    · cases found
    · cases found
      exact ⟨rfl, isFile⟩

theorem find_eq_ok_of_file (resolved : tree.resolve path = .ok reached)
    (noSlash : path.endsInSlash = false)
    (isFile : tree.node? reached.location = some (.file mode content)) :
    tree.find path = .ok (reached.location, .file mode content) := by
  simp only [find, resolved, bind, Except.bind, isFile, noSlash, Bool.false_eq_true, if_false]

/-- A file is read where it is found, if the program may. -/
theorem read_eq_ok_iff :
    tree.read path = .ok content ↔
      ∃ location mode, tree.find path = .ok (location, .file mode content) ∧
        tree.mayRead mode = true := by
  unfold read
  constructor
  · intro reads
    split at reads
    · split at reads
      · cases reads
        exact ⟨_, _, ‹_›, ‹_›⟩
      · cases reads
    · cases reads
    · cases reads
  · rintro ⟨location, mode, found, mayRead⟩
    rw [found]
    exact if_pos mayRead

theorem exists_of_append_eq_ok (appended : tree.append path bytes = .ok after) :
    ∃ location mode content, tree.find path = .ok (location, .file mode content) ∧
      after = tree.insert location (.file mode (content ++ bytes)) := by
  unfold append at appended
  split at appended
  · cases appended
    exact ⟨_, _, _, ‹_›, rfl⟩
  · cases appended
  · cases appended

theorem exists_of_rename_eq_ok (renamed : tree.rename source target = .ok after) :
    ∃ old new mode content, tree.resolve source = .ok (.named old) ∧
      tree.resolve target = .ok (.named new) ∧ tree.node? old = some (.file mode content) ∧
      target.endsInSlash = false ∧ tree.node? new ≠ some .directory ∧
      after = (tree.erase old).insert new (.file mode content) := by
  obtain ⟨old, oldResolved, renamed⟩ := bind_eq_ok_iff.mp renamed
  obtain ⟨new, newResolved, renamed⟩ := bind_eq_ok_iff.mp renamed
  cases old with
  | unnamed old => cases renamed
  | named old =>
      cases new with
      | unnamed new => cases renamed
      | named new =>
          dsimp only at renamed
          split at renamed
          · cases renamed
          · cases renamed
          · rename_i node notDirectory found
            split at renamed
            · cases renamed
            · rename_i noSlash
              simp only [Bool.or_eq_true, not_or, Bool.not_eq_true] at noSlash
              split at renamed
              · cases renamed
              · rename_i free
                cases renamed
                cases node with
                | directory => exact absurd rfl notDirectory
                | file mode content =>
                    exact ⟨old, new, mode, content, oldResolved, newResolved, found, noSlash.2, free,
                      rfl⟩

theorem exists_of_remove_eq_ok (removed : tree.remove path = .ok after) :
    ∃ location mode content, tree.resolve path = .ok (.named location) ∧
      tree.node? location = some (.file mode content) ∧ after = tree.erase location := by
  obtain ⟨reached, resolved, removed⟩ := bind_eq_ok_iff.mp removed
  cases reached with
  | unnamed location => cases removed
  | named location =>
      dsimp only at removed
      split at removed
      · cases removed
      · cases removed
      · rename_i mode content isFile
        split at removed
        · cases removed
        · cases removed
          exact ⟨location, mode, content, resolved, isFile, rfl⟩

end anywhere

section named

theorem eq_of_resolve_eq_ok {target : Target} (isNamed : path.IsNamed)
    (resolved : tree.resolve path = .ok target) : target = .named (path.location tree.start) :=
  eq_of_walk_eq_ok isNamed.steps isNamed.some (resolve_eq_ok_iff.mp resolved).2.2.2

theorem eq_of_makeDirectory_eq_ok (isNamed : path.IsNamed) (made : tree.makeDirectory path = .ok after) :
    tree.node? (path.location tree.start) = none ∧
      after = tree.insert (path.location tree.start) .directory := by
  obtain ⟨location, resolved, absent, made⟩ := exists_of_makeDirectory_eq_ok made
  cases eq_of_resolve_eq_ok isNamed resolved
  exact ⟨absent, made⟩

theorem eq_of_openEmpty_eq_ok (isNamed : path.IsNamed) (opened : tree.openEmpty path = .ok after) :
    ∃ mode, after = tree.insert (path.location tree.start) (.file mode []) := by
  obtain ⟨location, resolved, _, opened⟩ := exists_of_openEmpty_eq_ok opened
  cases eq_of_resolve_eq_ok isNamed resolved
  exact ⟨_, opened⟩

theorem eq_of_find_eq_ok {location : Location} {node : Node} (isNamed : path.IsNamed)
    (found : tree.find path = .ok (location, node)) :
    location = path.location tree.start ∧ tree.node? location = some node := by
  obtain ⟨reached, resolved, here, isThere⟩ := exists_of_find_eq_ok found
  cases eq_of_resolve_eq_ok isNamed resolved
  exact ⟨here, isThere⟩

theorem eq_of_append_eq_ok {bytes : List UInt8} (isNamed : path.IsNamed)
    (appended : tree.append path bytes = .ok after) :
    ∃ mode content, tree.node? (path.location tree.start) = some (.file mode content) ∧
      after = tree.insert (path.location tree.start) (.file mode (content ++ bytes)) := by
  obtain ⟨location, mode, content, found, appended⟩ := exists_of_append_eq_ok appended
  obtain ⟨rfl, isFile⟩ := eq_of_find_eq_ok isNamed found
  exact ⟨mode, content, isFile, appended⟩

theorem eq_of_rename_eq_ok (isNamed : source.IsNamed) (isNamed' : target.IsNamed)
    (renamed : tree.rename source target = .ok after) :
    ∃ mode content, tree.node? (source.location tree.start) = some (.file mode content) ∧
      after = (tree.erase (source.location tree.start)).insert (target.location tree.start)
        (.file mode content) := by
  obtain ⟨old, new, mode, content, oldResolved, newResolved, found, _, _, renamed⟩ :=
    exists_of_rename_eq_ok renamed
  cases eq_of_resolve_eq_ok isNamed oldResolved
  cases eq_of_resolve_eq_ok isNamed' newResolved
  exact ⟨mode, content, found, renamed⟩

end named

end FileTree

end SeedVault
