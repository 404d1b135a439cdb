/-
What the operations on a disk do along a path that it accepts, if nothing is in their way.
-/

import SeedVault.Proofs.Disk.Effect

namespace SeedVault

/-- A path of names that a disk accepts. -/
structure Path.IsAccepted (path : Path) : Prop where
  takesNames : ∀ name ∈ path.steps, FileTree.TakesName name
  some : path.steps ≠ []
  noZero : '\x00' ∉ path.text.toList
  short : path.text.utf8ByteSize ≤ FileTree.longestPath

theorem Path.isEmpty_eq_false {path : Path} (some : path.steps ≠ []) : path.isEmpty = false := by
  rw [Bool.eq_false_iff]
  intro empty
  simp only [isEmpty, Bool.and_eq_true, decide_eq_true_eq, List.isEmpty_iff] at empty
  apply some
  rw [steps, empty.1, empty.2]
  rfl

namespace FileTree

variable {tree : FileTree} {path source target : Path} {mode : Nat} {content : List UInt8}

theorem resolve_eq_walk (accepted : path.IsAccepted) :
    tree.resolve path = tree.walk (path.base tree.start) path.steps := by
  rw [resolve, if_neg accepted.noZero, Path.isEmpty_eq_false accepted.some]
  simp only [Bool.false_eq_true, if_false]
  rw [if_neg (Nat.not_lt.mpr accepted.short)]
  rfl

/-- No file is where a path leads through. -/
def IsClear (tree : FileTree) (path : Path) : Prop :=
  ∀ place, path.IsAbove tree.start place → ∀ mode content, tree.node? place ≠ some (.file mode content)

/-- All that a path leads through are directories. -/
def IsOpen (tree : FileTree) (path : Path) : Prop :=
  ∀ place, path.IsAbove tree.start place → tree.node? place = some .directory

theorem resolve_of_isOpen (accepted : path.IsAccepted) (isOpen : tree.IsOpen path) :
    tree.resolve path = .ok (.named (path.location tree.start)) := by
  have split : path.steps.dropLast ++ [path.steps.getLast accepted.some] = path.steps :=
    List.dropLast_concat_getLast accepted.some
  have takesNames := accepted.takesNames
  rw [resolve_eq_walk accepted, Path.location, ← split, ← List.append_assoc]
  rw [← split] at takesNames
  exact walk_eq_named takesNames isOpen

/-- A path leads to its place or to nothing, if it leads through no file. -/
theorem resolve_of_isClear (accepted : path.IsAccepted) (isClear : tree.IsClear path) :
    tree.IsOpen path ∨ tree.resolve path = .error .notFound := by
  by_cases missing : ∃ place, path.IsAbove tree.start place ∧ tree.node? place = none
  · right
    have split : path.steps.dropLast ++ [path.steps.getLast accepted.some] = path.steps :=
      List.dropLast_concat_getLast accepted.some
    have takesNames := accepted.takesNames
    rw [resolve_eq_walk accepted, ← split]
    rw [← split] at takesNames
    exact walk_eq_notFound takesNames isClear missing
  · left
    intro place above
    cases found : tree.node? place with
    | none => exact absurd ⟨place, above, found⟩ missing
    | some node =>
        cases node with
        | directory => rfl
        | file mode content => exact absurd found (isClear place above mode content)

section steps

variable (reaches : tree.resolve path = .ok (.named (path.location tree.start)))

include reaches

theorem makeDirectory_of_none (absent : tree.node? (path.location tree.start) = none) :
    tree.makeDirectory path = .ok (tree.insert (path.location tree.start) .directory) := by
  simp only [makeDirectory, reaches, bind, Except.bind, absent]

theorem makeDirectory_of_directory (found : tree.node? (path.location tree.start) = some .directory) :
    tree.makeDirectory path = .error .alreadyExists := by
  simp only [makeDirectory, reaches, bind, Except.bind, found]

theorem isDirectory_of_directory (found : tree.node? (path.location tree.start) = some .directory) :
    tree.isDirectory path = true := by
  simp only [isDirectory, find, reaches, bind, Except.bind, Target.location, found]

theorem openEmpty_of_mayWrite (noSlash : path.endsInSlash = false)
    (notDirectory : tree.node? (path.location tree.start) ≠ some .directory)
    (mayWrite : ∀ mode, tree.mode? (path.location tree.start) = some mode →
      tree.mayWrite mode = true) :
    tree.openEmpty path = .ok (tree.insert (path.location tree.start)
      (.file ((tree.mode? (path.location tree.start)).getD privateMode) [])) := by
  simp only [openEmpty, reaches, bind, Except.bind, noSlash, Bool.false_eq_true, if_false]
  unfold mode? at mayWrite ⊢
  cases found : tree.node? (path.location tree.start) with
  | none => rfl
  | some node =>
      cases node with
      | directory => exact absurd found notDirectory
      | file mode content =>
          rw [found] at mayWrite
          exact if_pos (mayWrite mode rfl)

theorem find_of_file (noSlash : path.endsInSlash = false)
    (found : tree.node? (path.location tree.start) = some (.file mode content)) :
    tree.find path = .ok (path.location tree.start, .file mode content) :=
  find_eq_ok_of_file reaches noSlash found

theorem append_of_file (noSlash : path.endsInSlash = false)
    (found : tree.node? (path.location tree.start) = some (.file mode content)) (bytes : List UInt8) :
    tree.append path bytes =
      .ok (tree.insert (path.location tree.start) (.file mode (content ++ bytes))) := by
  simp only [append, find_of_file reaches noSlash found]

theorem read_of_file (noSlash : path.endsInSlash = false)
    (found : tree.node? (path.location tree.start) = some (.file mode content))
    (mayRead : tree.mayRead mode = true) : tree.read path = .ok content :=
  read_eq_ok_iff.mpr ⟨_, mode, find_of_file reaches noSlash found, mayRead⟩

end steps

/-- Nothing can be read where nothing is. -/
theorem read_of_none (accepted : path.IsAccepted) (isClear : tree.IsClear path)
    (absent : tree.node? (path.location tree.start) = none) :
    tree.read path = .error .notFound := by
  have unfound : tree.find path = .error .notFound := by
    rcases resolve_of_isClear accepted isClear with isOpen | missing
    · simp only [find, resolve_of_isOpen accepted isOpen, bind, Except.bind, Target.location, absent]
    · rw [find, missing]
      rfl
  rw [read, unfound]

theorem rename_of_file (sourceReaches : tree.resolve source = .ok (.named (source.location tree.start)))
    (targetReaches : tree.resolve target = .ok (.named (target.location tree.start)))
    (sourceEnd : source.endsInSlash = false) (targetEnd : target.endsInSlash = false)
    (found : tree.node? (source.location tree.start) = some (.file mode content))
    (notDirectory : tree.node? (target.location tree.start) ≠ some .directory) :
    tree.rename source target =
      .ok ((tree.erase (source.location tree.start)).insert (target.location tree.start)
        (.file mode content)) := by
  simp only [rename, sourceReaches, targetReaches, bind, Except.bind, found, sourceEnd, targetEnd,
    Bool.or_self, Bool.false_eq_true, if_false, if_neg notDirectory]

/-- A file is removed where it is found. -/
theorem remove_eq_of_find (isNamed : path.IsNamed) :
    tree.remove path =
      match tree.find path with
      | .ok (location, .file _ _) => .ok (tree.erase location)
      | .ok (_, .directory) => .error .isADirectory
      | .error problem => .error problem := by
  unfold remove find
  cases resolved : tree.resolve path with
  | error problem => rfl
  | ok reached =>
      obtain rfl := eq_of_resolve_eq_ok isNamed resolved
      simp only [bind, Except.bind, Target.location]
      cases found : tree.node? (path.location tree.start) with
      | none => rfl
      | some node =>
          cases node with
          | directory => rfl
          | file mode content =>
              dsimp only
              split <;> rfl

/-- Nothing is removed where nothing is to be read. -/
theorem remove_of_read_notFound (isNamed : path.IsNamed) (missing : tree.read path = .error .notFound) :
    tree.remove path = .error .notFound := by
  rw [remove_eq_of_find isNamed]
  rw [read] at missing
  cases found : tree.find path with
  | error problem =>
      rw [found] at missing
      cases missing
      rfl
  | ok entry =>
      obtain ⟨location, node⟩ := entry
      rw [found] at missing
      cases node with
      | directory => cases missing
      | file mode content =>
          dsimp only at missing
          split at missing <;> cases missing

/-- A file that can be read can be removed. -/
theorem remove_of_read_ok (isNamed : path.IsNamed) (reads : tree.read path = .ok content) :
    tree.remove path = .ok (tree.erase (path.location tree.start)) := by
  obtain ⟨location, mode, found, _⟩ := read_eq_ok_iff.mp reads
  obtain ⟨rfl, _⟩ := eq_of_find_eq_ok isNamed found
  rw [remove_eq_of_find isNamed, found]

end FileTree

end SeedVault
