/-
Disks whose directories hang together. There every path that leads to a file names it, and what
can be read can be removed.
-/

import SeedVault.Proofs.Disk.Effect

namespace SeedVault.FileTree

/-- Relative paths start in a directory, and so is whatever is on the disk. -/
structure IsRooted (tree : FileTree) : Prop where
  start : tree.node? tree.start = some .directory
  above (location : Location) (name : String) (node : Node) :
    tree.node? (location ++ [name]) = some node → tree.node? location = some .directory

/-- A disk with nothing but a file or an empty directory in its root. -/
theorem isRooted_singleton (name : String) (node : Node) :
    IsRooted { start := [], nodes := [([name], node)] } where
  start := if_pos rfl
  above location part found isThere := by
    by_cases here : location ++ [part] = [name]
    · have root : location = [] := by simpa using congrArg List.length here
      rw [root]
      exact if_pos rfl
    · have different : (location ++ [part] == [name]) = false := beq_eq_false_iff_ne.mpr here
      rw [node?, if_neg (by simp), List.lookup_cons, different] at isThere
      cases isThere

variable {tree : FileTree} {path : Path} {location reached : Location} {mode : Nat}
  {content : List UInt8}

namespace IsRooted

theorem node?_dropLast (rooted : tree.IsRooted) (isDirectory : tree.node? location = some .directory) :
    tree.node? location.dropLast = some .directory := by
  rcases List.eq_nil_or_concat location with rfl | ⟨above, name, rfl⟩
  · exact isDirectory
  · rw [List.concat_eq_append] at isDirectory
    rw [List.concat_eq_append, List.dropLast_concat]
    exact rooted.above above name _ isDirectory

theorem node?_base (rooted : tree.IsRooted) (path : Path) :
    tree.node? (path.base tree.start) = some .directory := by
  unfold Path.base
  split
  · exact if_pos rfl
  · exact rooted.start

/-- A step that has no name stays among the directories. -/
theorem node?_of_step (rooted : tree.IsRooted) {part : String}
    (isDirectory : tree.node? location = some .directory)
    (stepped : step location part = .ok (.unnamed reached)) :
    tree.node? reached = some .directory := by
  unfold step at stepped
  split at stepped
  · cases stepped
    exact isDirectory
  split at stepped
  · cases stepped
    exact rooted.node?_dropLast isDirectory
  split at stepped <;> cases stepped

theorem node?_of_walk (rooted : tree.IsRooted) {parts : List String}
    (isDirectory : tree.node? location = some .directory)
    (walked : walk tree location parts = .ok (.unnamed reached)) :
    tree.node? reached = some .directory := by
  induction parts generalizing location with
  | nil =>
      cases walked
      exact isDirectory
  | cons part parts ih =>
      cases parts with
      | nil => exact rooted.node?_of_step isDirectory walked
      | cons next parts =>
          rw [walk_cons (List.cons_ne_nil _ _)] at walked
          obtain ⟨target, _, walked⟩ := bind_eq_ok_iff.mp walked
          split at walked
          · cases walked
          · cases walked
          · exact ih ‹_› walked

/-- A file is reached by its name. -/
theorem resolve_of_find (rooted : tree.IsRooted)
    (found : tree.find path = .ok (location, .file mode content)) :
    tree.resolve path = .ok (.named location) := by
  obtain ⟨target, resolved, rfl, isFile⟩ := exists_of_find_eq_ok found
  cases target with
  | named location => exact resolved
  | unnamed location =>
      have walked := (resolve_eq_ok_iff.mp resolved).2.2.2
      cases isFile.symm.trans (rooted.node?_of_walk (rooted.node?_base path) walked)

end IsRooted

/-- A file can be removed where it is found. -/
theorem remove_of_find (resolved : tree.resolve path = .ok (.named location))
    (found : tree.find path = .ok (location, .file mode content)) :
    tree.remove path = .ok (tree.erase location) := by
  simp only [find, remove, resolved, bind, Except.bind, Target.location] at found ⊢
  split at found
  · cases found
  · cases found
  · split at found
    · cases found
    · exact if_neg ‹_›

/-- A file that is removed is not found any more. -/
theorem find_erase (below : location ≠ []) (resolved : tree.resolve path = .ok (.named location))
    (isFile : tree.node? location = some (.file mode content)) :
    (tree.erase location).find path = .error .notFound := by
  have stillLeads : (tree.erase location).resolve path = .ok (.named location) := by
    refine @resolve_of_directories tree _ path _ rfl (fun place isDirectory => ?_) resolved
    have elsewhere : place ≠ location := by
      rintro rfl
      cases isDirectory.symm.trans isFile
    rwa [node?_erase_of_ne elsewhere]
  simp only [find, stillLeads, bind, Except.bind, Target.location, node?_erase_self below]

/-- What can be read can be removed, and then it is gone. -/
theorem IsRooted.remove_of_read (rooted : tree.IsRooted) (reads : tree.read path = .ok content) :
    tree.remove path = .ok (tree.erase (path.place tree.start)) ∧
      (tree.erase (path.place tree.start)).read path = .error .notFound := by
  obtain ⟨location, mode, found, _⟩ := read_eq_ok_iff.mp reads
  have resolved := rooted.resolve_of_find found
  obtain rfl : location = path.place tree.start := location_of_resolve_eq_ok resolved
  obtain ⟨_, _, _, isFile⟩ := exists_of_find_eq_ok found
  have below : path.place tree.start ≠ [] := by
    intro root
    rw [root, node?, if_pos rfl] at isFile
    cases isFile
  refine ⟨remove_of_find resolved found, ?_⟩
  rw [read, find_erase below resolved isFile]

end SeedVault.FileTree
