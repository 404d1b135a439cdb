/-
What a file store changes on a disk: the directories above its file are made, and files are put
at the places of the file and the draft.
-/

import SeedVault.Proofs.Disk.Reach
import SeedVault.Proofs.Store.Place

namespace SeedVault

/-- Nothing is different but directories above a path, which were missing, and what is at the
places of some files. -/
structure Confined (path : Path) (files : List Path) (before after : FileTree) : Prop
    extends FileTree.SameProcess before after where
  nodes : ∀ place, after.node? place = before.node? place ∨
    (path.IsAbove before.start place ∧ before.node? place = none ∧
      after.node? place = some .directory) ∨
    ((∃ file ∈ files, place = file.location before.start) ∧ after.node? place ≠ some .directory)

/-- No file is a directory above the path. -/
def Apart (path : Path) (files : List Path) : Prop :=
  ∀ file ∈ files, ∀ start, ¬ path.IsAbove start (file.location start)

namespace Confined

variable {path file : Path} {files : List Path} {tree before middle after : FileTree}
  {location : Location}

theorem refl : Confined path files tree tree :=
  ⟨.refl, fun _ => .inl rfl⟩

theorem trans (apart : Apart path files) (first : Confined path files before middle)
    (second : Confined path files middle after) : Confined path files before after := by
  refine ⟨first.toSameProcess.trans second.toSameProcess, fun place => ?_⟩
  have changed := second.nodes place
  rw [first.start] at changed
  rcases changed with same | ⟨above, absent, isDirectory⟩ | isFile
  · rw [same]
    exact first.nodes place
  · rcases first.nodes place with same | ⟨_, _, made⟩ | ⟨⟨file, member, here⟩, _⟩
    · exact .inr (.inl ⟨above, same ▸ absent, isDirectory⟩)
    · rw [made] at absent
      cases absent
    · rw [here] at above
      exact absurd above (apart file member before.start)
  · exact .inr (.inr isFile)

theorem mono {more : List Path} (confined : Confined path files before after)
    (subset : files ⊆ more) : Confined path more before after := by
  refine ⟨confined.toSameProcess, fun place => ?_⟩
  rcases confined.nodes place with same | made | ⟨⟨file, member, here⟩, notDirectory⟩
  · exact .inl same
  · exact .inr (.inl made)
  · exact .inr (.inr ⟨⟨file, subset member, here⟩, notDirectory⟩)

theorem insert_directory (above : path.IsAbove tree.start location) (absent : tree.node? location = none)
    (below : location ≠ []) : Confined path files tree (tree.insert location .directory) := by
  refine ⟨.insert .refl, fun place => ?_⟩
  by_cases here : place = location
  · subst here
    exact .inr (.inl ⟨above, absent, FileTree.node?_insert_self below⟩)
  · exact .inl (FileTree.node?_insert_of_ne here)

theorem insert_file {mode : Nat} {content : List UInt8} (member : file ∈ files)
    (isNamed : file.IsNamed) :
    Confined path files tree (tree.insert (file.location tree.start) (.file mode content)) := by
  refine ⟨.insert .refl, fun place => ?_⟩
  by_cases here : place = file.location tree.start
  · refine .inr (.inr ⟨⟨file, member, here⟩, ?_⟩)
    rw [here, FileTree.node?_insert_self (isNamed.location_ne_nil _)]
    simp
  · exact .inl (FileTree.node?_insert_of_ne here)

theorem erase (member : file ∈ files) (isNamed : file.IsNamed) :
    Confined path files tree (tree.erase (file.location tree.start)) := by
  refine ⟨.erase .refl, fun place => ?_⟩
  by_cases here : place = file.location tree.start
  · refine .inr (.inr ⟨⟨file, member, here⟩, ?_⟩)
    rw [here, FileTree.node?_erase_self (isNamed.location_ne_nil _)]
    simp
  · exact .inl (FileTree.node?_erase_of_ne here)

/-- What is neither above the path nor among the files stays as it is. -/
theorem node?_eq (confined : Confined path files before after) {place : Location}
    (notAbove : ¬ path.IsAbove before.start place)
    (notFile : ∀ file ∈ files, place ≠ file.location before.start) :
    after.node? place = before.node? place := by
  rcases confined.nodes place with same | ⟨above, _⟩ | ⟨⟨file, member, here⟩, _⟩
  · exact same
  · exact absurd above notAbove
  · exact absurd here (notFile file member)

end Confined

section operations

variable {path file : Path} {files : List Path} {tree after : FileTree}

theorem confined_of_makeDirectory (isNamed : file.IsNamed)
    (above : path.IsAbove tree.start (file.location tree.start))
    (made : tree.makeDirectory file = .ok after) : Confined path files tree after := by
  obtain ⟨absent, rfl⟩ := FileTree.eq_of_makeDirectory_eq_ok isNamed made
  exact .insert_directory above absent (isNamed.location_ne_nil _)

theorem confined_of_openEmpty (member : file ∈ files) (isNamed : file.IsNamed)
    (opened : tree.openEmpty file = .ok after) : Confined path files tree after := by
  obtain ⟨mode, rfl⟩ := FileTree.eq_of_openEmpty_eq_ok isNamed opened
  exact .insert_file member isNamed

theorem confined_of_append {bytes : List UInt8} (member : file ∈ files) (isNamed : file.IsNamed)
    (appended : tree.append file bytes = .ok after) : Confined path files tree after := by
  obtain ⟨mode, content, _, rfl⟩ := FileTree.eq_of_append_eq_ok isNamed appended
  exact .insert_file member isNamed

theorem confined_of_rename {source : Path} (apart : Apart path files) (sourceMember : source ∈ files)
    (sourceNamed : source.IsNamed) (member : file ∈ files) (isNamed : file.IsNamed)
    (renamed : tree.rename source file = .ok after) : Confined path files tree after := by
  obtain ⟨mode, content, _, rfl⟩ := FileTree.eq_of_rename_eq_ok sourceNamed isNamed renamed
  exact .trans apart (.erase sourceMember sourceNamed)
    (.insert_file member isNamed)

end operations

namespace Path.Layout

variable {path : Path} {names : List String} {name : String}

theorem apart_draft (layout : Layout path names name) : Apart path [Store.draftPath path] := by
  intro file member start
  rw [List.mem_singleton.mp member]
  exact layout.not_isAbove_draft start

theorem apart_files (layout : Layout path names name) : Apart path [Store.draftPath path, path] := by
  intro file member start
  simp only [List.mem_cons, List.not_mem_nil, or_false] at member
  rcases member with rfl | rfl
  · exact layout.not_isAbove_draft start
  · exact layout.not_isAbove_location start

end Path.Layout

/-- A disk on which nothing is in the way of a file store. -/
structure FileTree.Admits (tree : FileTree) (path : Path) : Prop where
  isClear : tree.IsClear path
  notDirectory : tree.node? (path.location tree.start) ≠ some .directory
  draftNotDirectory : tree.node? ((Store.draftPath path).location tree.start) ≠ some .directory

/-- The program may use the draft for a path, if there is one. -/
def FileTree.Grants (tree : FileTree) (path : Path) : Prop :=
  ∀ mode, tree.mode? ((Store.draftPath path).location tree.start) = some mode →
    tree.mayRead mode = true ∧ tree.mayWrite mode = true

namespace FileTree.Grants

variable {path : Path} {tree after : FileTree}

/-- The program may read the draft also if it is a new one. -/
theorem mayRead (grants : tree.Grants path) :
    tree.mayRead ((tree.mode? ((Store.draftPath path).location tree.start)).getD privateMode) =
      true := by
  cases found : tree.mode? ((Store.draftPath path).location tree.start) with
  | none => exact tree.mayRead_privateMode
  | some mode => exact (grants mode found).1

theorem of_none (absent : tree.node? ((Store.draftPath path).location tree.start) = none) :
    tree.Grants path := by
  intro mode found
  rw [mode?, absent] at found
  cases found

theorem of_node?_eq (grants : tree.Grants path) (same : SameProcess tree after)
    (kept : after.node? ((Store.draftPath path).location tree.start) =
      tree.node? ((Store.draftPath path).location tree.start)) : after.Grants path := by
  intro mode found
  rw [same.start, mode?, kept] at found
  rw [same.mayRead_eq, same.mayWrite_eq]
  exact grants mode found

end FileTree.Grants

/-- Nothing is in the way on an empty disk. -/
theorem FileTree.admits_of_empty {path : Path} (plain : path.IsPlain) (start : Location) :
    ({ start } : FileTree).Admits path := by
  obtain ⟨names, name, layout⟩ := plain.exists_layout
  have empty {place : Location} (below : place ≠ []) : ({ start } : FileTree).node? place = none := by
    rw [node?, if_neg below]
    rfl
  refine ⟨?_, ?_, ?_⟩
  · intro place _ mode content
    unfold node?
    split <;> simp
  · rw [empty (plain.isNamed.location_ne_nil start)]
    simp
  · rw [empty ((layout.draft_isNamed plain).location_ne_nil start)]
    simp

section

variable {path : Path} {names : List String} {name : String} {files : List Path}
  {before after : FileTree}

/-- What a file store may change is never in its own way. -/
theorem Confined.admits (confined : Confined path files before after) (layout : path.Layout names name)
    (apart : Apart path files) (admits : before.Admits path) : after.Admits path where
  isClear place above mode content isFile := by
    rw [confined.start] at above
    rcases confined.nodes place with same | ⟨_, _, isDirectory⟩ | ⟨⟨file, member, rfl⟩, _⟩
    · exact admits.isClear place above mode content (same ▸ isFile)
    · rw [isDirectory] at isFile
      cases isFile
    · exact apart file member _ above
  notDirectory := by
    rw [confined.start]
    rcases confined.nodes (path.location before.start) with same | ⟨above, _⟩ | ⟨_, notDirectory⟩
    · rw [same]
      exact admits.notDirectory
    · exact absurd above (layout.not_isAbove_location _)
    · exact notDirectory
  draftNotDirectory := by
    rw [confined.start]
    rcases confined.nodes ((Store.draftPath path).location before.start) with
      same | ⟨above, _⟩ | ⟨_, notDirectory⟩
    · rw [same]
      exact admits.draftNotDirectory
    · exact absurd above (layout.not_isAbove_draft _)
    · exact notDirectory

end

end SeedVault
