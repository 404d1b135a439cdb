/-
The modes of files. A new draft is private, a draft that was there keeps its mode, and a file that
takes another path keeps its mode there. So a store leaves no other modes than those of the draft and
of a new file, wherever it is interrupted.
-/

import SeedVault.Proofs.Store.Interruption
import SeedVault.Proofs.Store.Spares

namespace SeedVault

namespace FileTree

variable {tree after : FileTree} {path source target : Path} {location place : Location} {node : Node}

/-- The root is a directory. -/
theorem ne_nil_of_node? {found : Option Node} (isThere : tree.node? location = found)
    (notDirectory : found ≠ some .directory) : location ≠ [] := by
  rintro rfl
  exact notDirectory (isThere.symm.trans (if_pos rfl))

theorem mode?_insert_self (below : location ≠ []) :
    (tree.insert location node).mode? location = node.mode? := by
  rw [mode?, node?_insert_self below, Option.bind_some]

@[simp] theorem mode?_insert_of_ne (different : place ≠ location) :
    (tree.insert location node).mode? place = tree.mode? place := by
  rw [mode?, node?_insert_of_ne different, mode?]

@[simp] theorem mode?_erase_of_ne (different : place ≠ location) :
    (tree.erase location).mode? place = tree.mode? place := by
  rw [mode?, node?_erase_of_ne different, mode?]

theorem mode?_of_file {mode : Nat} {content : List UInt8}
    (isFile : tree.node? location = some (.file mode content)) : tree.mode? location = some mode := by
  rw [mode?, isFile, Option.bind_some, Node.mode?]

/-- The files are the same, and their modes. -/
structure SameModes (tree after : FileTree) : Prop extends SameProcess tree after where
  modes : ∀ place, after.mode? place = tree.mode? place

theorem SameModes.refl : SameModes tree tree :=
  ⟨.refl, fun _ => rfl⟩

theorem SameModes.trans {last : FileTree} (first : SameModes tree after) (second : SameModes after last) :
    SameModes tree last :=
  ⟨first.toSameProcess.trans second.toSameProcess,
    fun place => (second.modes place).trans (first.modes place)⟩

theorem sameModes_insert (below : location ≠ []) (same : node.mode? = tree.mode? location) :
    SameModes tree (tree.insert location node) := by
  refine ⟨.insert .refl, fun place => ?_⟩
  by_cases here : place = location
  · rw [here, mode?_insert_self below, same]
  · exact mode?_insert_of_ne here

theorem sameModes_of_makeDirectory (made : tree.makeDirectory path = .ok after) :
    SameModes tree after := by
  obtain ⟨location, _, absent, rfl⟩ := exists_of_makeDirectory_eq_ok made
  have below : location ≠ [] := ne_nil_of_node? absent (by simp)
  exact sameModes_insert below (by rw [mode?, absent, Option.bind_none, Node.mode?])

theorem sameModes_of_append {bytes : List UInt8} (appended : tree.append path bytes = .ok after) :
    SameModes tree after := by
  obtain ⟨location, mode, content, found, rfl⟩ := exists_of_append_eq_ok appended
  obtain ⟨_, _, _, isFile⟩ := exists_of_find_eq_ok found
  have below : location ≠ [] := ne_nil_of_node? isFile (by simp)
  exact sameModes_insert below (by rw [mode?_of_file isFile, Node.mode?])

/-- If there is a file at a location, its mode is an accepted one. -/
def HasOnly (tree : FileTree) (accepted : Nat → Prop) (location : Location) : Prop :=
  ∀ mode, tree.mode? location = some mode → accepted mode

namespace HasOnly

variable {accepted : Nat → Prop}

theorem of_sameModes (only : tree.HasOnly accepted place) (same : SameModes tree after) :
    after.HasOnly accepted place := by
  intro mode found
  rw [same.modes] at found
  exact only mode found

theorem insert (only : tree.HasOnly accepted place) (below : location ≠ [])
    (inserted : ∀ mode, node.mode? = some mode → place = location → accepted mode) :
    (tree.insert location node).HasOnly accepted place := by
  intro mode found
  by_cases here : place = location
  · rw [here, mode?_insert_self below] at found
    exact inserted mode found here
  · rw [mode?_insert_of_ne here] at found
    exact only mode found

theorem erase (only : tree.HasOnly accepted place) (below : location ≠ []) :
    (tree.erase location).HasOnly accepted place := by
  intro mode found
  by_cases here : place = location
  · rw [here, mode?, node?_erase_self below] at found
    cases found
  · rw [mode?_erase_of_ne here] at found
    exact only mode found

/-- A file that is emptied keeps its mode, and a new one is private. -/
theorem openEmpty (only : tree.HasOnly accepted place) (isPrivate : accepted privateMode)
    (opened : tree.openEmpty path = .ok after) : after.HasOnly accepted place := by
  obtain ⟨location, _, notDirectory, rfl⟩ := exists_of_openEmpty_eq_ok opened
  apply only.insert (ne_nil_of_node? rfl notDirectory)
  rintro mode ⟨⟩ rfl
  cases found : tree.mode? place with
  | none => exact isPrivate
  | some mode => exact only mode found

/-- A file that takes another path has the same mode there. -/
theorem rename (only : tree.HasOnly accepted place)
    (source_only : tree.HasOnly accepted (source.place tree.start))
    (renamed : tree.rename source target = .ok after) : after.HasOnly accepted place := by
  obtain ⟨old, new, mode, content, resolved, _, isFile, _, free, rfl⟩ :=
    exists_of_rename_eq_ok renamed
  obtain rfl : old = source.place tree.start := location_of_resolve_eq_ok resolved
  have oldBelow : source.place tree.start ≠ [] := ne_nil_of_node? isFile (by simp)
  apply (only.erase oldBelow).insert (ne_nil_of_node? rfl free)
  rintro _ ⟨⟩ _
  exact source_only mode (mode?_of_file isFile)

theorem remove (only : tree.HasOnly accepted place) (removed : tree.remove path = .ok after) :
    after.HasOnly accepted place := by
  obtain ⟨location, _, _, _, isFile, rfl⟩ := exists_of_remove_eq_ok removed
  exact only.erase (ne_nil_of_node? isFile (by simp))

end HasOnly

end FileTree

/-- Where the draft for a path is. -/
def Store.draftPlace (path : Path) (start : Location) : Location :=
  (draftPath path).place start

/-- Where there were only accepted modes there still are, if the draft had one of them. -/
structure KeepsModes (accepted : Nat → Prop) (path : Path) (before after : FileTree) : Prop
    extends FileTree.SameProcess before after where
  only : before.HasOnly accepted (Store.draftPlace path before.start) →
    ∀ place, before.HasOnly accepted place → after.HasOnly accepted place

namespace KeepsModes

variable {accepted : Nat → Prop} {path : Path} {tree before middle after : FileTree}
  {disk : FaultyDisk}

theorem refl : KeepsModes accepted path tree tree :=
  ⟨.refl, fun _ _ only => only⟩

theorem trans (first : KeepsModes accepted path before middle)
    (second : KeepsModes accepted path middle after) : KeepsModes accepted path before after := by
  refine ⟨first.toSameProcess.trans second.toSameProcess, fun draft place only => ?_⟩
  have middleDraft : middle.HasOnly accepted (Store.draftPlace path middle.start) := by
    rw [first.start]
    exact first.only draft _ draft
  exact second.only middleDraft place (first.only draft place only)

theorem of_sameModes (same : FileTree.SameModes before after) : KeepsModes accepted path before after :=
  ⟨same.toSameProcess, fun _ _ only => only.of_sameModes same⟩

theorem of_openEmpty {file : Path} (isPrivate : accepted FileTree.privateMode)
    (opened : before.openEmpty file = .ok after) : KeepsModes accepted path before after := by
  refine ⟨?_, fun _ _ only => only.openEmpty isPrivate opened⟩
  obtain ⟨_, _, _, rfl⟩ := FileTree.exists_of_openEmpty_eq_ok opened
  exact .insert .refl

theorem of_rename {target : Path} (renamed : before.rename (Store.draftPath path) target = .ok after) :
    KeepsModes accepted path before after := by
  refine ⟨?_, fun draft _ only => only.rename draft renamed⟩
  obtain ⟨_, _, _, _, _, _, _, _, _, rfl⟩ := FileTree.exists_of_rename_eq_ok renamed
  exact .insert (.erase .refl)

theorem of_remove {file : Path} (removed : before.remove file = .ok after) :
    KeepsModes accepted path before after := by
  refine ⟨?_, fun _ _ only => only.remove removed⟩
  obtain ⟨_, _, _, _, _, rfl⟩ := FileTree.exists_of_remove_eq_ok removed
  exact .erase .refl

/-- The draft can still be used, if no modes are left but those with which it could be used. -/
theorem grants (keeps : KeepsModes
      (fun mode => before.mayRead mode = true ∧ before.mayWrite mode = true) path before after)
    (isNamed : (Store.draftPath path).IsNamed) (grants : before.Grants path) : after.Grants path := by
  have draft : before.HasOnly (fun mode => before.mayRead mode = true ∧ before.mayWrite mode = true)
      (Store.draftPlace path before.start) := by
    rw [Store.draftPlace, isNamed.place_eq]
    exact grants
  intro mode found
  rw [keeps.start, ← isNamed.place_eq] at found
  rw [keeps.mayRead_eq, keeps.mayWrite_eq]
  exact keeps.only draft _ draft mode found

/-- A step is as harmless with any fate as when it is done. -/
theorem takeWhole {step : FileTree → Except DiskError FileTree}
    (stepped : ∀ after, step disk.tree = .ok after → KeepsModes accepted path disk.tree after) :
    KeepsModes accepted path disk.tree (FaultyDisk.takeWhole step disk).2.tree :=
  FaultyDisk.take_of .refl (fun _ => .refl) stepped

theorem append (file : Path) (bytes : List UInt8) (disk : FaultyDisk) :
    KeepsModes accepted path disk.tree
      ((Disk.append file bytes : StateM FaultyDisk (Except DiskError Unit)).run disk).2.tree := by
  have appends (part : List UInt8) (after : FileTree) (appended : disk.tree.append file part = .ok after) :
      KeepsModes accepted path disk.tree after :=
    .of_sameModes (FileTree.sameModes_of_append appended)
  exact FaultyDisk.take_of .refl (fun written => FaultyDisk.settle_of .refl (appends (bytes.take written)))
    (appends bytes)

end KeepsModes

namespace Store

variable (accepted : Nat → Prop) (path : Path)

/-- There are no more modes on a disk than there were before. -/
def StaysAccepted (disk after : FaultyDisk) : Prop :=
  KeepsModes accepted path disk.tree after.tree

variable {accepted path}

theorem StaysAccepted.refl (disk : FaultyDisk) : StaysAccepted accepted path disk disk :=
  KeepsModes.refl

theorem StaysAccepted.trans (first second third : FaultyDisk)
    (before : StaysAccepted accepted path first second)
    (after : StaysAccepted accepted path second third) : StaysAccepted accepted path first third :=
  KeepsModes.trans before after

theorem StaysAccepted.of_tree_eq {disk after : FaultyDisk} (same : after.tree = disk.tree) :
    StaysAccepted accepted path disk after := by
  rw [StaysAccepted, same]
  exact .refl

variable (accepted path)

theorem get_staysAccepted : Leads (StaysAccepted accepted path) (file path).get := by
  refine Leads.bind StaysAccepted.trans ((unlessMissing_leads StaysAccepted.refl StaysAccepted.trans
    (Leads.bind StaysAccepted.trans ?reading fun bytes => ?decoding)).adapt _) fun text => ?parsing
  case reading => exact fun disk => .of_tree_eq (tree_read path disk)
  case decoding =>
    split
    · exact .pure .refl _
    · exact .throw .refl _
  case parsing =>
    cases text with
    | none => exact .pure .refl _
    | some text => exact Leads.map .refl _

theorem put_staysAccepted (isPrivate : accepted FileTree.privateMode) (vault : Vault) :
    Leads (StaysAccepted accepted path) ((file path).put vault) := by
  refine (Leads.bind StaysAccepted.trans ?above fun _ => .bind StaysAccepted.trans ?emptied fun _ =>
    .bind StaysAccepted.trans ?written fun _ => .bind StaysAccepted.trans ?ended fun _ =>
      ?moved).adapt _
  case above =>
    apply Leads.ensureDirectories StaysAccepted.refl StaysAccepted.trans
    · exact fun directory disk => .of_tree_eq (tree_isDirectory directory disk)
    · exact fun directory _ disk => KeepsModes.takeWhole fun after made =>
        .of_sameModes (FileTree.sameModes_of_makeDirectory made)
  case emptied => exact fun disk => KeepsModes.takeWhole fun after => .of_openEmpty isPrivate
  case written => exact KeepsModes.append (draftPath path) _
  case ended => exact KeepsModes.append (draftPath path) _
  case moved => exact fun disk => KeepsModes.takeWhole fun after => .of_rename

theorem clear_staysAccepted : Leads (StaysAccepted accepted path) (file path).clear := by
  refine (Leads.bind StaysAccepted.trans (unlessMissing_leads StaysAccepted.refl StaysAccepted.trans
    ?removed) fun _ => .pure .refl _).adapt _
  exact fun disk => KeepsModes.takeWhole fun after => .of_remove

end Store

end SeedVault
