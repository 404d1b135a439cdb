/-
Who can read the vault. A put gives the file the mode of the draft: a new draft is private, and one
that was there keeps the mode it had. A file store leaves no other draft than a private one, however
it is interrupted.
-/

import SeedVault.Machine
import SeedVault.Proofs.Store.Modes
import SeedVault.Proofs.Text.Utf8

namespace SeedVault

namespace FileTree

variable {tree : FileTree} {location : Location}

/-- If there is a file at a location, then only its owner can use it. -/
def IsPrivate (tree : FileTree) (location : Location) : Prop :=
  ∀ mode, tree.mode? location = some mode → mode = privateMode

theorem isPrivate_iff_getD :
    tree.IsPrivate location ↔ (tree.mode? location).getD privateMode = privateMode := by
  unfold IsPrivate
  cases tree.mode? location <;> simp

instance : Decidable (tree.IsPrivate location) :=
  decidable_of_iff _ isPrivate_iff_getD.symm

end FileTree

/-- The draft for a path is a file with a mode and a content. -/
structure HasDraft (path : Path) (start : Location) (mode : Nat) (content : List UInt8)
    (tree : FileTree) : Prop where
  starts : tree.start = start
  node : tree.node? (Store.draftPlace path start) = some (.file mode content)

section draft

variable {path : Path} {start : Location} {mode : Nat} {content bytes : List UInt8}
  {tree after : FileTree}

theorem hasDraft_of_openEmpty (opened : tree.openEmpty (Store.draftPath path) = .ok after) :
    HasDraft path tree.start
      ((tree.mode? (Store.draftPlace path tree.start)).getD FileTree.privateMode) [] after := by
  obtain ⟨location, resolved, notDirectory, rfl⟩ := FileTree.exists_of_openEmpty_eq_ok opened
  obtain rfl : location = Store.draftPlace path tree.start :=
    FileTree.location_of_resolve_eq_ok resolved
  exact ⟨rfl, FileTree.node?_insert_self (FileTree.ne_nil_of_node? rfl notDirectory)⟩

theorem HasDraft.append (has : HasDraft path start mode content tree)
    (appended : tree.append (Store.draftPath path) bytes = .ok after) :
    HasDraft path start mode (content ++ bytes) after := by
  obtain ⟨location, mode', content', found, rfl⟩ := FileTree.exists_of_append_eq_ok appended
  obtain ⟨reached, resolved, rfl, isFile⟩ := FileTree.exists_of_find_eq_ok found
  have here : reached.location = Store.draftPlace path start := by
    rw [FileTree.location_of_resolve_eq_ok resolved, has.starts, Store.draftPlace]
  rw [here, has.node] at isFile
  cases isFile
  refine ⟨has.starts, ?_⟩
  rw [here]
  exact FileTree.node?_insert_self (FileTree.ne_nil_of_node? has.node (by simp))

/-- The draft is found at the path of the file when it has taken its place. -/
theorem HasDraft.find_of_rename (has : HasDraft path start mode content tree)
    (renamed : tree.rename (Store.draftPath path) path = .ok after) :
    after.find path = .ok (path.place start, .file mode content) := by
  obtain ⟨old, new, mode', content', oldResolved, newResolved, isFile, noSlash, free, rfl⟩ :=
    FileTree.exists_of_rename_eq_ok renamed
  have oldHere : old = (Store.draftPath path).place tree.start :=
    FileTree.location_of_resolve_eq_ok oldResolved
  have newHere : new = path.place tree.start := FileTree.location_of_resolve_eq_ok newResolved
  rw [has.starts] at oldHere newHere
  rw [← Store.draftPlace] at oldHere
  rw [oldHere, has.node] at isFile
  cases isFile
  have stillLeads : ((tree.erase old).insert new (.file mode content)).resolve path =
      .ok (.named new) := by
    refine @FileTree.resolve_of_directories tree _ path _ rfl (fun place isDirectory => ?_) newResolved
    have notNew : place ≠ new := by
      rintro rfl
      exact free isDirectory
    have notOld : place ≠ old := by
      rintro rfl
      rw [oldHere, has.node] at isDirectory
      cases isDirectory
    rw [FileTree.node?_insert_of_ne notNew, FileTree.node?_erase_of_ne notOld, isDirectory]
  have isThere : ((tree.erase old).insert new (.file mode content)).node? new =
      some (.file mode content) :=
    FileTree.node?_insert_self (FileTree.ne_nil_of_node? rfl free)
  rw [← newHere]
  exact FileTree.find_eq_ok_of_file stillLeads noSlash isThere

end draft

section put

variable {path : Path} {vault : Vault} {machine after : Machine}

/-- A step on the disk that succeeds is done on the disk. -/
theorem Machine.disk_of_step_eq_ok {action : StateM Machine (Except DiskError Unit)}
    {done : Unit} (operation : FileTree → Except DiskError FileTree)
    (isStep : ∀ machine, action.run machine = machine.onDisk operation)
    (worked : execute (ExceptT.mk action) machine = (.ok done, after)) :
    operation machine.disk = .ok after.disk := by
  change action.run machine = _ at worked
  rw [isStep, onDisk] at worked
  split at worked
  · cases worked
    assumption
  · cases worked

theorem Machine.sameModes_ensureDirectories (paths : List Path) (machine : Machine) :
    FileTree.SameModes machine.disk (execute (Disk.ensureDirectories paths) machine).2.disk := by
  refine @Leads.ensureDirectories Machine
    (fun machine after => FileTree.SameModes machine.disk after.disk) _ (fun _ => .refl)
    (fun _ _ _ => .trans) (fun _ _ => .refl) _ ?_ machine
  intro path _ machine
  change FileTree.SameModes machine.disk (machine.onDisk (·.makeDirectory path)).2.disk
  unfold onDisk
  split
  · exact FileTree.sameModes_of_makeDirectory ‹_›
  · exact .refl

namespace Store

/-- A vault that was written is found at its path, with the mode of the draft. -/
theorem find_of_writeFile_eq_ok (wrote : execute (writeFile path vault) machine = (.ok (), after)) :
    after.disk.find path = .ok (path.place machine.disk.start,
      .file ((machine.disk.mode? (draftPlace path machine.disk.start)).getD FileTree.privateMode)
        (Text.utf8 (vault.prettyText ++ "\n"))) := by
  obtain ⟨_, prepared, made, wrote⟩ := execute_bind_eq_ok_iff.mp wrote
  obtain ⟨_, emptied, opened, wrote⟩ := execute_bind_eq_ok_iff.mp wrote
  obtain ⟨_, filled, appended, wrote⟩ := execute_bind_eq_ok_iff.mp wrote
  obtain ⟨_, ended, appendedEnd, renamed⟩ := execute_bind_eq_ok_iff.mp wrote
  have same := Machine.sameModes_ensureDirectories path.ancestors machine
  rw [made] at same
  have opened : prepared.disk.openEmpty (draftPath path) = .ok emptied.disk :=
    Machine.disk_of_step_eq_ok (·.openEmpty (draftPath path)) (fun _ => rfl) opened
  have appended : emptied.disk.append (draftPath path) (Text.utf8 vault.prettyText) = .ok filled.disk :=
    Machine.disk_of_step_eq_ok (·.append (draftPath path) (Text.utf8 vault.prettyText))
      (fun _ => rfl) appended
  have appendedEnd : filled.disk.append (draftPath path) (Text.utf8 "\n") = .ok ended.disk :=
    Machine.disk_of_step_eq_ok (·.append (draftPath path) (Text.utf8 "\n")) (fun _ => rfl) appendedEnd
  have renamed : ended.disk.rename (draftPath path) path = .ok after.disk :=
    Machine.disk_of_step_eq_ok (·.rename (draftPath path) path) (fun _ => rfl) renamed
  have drafted := ((hasDraft_of_openEmpty opened).append appended).append appendedEnd
  have found := drafted.find_of_rename renamed
  rwa [same.start, same.modes, List.nil_append, ← Text.utf8_append] at found

end Store

end put

/-- A use of a file store. -/
inductive Visit
  | get
  | put (vault : Vault)
  | clear

namespace Visit

variable {path : Path}

/-- What a process leaves on a disk that uses a file store once, with some fates for its steps. -/
def leave (path : Path) (visit : Visit) (fates : List Fate) (tree : FileTree) : FileTree :=
  match visit with
  | get => (execute (Store.file path).get (⟨tree, fates, false⟩ : FaultyDisk)).2.tree
  | put vault => (execute ((Store.file path).put vault) (⟨tree, fates, false⟩ : FaultyDisk)).2.tree
  | clear => (execute (Store.file path).clear (⟨tree, fates, false⟩ : FaultyDisk)).2.tree

/-- What is left by one process after the other. -/
def leaveAll (path : Path) : List (Visit × List Fate) → FileTree → FileTree
  | [], tree => tree
  | (visit, fates) :: visits, tree => leaveAll path visits (visit.leave path fates tree)

theorem keepsPrivate_leave (visit : Visit) (fates : List Fate) (tree : FileTree) :
    KeepsModes (· = FileTree.privateMode) path tree (visit.leave path fates tree) := by
  cases visit with
  | get => exact Store.get_staysAccepted _ path ⟨tree, fates, false⟩
  | put vault => exact Store.put_staysAccepted (· = FileTree.privateMode) path rfl vault ⟨tree, fates, false⟩
  | clear => exact Store.clear_staysAccepted _ path ⟨tree, fates, false⟩

/-- However often a file store is used, and wherever that is interrupted, what was private stays
private. -/
theorem keepsPrivate_leaveAll (visits : List (Visit × List Fate)) (tree : FileTree) :
    KeepsModes (· = FileTree.privateMode) path tree (leaveAll path visits tree) := by
  induction visits generalizing tree with
  | nil => exact .refl
  | cons visit visits ih => exact (keepsPrivate_leave visit.1 visit.2 tree).trans (ih _)

end Visit

namespace Store

variable {path : Path} {vault : Vault} {machine after : Machine}

/-- After a put that succeeds, the vault is at the path, with the mode of the draft that was there
before, and private if there was none. So it is private exactly if the draft was, as it is when all
drafts since a private one come from the store, wherever that was interrupted. -/
theorem put_private_iff (worked : execute ((file path).put vault) machine = (.ok (), after)) :
    ∃ mode, after.disk.find path = .ok (path.place machine.disk.start,
        .file mode (Text.utf8 (vault.prettyText ++ "\n"))) ∧
      mode = (machine.disk.mode? (draftPlace path machine.disk.start)).getD FileTree.privateMode ∧
      (mode = FileTree.privateMode ↔ machine.disk.IsPrivate (draftPlace path machine.disk.start)) ∧
      ∀ visits tree, machine.disk = Visit.leaveAll path visits tree →
        tree.IsPrivate (draftPlace path tree.start) → mode = FileTree.privateMode := by
  have wrote : execute (writeFile path vault) machine = (.ok (), after) :=
    execute_adapt_eq_ok_iff.mp worked
  refine ⟨_, find_of_writeFile_eq_ok wrote, rfl, FileTree.isPrivate_iff_getD.symm,
    fun visits tree left isPrivate => ?_⟩
  have keeps : KeepsModes (· = FileTree.privateMode) path tree machine.disk := by
    rw [left]
    exact Visit.keepsPrivate_leaveAll visits tree
  apply FileTree.isPrivate_iff_getD.mp
  rw [keeps.start]
  exact keeps.only isPrivate _ isPrivate

/-- A put after one that was interrupted. -/
theorem put_private_iff_interrupted :
    let path : Path := ⟨"vault.json", []⟩
    let vault : Vault := ⟨Vector.replicate 32 1, Vector.replicate 16 2, Vector.replicate 16 3, none⟩
    let tree : FileTree := { start := [], nodes := [(["vault.json"], .file 0o644 [1, 2])] }
    let left := Visit.leaveAll path [(.put vault, [.works, .stopsWithin 5])] tree
    let ran := execute ((file path).put vault) { disk := left : Machine }
    ran.1 = .ok () ∧ left.mode? ["vault.json.tmp"] = some 0o600 ∧
      ran.2.disk.find path =
        .ok (["vault.json"], .file 0o600 (Text.utf8 (vault.prettyText ++ "\n"))) := by
  intro path vault tree left ran
  have works : ran.1 = .ok () := by decide +kernel
  have drafted : left.mode? ["vault.json.tmp"] = some 0o600 := by decide +kernel
  have start : left.start = [] := (Visit.keepsPrivate_leaveAll _ tree).start
  have isRan : execute ((file path).put vault) { disk := left : Machine } = ran := rfl
  have isLeft : left = Visit.leaveAll path [(.put vault, [.works, .stopsWithin 5])] tree := rfl
  clear_value ran left
  obtain ⟨mode, found, _, _, isPrivate⟩ := put_private_iff (isRan.trans (Prod.ext works rfl))
  rw [isPrivate _ tree isLeft (by decide), start] at found
  exact ⟨works, drafted, found⟩

/-- A draft that others can read makes a vault that others can read. -/
theorem put_not_private :
    let path : Path := ⟨"vault.json", []⟩
    let vault : Vault := ⟨Vector.replicate 32 1, Vector.replicate 16 2, Vector.replicate 16 3, none⟩
    let tree : FileTree :=
      { start := [], nodes := [(["vault.json.tmp"], .file 0o644 [104, 97, 108, 102])] }
    let ran := execute ((file path).put vault) { disk := tree : Machine }
    ran.1 = .ok () ∧ ran.2.disk.mode? (path.place tree.start) = some 0o644 ∧
      0o644 ≠ FileTree.privateMode := by
  decide +kernel

end Store

end SeedVault
