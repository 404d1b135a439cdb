/-
What a file store reads and removes, and what it leaves. A file that it has written holds the
vault, and nothing else is different but the directories and the draft.
-/

import SeedVault.Proofs.Disk.Reading
import SeedVault.Proofs.Store.Working
import SeedVault.Proofs.Vault.Text

namespace SeedVault

/-- There is no file, or the file holds a text of the vault. -/
def FileTree.Holds (tree : FileTree) (path : Path) : Option Vault → Prop
  | none => tree.read path = .error .notFound
  | some vault => ∃ text, tree.read path = .ok (Text.utf8 text) ∧ Vault.ofText text = .ok vault

/-- A file holds exactly what is written of a vault, and there is no draft. -/
structure FileTree.HasWritten (tree : FileTree) (path : Path) (vault : Vault) : Prop where
  content : ∃ mode, tree.node? (path.location tree.start) =
    some (.file mode (Text.utf8 (vault.prettyText ++ "\n")))
  draft : tree.node? ((Store.draftPath path).location tree.start) = none

variable {path : Path} {machine : Machine} {vault : Vault} {stored : Option Vault}
  {before after : FileTree}

/-- What a read answers depends on what the file holds. -/
theorem execute_readFile (path : Path) (machine : Machine) :
    execute (Store.readFile path) machine =
      (match machine.disk.read path with
        | .error .notFound => .ok none
        | .error problem => .error (.disk problem)
        | .ok bytes =>
          match Text.ofUtf8? bytes with
          | none => .error (.disk .notUtf8)
          | some text => ((Vault.ofText text).mapError .corrupt).map some, machine) := by
  rw [Store.readFile, execute_bind, Store.onDisk, execute_adapt, Store.unlessMissing, execute_tryCatch,
    execute_map, Disk.execute_readText]
  cases machine.disk.read path with
  | error problem => cases problem <;> rfl
  | ok bytes =>
      dsimp only
      cases Text.ofUtf8? bytes with
      | none => rfl
      | some text =>
          change execute (some <$> ExceptT.mk (pure _)) machine = _
          rw [execute_map, execute_mk_pure]

theorem readFile_of_text {text : String} (reads : machine.disk.read path = .ok (Text.utf8 text))
    (states : Vault.ofText text = .ok vault) :
    execute (Store.readFile path) machine = (.ok (some vault), machine) := by
  rw [execute_readFile, reads]
  dsimp only
  rw [Text.ofUtf8?_utf8]
  dsimp only
  rw [states]
  rfl

theorem execute_clear (path : Path) (machine : Machine) :
    execute (Store.file path).clear machine =
      match machine.disk.remove path with
      | .ok disk => (.ok (), { machine with disk })
      | .error .notFound => (.ok (), machine)
      | .error problem => (.error (.disk problem), machine) := by
  have removed : execute (ExceptT.mk (Disk.remove path) : ExceptT DiskError (StateM Machine) Unit)
      machine = machine.onDisk (·.remove path) := rfl
  change execute (Store.onDisk (do let _ ← Store.unlessMissing _)) machine = _
  rw [Store.onDisk, execute_adapt, execute_bind, Store.unlessMissing, execute_tryCatch, execute_map,
    removed, Machine.onDisk]
  cases machine.disk.remove path with
  | ok disk => rfl
  | error problem => cases problem <;> rfl

/-- The file of a written vault is read as that vault. -/
theorem Replaced.reads (replaced : Replaced path vault before after) (usable : path.IsUsable) :
    after.read path = .ok (Text.utf8 (vault.prettyText ++ "\n")) := by
  obtain ⟨mode, mayRead, found⟩ := replaced.content
  rw [← replaced.start] at found
  exact FileTree.read_of_file (FileTree.resolve_of_isOpen usable.isAccepted replaced.isOpen)
    usable.noSlash found mayRead

theorem ofText_prettyText_newline (vault : Vault) : Vault.ofText (vault.prettyText ++ "\n") = .ok vault :=
  vault.ofText_prettyText_append (by simp [Json.Blank, Json.isBlank])

theorem Replaced.hasWritten (replaced : Replaced path vault before after) :
    after.HasWritten path vault := by
  obtain ⟨mode, _, found⟩ := replaced.content
  constructor
  · rw [replaced.start]
    exact ⟨mode, found⟩
  · rw [replaced.start]
    exact replaced.draft

/-- Where no draft is left, none is in the way. -/
theorem FileTree.HasWritten.grants {tree : FileTree} (written : tree.HasWritten path vault) :
    tree.Grants path :=
  .of_none written.draft

/-- A write changes no more than the file and the draft, and makes directories. -/
theorem Replaced.confined (replaced : Replaced path vault before after) (admits : before.Admits path) :
    Confined path [Store.draftPath path, path] before after where
  toSameProcess := replaced.toSameProcess
  nodes place := by
    by_cases above : path.IsAbove before.start place
    · have made : after.node? place = some .directory := replaced.isOpen place (by rwa [replaced.start])
      cases found : before.node? place with
      | none => exact .inr (.inl ⟨above, rfl, made⟩)
      | some node =>
          cases node with
          | directory => exact .inl made
          | file mode content => exact absurd found (admits.isClear place above mode content)
    · by_cases isFile : place = path.location before.start
      · obtain ⟨mode, _, found⟩ := replaced.content
        refine .inr (.inr ⟨⟨path, by simp, isFile⟩, ?_⟩)
        rw [isFile, found]
        simp
      · by_cases isDraft : place = (Store.draftPath path).location before.start
        · refine .inr (.inr ⟨⟨Store.draftPath path, by simp, isDraft⟩, ?_⟩)
          rw [isDraft, replaced.draft]
          simp
        · exact .inl (replaced.others place above isFile isDraft)

/-- The vault that a file holds is the one to get. -/
theorem Store.get_of_holds (holds : machine.disk.Holds path stored) :
    execute (file path).get machine = (.ok stored, machine) := by
  cases stored with
  | none =>
      change execute (readFile path) machine = _
      rw [execute_readFile, show machine.disk.read path = .error .notFound from holds]
  | some vault =>
      obtain ⟨text, reads, states⟩ := holds
      exact readFile_of_text reads states

/-- A put where nothing is in the way leaves the vault in its file. -/
theorem Store.put_works (usable : path.IsUsable) (admits : machine.disk.Admits path)
    (grants : machine.disk.Grants path) (vault : Vault) :
    ∃ disk, execute ((file path).put vault) machine = (.ok (), { machine with disk }) ∧
      disk.HasWritten path vault ∧ disk.Holds path (some vault) ∧
        Confined path [draftPath path, path] machine.disk disk := by
  obtain ⟨disk, ran, replaced⟩ := writeFile_works usable vault admits grants
  refine ⟨disk, ?_, replaced.hasWritten,
    ⟨_, replaced.reads usable, ofText_prettyText_newline vault⟩, replaced.confined admits⟩
  change execute (onDisk (writeFile path vault)) machine = _
  rw [onDisk, execute_adapt, ran]
  rfl

/-- A file that holds a vault is removed, and one that is missing is not minded. -/
theorem Store.clear_works (usable : path.IsUsable) (admits : machine.disk.Admits path)
    (grants : machine.disk.Grants path) (holds : machine.disk.Holds path stored) :
    ∃ disk, execute (file path).clear machine = (.ok (), { machine with disk }) ∧
      disk.Holds path none ∧ disk.Grants path ∧
        Confined path [draftPath path, path] machine.disk disk := by
  have isNamed := usable.toIsPlain.isNamed
  rw [execute_clear]
  cases stored with
  | none =>
      rw [FileTree.remove_of_read_notFound isNamed holds]
      exact ⟨machine.disk, rfl, holds, grants, .refl⟩
  | some vault =>
      obtain ⟨text, reads, _⟩ := holds
      obtain ⟨names, name, layout⟩ := usable.toIsPlain.exists_layout
      have confined : Confined path [draftPath path, path] machine.disk
          (machine.disk.erase (path.location machine.disk.start)) := .erase (by simp) isNamed
      rw [FileTree.remove_of_read_ok isNamed reads]
      refine ⟨_, rfl, ?_, ?_, confined⟩
      · exact FileTree.read_of_none usable.isAccepted
          (confined.admits layout layout.apart_files admits).isClear
          (FileTree.node?_erase_self (isNamed.location_ne_nil _))
      · exact grants.of_node?_eq (.erase .refl) (FileTree.node?_erase_of_ne (layout.draft_ne _))

end SeedVault
