/-
Writing on a disk where nothing is in the way: the directories are made, the draft is written and
takes the place of the file, and the rest of the disk is as it was.
-/

import SeedVault.Machine
import SeedVault.Proofs.Execution
import SeedVault.Proofs.Store.Confined
import SeedVault.Proofs.Store.Usable
import SeedVault.Proofs.Text.Utf8

namespace SeedVault

/-- The directories along some names are there, and nothing else is different. -/
structure Prepared (location : Location) (names : List String) (before after : FileTree) : Prop
    extends FileTree.SameProcess before after where
  directories : ∀ place, FileTree.Along location names place → after.node? place = some .directory
  others : ∀ place, ¬ FileTree.Along location names place → after.node? place = before.node? place

theorem FileTree.along_concat_iff {location place : Location} {names : List String} {name : String} :
    Along location (names ++ [name]) place ↔
      Along location names place ∨ place = location ++ names ++ [name] := by
  constructor
  · rintro ⟨way, isPrefix, some, rfl⟩
    rcases List.prefix_concat_iff.mp isPrefix with rfl | isPrefix
    · exact .inr (List.append_assoc _ _ _).symm
    · exact .inl ⟨way, isPrefix, some, rfl⟩
  · rintro (⟨way, isPrefix, some, rfl⟩ | rfl)
    · exact ⟨way, isPrefix.trans (List.prefix_append _ _), some, rfl⟩
    · exact ⟨names ++ [name], List.prefix_rfl, by simp, List.append_assoc _ _ _⟩

/-- One more directory can be made after those above it. -/
theorem Prepared.trans {location : Location} {names : List String} {name : String}
    {before middle after : FileTree} (first : Prepared location names before middle)
    (second : Prepared location (names ++ [name]) middle after) :
    Prepared location (names ++ [name]) before after where
  toSameProcess := first.toSameProcess.trans second.toSameProcess
  directories := second.directories
  others place notAlong := by
    rw [second.others place notAlong]
    exact first.others place fun along => notAlong (FileTree.along_concat_iff.mpr (.inl along))

section directories

variable {path : Path} {machine : Machine}

theorem execute_ensureDirectory (path : Path) (machine : Machine) :
    execute (Disk.ensureDirectory path : ExceptT DiskError (StateM Machine) Unit) machine =
      match machine.disk.makeDirectory path with
      | .ok disk => (.ok (), { machine with disk })
      | .error .alreadyExists =>
        (if machine.disk.isDirectory path then .ok () else .error .alreadyExists, machine)
      | .error problem => (.error problem, machine) := by
  have made : (Disk.makeDirectory path : StateM Machine _).run machine =
      machine.onDisk (·.makeDirectory path) := rfl
  rw [Disk.ensureDirectory, execute_bind, execute_lift, made, Machine.onDisk]
  cases machine.disk.makeDirectory path with
  | ok disk => rfl
  | error problem =>
      cases problem with
      | alreadyExists =>
          have looked : (Disk.isDirectory path : StateM Machine Bool).run machine =
              (machine.disk.isDirectory path, machine) := rfl
          dsimp only
          rw [execute_bind, execute_lift, looked]
          cases machine.disk.isDirectory path <;> rfl
      | _ => rfl

theorem ensureDirectory_works (accepted : path.IsAccepted) (isOpen : machine.disk.IsOpen path)
    (notFile : ∀ mode content,
      machine.disk.node? (path.location machine.disk.start) ≠ some (.file mode content)) :
    ∃ disk, execute (Disk.ensureDirectory path) machine = (.ok (), { machine with disk }) ∧
      Prepared (path.base machine.disk.start) path.steps machine.disk disk := by
  have split : path.steps.dropLast ++ [path.steps.getLast accepted.some] = path.steps :=
    List.dropLast_concat_getLast accepted.some
  have reaches := FileTree.resolve_of_isOpen accepted isOpen
  have along (place : Location) : FileTree.Along (path.base machine.disk.start) path.steps place ↔
      path.IsAbove machine.disk.start place ∨ place = path.location machine.disk.start := by
    rw [← split, FileTree.along_concat_iff, List.append_assoc, split]
    rfl
  have below : path.location machine.disk.start ≠ [] := by simp [Path.location, accepted.some]
  rw [execute_ensureDirectory]
  cases found : machine.disk.node? (path.location machine.disk.start) with
  | none =>
      rw [FileTree.makeDirectory_of_none reaches found]
      refine ⟨_, rfl, .insert .refl, fun place isAlong => ?_, fun place notAlong => ?_⟩
      · by_cases here : place = path.location machine.disk.start
        · rw [here, FileTree.node?_insert_self below]
        · rw [FileTree.node?_insert_of_ne here]
          exact isOpen place (((along place).mp isAlong).resolve_right here)
      · exact FileTree.node?_insert_of_ne fun here => notAlong ((along place).mpr (.inr here))
  | some node =>
      cases node with
      | file mode content => exact absurd found (notFile mode content)
      | directory =>
          rw [FileTree.makeDirectory_of_directory reaches found]
          dsimp only
          rw [FileTree.isDirectory_of_directory reaches found]
          refine ⟨machine.disk, rfl, .refl, fun place isAlong => ?_, fun _ _ => rfl⟩
          rcases (along place).mp isAlong with above | rfl
          · exact isOpen place above
          · exact found

/-- After the directories above it, the last one is made. -/
theorem Prepared.ensureDirectory {location : Location} {names : List String} {name : String}
    {middle : FileTree} (prepared : Prepared location names machine.disk middle)
    (accepted : path.IsAccepted) (steps : path.steps = names ++ [name])
    (base : path.base machine.disk.start = location)
    (notFile : ∀ mode content,
      machine.disk.node? (location ++ names ++ [name]) ≠ some (.file mode content)) :
    ∃ disk, execute (Disk.ensureDirectory path) { machine with disk := middle } =
        (.ok (), { machine with disk }) ∧
      Prepared location (names ++ [name]) machine.disk disk := by
  have middleBase : path.base middle.start = location := by rw [prepared.start, base]
  have here : path.location middle.start = location ++ names ++ [name] := by
    rw [Path.location, middleBase, steps, List.append_assoc]
  have isOpen : middle.IsOpen path := by
    intro place above
    rw [Path.IsAbove, middleBase, steps, List.dropLast_concat] at above
    exact prepared.directories place above
  have stillNotFile (mode : Nat) (content : List UInt8) :
      middle.node? (path.location middle.start) ≠ some (.file mode content) := by
    rw [here, prepared.others _ Path.not_along_append]
    exact notFile mode content
  obtain ⟨disk, ran, made⟩ :=
    @ensureDirectory_works path { machine with disk := middle } accepted isOpen stillNotFile
  rw [middleBase, steps] at made
  exact ⟨disk, ran, prepared.trans made⟩

/-- All directories on the way up are made if no file is among them. -/
theorem ensureDirectories_work {absolute : Bool} {paths : List Path} {above : List String}
    {location : Location} (leadUp : Path.LeadUp absolute paths above)
    (accepted : ∀ path ∈ paths, path.IsAccepted)
    (base : location = if absolute then [] else machine.disk.start)
    (clear : ∀ place, FileTree.Along location above.reverse place → ∀ mode content,
      machine.disk.node? place ≠ some (.file mode content)) :
    ∃ disk, execute (Disk.ensureDirectories paths) machine = (.ok (), { machine with disk }) ∧
      Prepared location above.reverse machine.disk disk := by
  induction leadUp with
  | nil =>
      refine ⟨machine.disk, rfl, .refl, fun place along => ?_, fun _ _ => rfl⟩
      obtain ⟨way, isPrefix, some, _⟩ := along
      exact absurd (List.prefix_nil.mp isPrefix) some
  | @cons path paths name above steps sameStart _ ih =>
      simp only [List.forall_mem_cons] at accepted
      rw [List.reverse_cons] at steps clear ⊢
      have pathBase : path.base machine.disk.start = location := by
        rw [Path.base, sameStart, base]
      have isAbove (place : Location) : path.IsAbove machine.disk.start place ↔
          FileTree.Along location above.reverse place := by
        rw [Path.IsAbove, pathBase, steps, List.dropLast_concat]
      have clearAbove (place : Location) (along : FileTree.Along location above.reverse place) :=
        clear place (FileTree.along_concat_iff.mpr (.inl along))
      have notFile := clear _ (FileTree.along_concat_iff.mpr (.inr rfl))
      have isClear : machine.disk.IsClear path := fun place isOn =>
        clearAbove place ((isAbove place).mp isOn)
      rw [Disk.ensureDirectories, execute_tryCatch]
      -- The directory is made at once, or only after those above it, of which one is missing.
      rcases FileTree.resolve_of_isClear accepted.1 isClear with isOpen | missing
      · have prepared : Prepared location above.reverse machine.disk machine.disk :=
          ⟨.refl, fun place along => isOpen place ((isAbove place).mpr along), fun _ _ => rfl⟩
        obtain ⟨disk, ran, made⟩ := prepared.ensureDirectory accepted.1 steps pathBase notFile
        rw [ran]
        exact ⟨disk, rfl, made⟩
      · obtain ⟨middle, ranAbove, prepared⟩ := ih accepted.2 clearAbove
        obtain ⟨disk, ran, made⟩ := prepared.ensureDirectory accepted.1 steps pathBase notFile
        have unmade : machine.disk.makeDirectory path = .error .notFound := by
          rw [FileTree.makeDirectory, missing]
          rfl
        rw [execute_ensureDirectory, unmade]
        dsimp only
        rw [execute_bind, ranAbove]
        exact ⟨disk, ran, made⟩

end directories

/-- The directories are there, and no more than the draft is different. -/
structure Ready (path : Path) (before after : FileTree) : Prop
    extends FileTree.SameProcess before after where
  isOpen : after.IsOpen path
  others : ∀ place, ¬ path.IsAbove before.start place →
    place ≠ (Store.draftPath path).location before.start → after.node? place = before.node? place

/-- A vault is in its file, the draft is gone, and no more than the directories are different. -/
structure Replaced (path : Path) (vault : Vault) (before after : FileTree) : Prop
    extends FileTree.SameProcess before after where
  isOpen : after.IsOpen path
  content : ∃ mode, after.mayRead mode = true ∧ after.node? (path.location before.start) =
    some (.file mode (Text.utf8 (vault.prettyText ++ "\n")))
  draft : after.node? ((Store.draftPath path).location before.start) = none
  others : ∀ place, ¬ path.IsAbove before.start place → place ≠ path.location before.start →
    place ≠ (Store.draftPath path).location before.start → after.node? place = before.node? place

section writing

variable {path : Path} {names : List String} {name : String} {before tree after : FileTree}
  {machine : Machine} {mode : Nat} {content : List UInt8}

theorem Ready.insert (ready : Ready path before tree) (layout : path.Layout names name) (node : Node) :
    Ready path before (tree.insert ((Store.draftPath path).location before.start) node) where
  toSameProcess := ready.toSameProcess.insert
  isOpen place above := by
    rw [FileTree.start_insert, ready.start] at above
    have elsewhere : place ≠ (Store.draftPath path).location before.start := by
      rintro rfl
      exact layout.not_isAbove_draft _ above
    rw [FileTree.node?_insert_of_ne elsewhere]
    exact ready.isOpen place (by rwa [ready.start])
  others place notAbove notDraft := by
    rw [FileTree.node?_insert_of_ne notDraft]
    exact ready.others place notAbove notDraft

theorem Ready.resolve_draft (ready : Ready path before tree) (layout : path.Layout names name)
    (usable : path.IsUsable) :
    tree.resolve (Store.draftPath path) =
      .ok (.named ((Store.draftPath path).location before.start)) := by
  have isOpen : tree.IsOpen (Store.draftPath path) := by
    intro place above
    rw [Path.IsAbove, layout.base_draft, layout.draftSteps, List.dropLast_concat,
      ← layout.isAbove_iff] at above
    exact ready.isOpen place above
  rw [FileTree.resolve_of_isOpen (usable.draft_isAccepted layout) isOpen, ready.start]

/-- The draft can be emptied, and read later on. -/
theorem Ready.openEmpty (ready : Ready path before tree) (layout : path.Layout names name)
    (usable : path.IsUsable)
    (notDirectory : tree.node? ((Store.draftPath path).location before.start) ≠ some .directory)
    (grants : tree.Grants path) :
    ∃ after mode, tree.openEmpty (Store.draftPath path) = .ok after ∧ Ready path before after ∧
      before.mayRead mode = true ∧
      after.node? ((Store.draftPath path).location before.start) = some (.file mode []) := by
  have draftBelow : (Store.draftPath path).location before.start ≠ [] :=
    (layout.draft_isNamed usable.toIsPlain).location_ne_nil _
  have reaches : tree.resolve (Store.draftPath path) =
      .ok (.named ((Store.draftPath path).location tree.start)) := by
    rw [ready.resolve_draft layout usable, ready.start]
  have opened := FileTree.openEmpty_of_mayWrite reaches layout.draftEnd (by rwa [ready.start])
    fun mode found => (grants mode found).2
  have mayRead := grants.mayRead
  rw [ready.start] at opened mayRead
  rw [ready.mayRead_eq] at mayRead
  exact ⟨_, _, opened, ready.insert layout _, mayRead, FileTree.node?_insert_self draftBelow⟩

/-- More can be written to the draft. -/
theorem Ready.append (ready : Ready path before tree) (layout : path.Layout names name)
    (usable : path.IsUsable)
    (drafted : tree.node? ((Store.draftPath path).location before.start) = some (.file mode content))
    (bytes : List UInt8) :
    ∃ after, tree.append (Store.draftPath path) bytes = .ok after ∧ Ready path before after ∧
      after.node? ((Store.draftPath path).location before.start) =
        some (.file mode (content ++ bytes)) := by
  have draftBelow : (Store.draftPath path).location before.start ≠ [] :=
    (layout.draft_isNamed usable.toIsPlain).location_ne_nil _
  have reaches : tree.resolve (Store.draftPath path) =
      .ok (.named ((Store.draftPath path).location tree.start)) := by
    rw [ready.resolve_draft layout usable, ready.start]
  have appended := FileTree.append_of_file reaches layout.draftEnd
    (by rwa [ready.start]) bytes
  rw [ready.start] at appended
  exact ⟨_, appended, ready.insert layout _, FileTree.node?_insert_self draftBelow⟩

/-- The last step puts the draft in the place of the file. -/
theorem Ready.rename (ready : Ready path before tree) (layout : path.Layout names name)
    (usable : path.IsUsable) {vault : Vault} (admits : before.Admits path)
    (mayRead : before.mayRead mode = true)
    (drafted : tree.node? ((Store.draftPath path).location before.start) =
      some (.file mode (Text.utf8 (vault.prettyText ++ "\n")))) :
    ∃ after, tree.rename (Store.draftPath path) path = .ok after ∧ Replaced path vault before after := by
  have different := layout.draft_ne before.start
  have draftBelow : (Store.draftPath path).location before.start ≠ [] :=
    (layout.draft_isNamed usable.toIsPlain).location_ne_nil _
  have below : path.location before.start ≠ [] := usable.toIsPlain.isNamed.location_ne_nil _
  have notAbove := layout.not_isAbove_location before.start
  have notDirectory : tree.node? (path.location before.start) ≠ some .directory := by
    rw [ready.others _ notAbove different.symm]
    exact admits.notDirectory
  have renamed := @FileTree.rename_of_file tree (Store.draftPath path) path mode _
    (by rw [ready.resolve_draft layout usable, ready.start])
    (FileTree.resolve_of_isOpen usable.isAccepted ready.isOpen) layout.draftEnd usable.noSlash
    (by rwa [ready.start]) (by rwa [ready.start])
  rw [ready.start] at renamed
  refine ⟨_, renamed, ready.toSameProcess.erase.insert, fun place above => ?_,
    ⟨mode, ?_, FileTree.node?_insert_self below⟩, ?_, fun place notAbove notFile notDraft => ?_⟩
  · rw [FileTree.start_insert, FileTree.start_erase, ready.start] at above
    have notFile : place ≠ path.location before.start := by
      rintro rfl
      exact notAbove above
    have notDraft : place ≠ (Store.draftPath path).location before.start := by
      rintro rfl
      exact layout.not_isAbove_draft _ above
    rw [FileTree.node?_insert_of_ne notFile, FileTree.node?_erase_of_ne notDraft]
    exact ready.isOpen place (by rwa [ready.start])
  · rw [ready.toSameProcess.erase.insert.mayRead_eq]
    exact mayRead
  · rw [FileTree.node?_insert_of_ne different, FileTree.node?_erase_self draftBelow]
  · rw [FileTree.node?_insert_of_ne notFile, FileTree.node?_erase_of_ne notDraft]
    exact ready.others place notAbove notDraft

/-- A step that works is done before what follows. -/
theorem execute_step_bind {next : Unit → ExceptT DiskError (StateM Machine) Unit}
    (action : StateM Machine (Except DiskError Unit))
    (operation : FileTree → Except DiskError FileTree)
    (isStep : ∀ machine, action.run machine = machine.onDisk operation)
    (works : operation tree = .ok after) :
    execute (ExceptT.mk action >>= next) { machine with disk := tree } =
      execute (next ()) { machine with disk := after } := by
  have done : execute (ExceptT.mk action) { machine with disk := tree } =
      (.ok (), { machine with disk := after }) := by
    change action.run _ = _
    rw [isStep, Machine.onDisk, works]
  rw [execute_bind, done]

/-- A write succeeds where nothing is in its way. -/
theorem writeFile_works (usable : path.IsUsable) (vault : Vault) (admits : machine.disk.Admits path)
    (grants : machine.disk.Grants path) :
    ∃ disk, execute (Store.writeFile path vault) machine = (.ok (), { machine with disk }) ∧
      Replaced path vault machine.disk disk := by
  obtain ⟨names, name, layout⟩ := usable.toIsPlain.exists_layout
  obtain ⟨prepared, ran, isPrepared⟩ := @ensureDirectories_work machine _ _ _
    (path.base machine.disk.start) layout.ancestors (usable.isAccepted_of_mem_ancestors layout) rfl
    (by
      rw [List.reverse_reverse]
      exact fun place along => admits.isClear place (layout.isAbove_iff.mpr along))
  rw [List.reverse_reverse] at isPrepared
  have ready : Ready path machine.disk prepared := by
    refine ⟨isPrepared.toSameProcess, fun place above => ?_, fun place notAbove _ => ?_⟩
    · rw [isPrepared.start] at above
      exact isPrepared.directories place (layout.isAbove_iff.mp above)
    · exact isPrepared.others place fun along => notAbove (layout.isAbove_iff.mpr along)
  have draftKept : prepared.node? ((Store.draftPath path).location machine.disk.start) =
      machine.disk.node? ((Store.draftPath path).location machine.disk.start) :=
    isPrepared.others _ fun along => layout.not_isAbove_draft _ (layout.isAbove_iff.mpr along)
  obtain ⟨emptied, mode, opened, ready, mayRead, empty⟩ :=
    ready.openEmpty layout usable (draftKept ▸ admits.draftNotDirectory)
      (grants.of_node?_eq isPrepared.toSameProcess draftKept)
  obtain ⟨filled, appended, ready, half⟩ := ready.append layout usable empty (Text.utf8 vault.prettyText)
  obtain ⟨ended, appendedEnd, ready, whole⟩ := ready.append layout usable half (Text.utf8 "\n")
  rw [List.nil_append, ← Text.utf8_append] at whole
  obtain ⟨disk, renamed, replaced⟩ := ready.rename layout usable admits mayRead whole
  refine ⟨disk, ?_, replaced⟩
  rw [Store.writeFile, execute_bind, ran]
  dsimp only
  rw [execute_step_bind (Disk.openEmpty _) (·.openEmpty _) (fun _ => rfl) opened,
    execute_step_bind (Disk.append _ _) (·.append _ _) (fun _ => rfl) appended,
    execute_step_bind (Disk.append _ _) (·.append _ _) (fun _ => rfl) appendedEnd]
  change Machine.onDisk (·.rename (Store.draftPath path) path) _ = _
  rw [Machine.onDisk, renamed]

end writing

end SeedVault
