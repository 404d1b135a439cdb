/-
All or nothing. However a write to a file store is interrupted, the place of the file has what it
had before, or a file with all of the vault.
-/

import SeedVault.Proofs.Store.Holding
import SeedVault.Proofs.Store.Modes
import SeedVault.Proofs.Store.Refused

namespace SeedVault

/-- A vault was written as a whole, and nothing else but the draft and the directories is
different. -/
structure Written (path : Path) (vault : Vault) (before after : FileTree) : Prop where
  confined : Confined path [Store.draftPath path, path] before after
  content : ∃ mode, after.node? (path.location before.start) =
    some (.file mode (Text.utf8 (vault.prettyText ++ "\n")))

namespace Path.Layout

variable {path : Path} {names : List String} {name : String}

theorem keeps_ancestors (layout : Layout path names name) (plain : path.IsPlain) :
    Keeps path [Store.draftPath path]
      (Disk.ensureDirectories path.ancestors : ExceptT DiskError (StateM FaultyDisk) Unit) := by
  apply keeps_ensureDirectories layout.apart_draft
  intro directory member
  exact ⟨(layout.isAbove_of_mem_ancestors plain [] directory member).1, fun start =>
    (layout.isAbove_of_mem_ancestors plain start directory member).2⟩

end Path.Layout

/-- How a write may end: if it succeeds or the process stops, the vault may be written; otherwise
the place of the file is as it was. -/
structure EndsWriting (path : Path) (vault : Vault) (before : FileTree)
    (ran : Except DiskError Unit × FaultyDisk) : Prop where
  either : Confined path [Store.draftPath path] before ran.2.tree ∨
    Written path vault before ran.2.tree
  ok : ran.1 = .ok () → Written path vault before ran.2.tree
  error : ∀ problem, ran.1 = .error problem → ran.2.stopped = false →
    Confined path [Store.draftPath path] before ran.2.tree

/-- A write that fails before the last step changes nothing but the draft and the directories. -/
theorem EndsWriting.of_error {path : Path} {vault : Vault} {before : FileTree} {after : FaultyDisk}
    {problem : DiskError} (confined : Confined path [Store.draftPath path] before after.tree) :
    EndsWriting path vault before (.error problem, after) where
  either := .inl confined
  ok := by rintro ⟨⟩
  error _ _ _ := confined

/-- The draft is a file with some content, and the file is as it was. -/
structure Drafted (path : Path) (content : List UInt8) (before after : FileTree) : Prop where
  confined : Confined path [Store.draftPath path] before after
  content : ∃ mode, after.node? ((Store.draftPath path).location before.start) = some (.file mode content)

section steps

variable {path : Path} {names : List String} {name : String} {content bytes : List UInt8}
  {before tree after : FileTree}

theorem drafted_of_openEmpty (layout : path.Layout names name) (plain : path.IsPlain)
    (confined : Confined path [Store.draftPath path] before tree)
    (opened : tree.openEmpty (Store.draftPath path) = .ok after) : Drafted path [] before after := by
  have isNamed := layout.draft_isNamed plain
  refine ⟨confined.trans layout.apart_draft
    (confined_of_openEmpty List.mem_cons_self isNamed opened), ?_⟩
  obtain ⟨mode, rfl⟩ := FileTree.eq_of_openEmpty_eq_ok isNamed opened
  rw [confined.start]
  exact ⟨mode, FileTree.node?_insert_self (isNamed.location_ne_nil _)⟩

theorem Drafted.append (drafted : Drafted path content before tree) (layout : path.Layout names name)
    (plain : path.IsPlain) (appended : tree.append (Store.draftPath path) bytes = .ok after) :
    Drafted path (content ++ bytes) before after := by
  have isNamed := layout.draft_isNamed plain
  refine ⟨drafted.confined.trans layout.apart_draft
    (confined_of_append List.mem_cons_self isNamed appended), ?_⟩
  obtain ⟨mode, found⟩ := drafted.content
  obtain ⟨mode', content', found', rfl⟩ := FileTree.eq_of_append_eq_ok isNamed appended
  rw [drafted.confined.start, found] at found'
  cases found'
  rw [drafted.confined.start]
  exact ⟨mode, FileTree.node?_insert_self (isNamed.location_ne_nil _)⟩

theorem written_of_rename {vault : Vault}
    (drafted : Drafted path (Text.utf8 (vault.prettyText ++ "\n")) before tree)
    (layout : path.Layout names name) (plain : path.IsPlain)
    (renamed : tree.rename (Store.draftPath path) path = .ok after) :
    Written path vault before after := by
  have isNamed := layout.draft_isNamed plain
  have more : [Store.draftPath path] ⊆ [Store.draftPath path, path] := by simp
  refine ⟨(drafted.confined.mono more).trans layout.apart_files
    (confined_of_rename layout.apart_files (by simp) isNamed (by simp) plain.isNamed renamed), ?_⟩
  obtain ⟨mode, found⟩ := drafted.content
  obtain ⟨mode', content', found', rfl⟩ := FileTree.eq_of_rename_eq_ok isNamed plain.isNamed renamed
  rw [drafted.confined.start, found] at found'
  cases found'
  rw [drafted.confined.start]
  exact ⟨mode, FileTree.node?_insert_self (plain.isNamed.location_ne_nil _)⟩

end steps

section run

variable {path : Path} {names : List String} {name : String} {vault : Vault} {before : FileTree}
  {disk : FaultyDisk} {content : List UInt8}

/-- A step of which no more is done than the draft allows, and what follows if it is done. -/
theorem ends_of_step {action : StateM FaultyDisk (Except DiskError Unit)}
    (step : FileTree → Except DiskError FileTree) (part : Nat → FileTree → FileTree)
    {next : Unit → ExceptT DiskError (StateM FaultyDisk) Unit} (layout : path.Layout names name)
    (isStep : action.run disk = FaultyDisk.take step part disk)
    (confined : Confined path [Store.draftPath path] before disk.tree)
    (partly : ∀ written, Confined path [Store.draftPath path] disk.tree (part written disk.tree))
    (stepped : ∀ after, step disk.tree = .ok after →
      Confined path [Store.draftPath path] disk.tree after)
    (rest : ∀ after : FaultyDisk, step disk.tree = .ok after.tree →
      EndsWriting path vault before (execute (next ()) after)) :
    EndsWriting path vault before (execute (ExceptT.mk action >>= next) disk) := by
  have kept := confined.trans layout.apart_draft (confined_take partly stepped)
  have done : execute (ExceptT.mk action) disk = FaultyDisk.take step part disk := isStep
  rw [execute_bind, done]
  generalize taken : FaultyDisk.take step part disk = ran at kept ⊢
  obtain ⟨answer, after⟩ := ran
  cases answer with
  | error problem => exact .of_error kept
  | ok done => exact rest after (FaultyDisk.take_eq_ok taken).1

theorem ends_of_append {bytes : List UInt8} {next : Unit → ExceptT DiskError (StateM FaultyDisk) Unit}
    (layout : path.Layout names name) (plain : path.IsPlain)
    (drafted : Drafted path content before disk.tree)
    (rest : ∀ after : FaultyDisk, Drafted path (content ++ bytes) before after.tree →
      EndsWriting path vault before (execute (next ()) after)) :
    EndsWriting path vault before
      (execute (ExceptT.mk (Disk.append (Store.draftPath path) bytes) >>= next) disk) := by
  have appends (part : List UInt8) (after : FileTree)
      (appended : disk.tree.append (Store.draftPath path) part = .ok after) :
      Confined path [Store.draftPath path] disk.tree after :=
    confined_of_append List.mem_cons_self (layout.draft_isNamed plain) appended
  refine ends_of_step (·.append (Store.draftPath path) bytes)
    (FaultyDisk.appendPart (Store.draftPath path) bytes) layout rfl drafted.confined
    (fun written => ?_) (appends bytes)
    fun after appended => rest after (drafted.append layout plain appended)
  exact FaultyDisk.settle_of .refl (appends (bytes.take written))

theorem ends_of_rename (layout : path.Layout names name) (plain : path.IsPlain)
    (drafted : Drafted path (Text.utf8 (vault.prettyText ++ "\n")) before disk.tree) :
    EndsWriting path vault before
      (execute (ExceptT.mk (Disk.rename (Store.draftPath path) path)) disk) := by
  have written (after : FileTree) (renamed : disk.tree.rename (Store.draftPath path) path = .ok after) :
      Written path vault before after :=
    written_of_rename drafted layout plain renamed
  change EndsWriting path vault before
    (FaultyDisk.take (·.rename (Store.draftPath path) path) (fun _ tree => tree) disk)
  refine ⟨?_, fun done => ?_, fun problem failed goesOn => ?_⟩
  · exact @FaultyDisk.take_of _ _ disk (fun tree => Confined path [Store.draftPath path] before tree ∨
      Written path vault before tree) (.inl drafted.confined) (fun _ => .inl drafted.confined)
      fun after renamed => .inr (written after renamed)
  · exact written _ (FaultyDisk.take_eq_ok (Prod.ext done rfl)).1
  · rcases FaultyDisk.take_eq_error (Prod.ext failed rfl) goesOn with same | ⟨_, same⟩
    · rw [same]
      exact drafted.confined
    · rw [same]
      exact drafted.confined

/-- A write keeps to the draft until the last step, which puts all of the vault in its place. -/
theorem writeFile_ends (plain : path.IsPlain) (vault : Vault) (disk : FaultyDisk) :
    EndsWriting path vault disk.tree (execute (Store.writeFile path vault) disk) := by
  obtain ⟨names, name, layout⟩ := plain.exists_layout
  -- Up to the last step, all that is touched are the directories and the draft.
  have kept := layout.keeps_ancestors plain disk
  rw [Store.writeFile, execute_bind]
  generalize execute (Disk.ensureDirectories path.ancestors) disk = ran at kept ⊢
  obtain ⟨answer, prepared⟩ := ran
  cases answer with
  | error problem => exact .of_error kept
  | ok done =>
      have opens (after : FileTree)
          (opened : prepared.tree.openEmpty (Store.draftPath path) = .ok after) :
          Confined path [Store.draftPath path] prepared.tree after :=
        confined_of_openEmpty List.mem_cons_self (layout.draft_isNamed plain) opened
      refine ends_of_step (·.openEmpty (Store.draftPath path)) (fun _ tree => tree) layout rfl kept
        (fun _ => .refl) opens fun emptied opened => ?_
      have empty := drafted_of_openEmpty layout plain kept opened
      refine ends_of_append layout plain empty fun filled half => ?_
      refine ends_of_append layout plain half fun ended whole => ?_
      rw [List.nil_append, ← Text.utf8_append] at whole
      exact ends_of_rename layout plain whole

end run

namespace Store

variable {path : Path}

/-- The draft that is left can be used, if one that was there could be. -/
theorem grants_of_put (plain : path.IsPlain) (vault : Vault) {disk : FaultyDisk}
    (grants : disk.tree.Grants path) :
    (execute ((file path).put vault) disk).2.tree.Grants path := by
  obtain ⟨names, name, layout⟩ := plain.exists_layout
  have keeps := put_staysAccepted
    (fun mode => disk.tree.mayRead mode = true ∧ disk.tree.mayWrite mode = true) path
    ⟨disk.tree.mayRead_privateMode, disk.tree.mayWrite_privateMode⟩ vault disk
  exact keeps.grants (layout.draft_isNamed plain) grants

/-- However a put is interrupted, the place of the file has what it had or all of the vault, and only
a put that does not fail changes it. The next put works from any such state. -/
theorem put_all_or_nothing (plain : path.IsPlain) (vault : Vault) (disk : FaultyDisk) :
    let place := path.location disk.tree.start
    let ran := execute ((file path).put vault) disk
    (ran.2.tree.node? place = disk.tree.node? place ∨
      ∃ mode, ran.2.tree.node? place = some (.file mode (Text.utf8 (vault.prettyText ++ "\n")))) ∧
    (ran.1 = .ok () →
      ∃ mode, ran.2.tree.node? place = some (.file mode (Text.utf8 (vault.prettyText ++ "\n")))) ∧
    (∀ problem, ran.1 = .error problem → ran.2.stopped = false →
      ran.2.tree.node? place = disk.tree.node? place) ∧
    (path.IsUsable → disk.tree.Admits path → disk.tree.Grants path →
      ∀ (machine : Machine) (later : Vault), machine.disk = ran.2.tree →
        ∃ tree, execute ((file path).put later) machine = (.ok (), { machine with disk := tree }) ∧
          execute (file path).get { machine with disk := tree } =
            (.ok (some later), { machine with disk := tree })) := by
  obtain ⟨names, name, layout⟩ := plain.exists_layout
  have ends := writeFile_ends plain vault disk
  have stillGrants := @grants_of_put path plain vault disk
  have put : execute ((file path).put vault) disk =
      ((execute (writeFile path vault) disk).1.mapError .disk, (execute (writeFile path vault) disk).2) :=
    rfl
  rw [put] at stillGrants ⊢
  generalize execute (writeFile path vault) disk = written at ends stillGrants
  obtain ⟨answer, after⟩ := written
  have unchanged (confined : Confined path [draftPath path] disk.tree after.tree) :
      after.tree.node? (path.location disk.tree.start) =
        disk.tree.node? (path.location disk.tree.start) :=
    confined.node?_eq (layout.not_isAbove_location _) fun file member => by
      rw [List.mem_singleton.mp member]
      exact (layout.draft_ne _).symm
  refine ⟨ends.either.imp unchanged Written.content, fun worked => ?_, fun problem failed goesOn => ?_,
    fun usable admits grants machine later same => ?_⟩
  · cases answer with
    | ok done => exact (ends.ok rfl).content
    | error problem => cases worked
  · cases answer with
    | ok done => cases failed
    | error problem => exact unchanged (ends.error problem rfl goesOn)
  · have stillAdmits : machine.disk.Admits path := by
      rw [same]
      rcases ends.either with confined | written
      · exact confined.admits layout layout.apart_draft admits
      · exact written.confined.admits layout layout.apart_files admits
    obtain ⟨tree, ran, _, holds, _⟩ :=
      put_works usable stillAdmits (same ▸ stillGrants grants) later
    exact ⟨tree, ran, get_of_holds holds⟩

/-- The process stops while it writes the draft, and the vault is put again. -/
theorem put_all_or_nothing_halfway :
    let path : Path := ⟨"vault.json", []⟩
    let vault : Vault := ⟨Vector.replicate 32 1, Vector.replicate 16 2, Vector.replicate 16 3, none⟩
    let tree : FileTree :=
      { start := []
        nodes := [(["vault.json"], .file 0o644 [1, 2]), (["vault.json.tmp"], .file 0o600 [3])] }
    let ran := execute ((file path).put vault) (⟨tree, [.works, .stopsWithin 5], false⟩ : FaultyDisk)
    ran.2.stopped = true ∧ ran.2.tree.node? ["vault.json"] = some (.file 0o644 [1, 2]) ∧
      ∃ after, execute ((file path).put vault) { disk := ran.2.tree : Machine } =
          (.ok (), { disk := after }) ∧
        execute (file path).get { disk := after : Machine } = (.ok (some vault), { disk := after }) := by
  refine ⟨by decide +kernel, by decide +kernel, ?_⟩
  have usable := Path.isUsable_vault
  obtain ⟨_, _, _, again⟩ := put_all_or_nothing usable.toIsPlain _ _
  refine again usable ⟨fun _ above => absurd above Path.not_isAbove_vault, by decide, by decide⟩
    ?_ _ _ rfl
  rintro mode ⟨⟩
  exact ⟨rfl, rfl⟩

/-- Names are not enough for the next put to work: the path may end in a slash, or be so long that
the path of the draft is too long. On any path, there may be a draft that the program must not write
to, or one that it must not read when it is the vault. -/
theorem put_again_refused :
    let vault : Vault := ⟨Vector.replicate 32 1, Vector.replicate 16 2, Vector.replicate 16 3, none⟩
    let disk : FaultyDisk := ⟨{ start := [] }, [.works, .stopsAfter], false⟩
    let left (path : Path) := (execute ((file path).put vault) disk).2.tree
    let again (path : Path) := (execute ((file path).put vault) { disk := left path : Machine }).1
    let drafted (mode : Nat) : FaultyDisk :=
      ⟨{ start := [], nodes := [(["vault.json.tmp"], .file mode [3])] }, [.stopsAfter], false⟩
    let putTwice (mode : Nat) := execute ((file ⟨"vault.json", []⟩).put vault)
      { disk := (execute ((file ⟨"vault.json", []⟩).put vault) (drafted mode)).2.tree : Machine }
    (Path.slashed.Fits ∧ disk.tree.Admits Path.slashed ∧ again Path.slashed ≠ .ok ()) ∧
      (Path.nested 2047).Fits ∧ (Path.nested 2047).text.utf8ByteSize ≤ FileTree.longestPath ∧
        disk.tree.Admits (Path.nested 2047) ∧ again (Path.nested 2047) ≠ .ok () ∧
      Path.IsUsable ⟨"vault.json", []⟩ ∧ (∀ mode, (drafted mode).tree.Admits ⟨"vault.json", []⟩) ∧
        (putTwice 0o400).1 ≠ .ok () ∧
        (execute (file ⟨"vault.json", []⟩).get (putTwice 0o200).2).1 ≠ .ok (some vault) := by
  intro vault disk left again drafted putTwice
  obtain ⟨short, long⟩ := Path.utf8ByteSize_text_nested 2046
  refine ⟨⟨Path.slashed_fits, FileTree.admits_of_empty Path.slashed_fits.toIsPlain [], ?_⟩,
    Path.nested_fits 2047, ?_, FileTree.admits_of_empty (Path.nested_isPlain 2047) [], ?_,
    Path.isUsable_vault, fun mode => ?_, by decide +kernel, by decide +kernel⟩
  · exact put_ne_ok_of_endsInSlash rfl vault _
  · rw [short]
    decide
  · refine put_ne_ok_of_long ?_ vault _
    rw [long]
    decide
  · exact ⟨fun _ above => absurd above Path.not_isAbove_vault, by rintro ⟨⟩, by rintro ⟨⟩⟩

end Store

end SeedVault
