/-
A disk whose steps may fail and a process that may stop anywhere. What such a run of a file store
leaves at its path is what was there before, or all of what was to be written.
-/

import SeedVault.Proofs.Execution
import SeedVault.Proofs.Store.Confined

namespace SeedVault

/-- What becomes of a step on a disk. -/
inductive Fate
  | works
  /-- The step fails; of a write, some bytes are written before. -/
  | fails (problem : DiskError) (written : Nat)
  /-- The process stops before the step is done; of a write, some bytes are written. -/
  | stopsWithin (written : Nat)
  /-- The process stops when the step is done. -/
  | stopsAfter

/-- A disk and the fates of the steps to come, after which all steps work. A process that has
stopped takes no steps. -/
structure FaultyDisk where
  tree : FileTree
  fates : List Fate := []
  stopped : Bool := false

namespace FaultyDisk

/-- What a step answers that a stopped process would have taken. -/
def lost : DiskError :=
  .other "stopped"

/-- Keeps the tree as it is if a step fails. -/
def settle (step : FileTree → Except DiskError FileTree) (tree : FileTree) :
    Except DiskError Unit × FileTree :=
  match step tree with
  | .ok after => (.ok (), after)
  | .error problem => (.error problem, tree)

/-- Takes a step as its fate says; `part` is what is done of a step that is not done as a whole. -/
def take (step : FileTree → Except DiskError FileTree) (part : Nat → FileTree → FileTree)
    (disk : FaultyDisk) : Except DiskError Unit × FaultyDisk :=
  if disk.stopped then (.error lost, disk)
  else
    match disk.fates.headD .works with
    | .works => ((settle step disk.tree).1, ⟨(settle step disk.tree).2, disk.fates.tail, false⟩)
    | .fails problem written => (.error problem, ⟨part written disk.tree, disk.fates.tail, false⟩)
    | .stopsWithin written => (.error lost, ⟨part written disk.tree, disk.fates.tail, true⟩)
    | .stopsAfter => (.error lost, ⟨(settle step disk.tree).2, disk.fates.tail, true⟩)

/-- Writes the first of some bytes, if any can be written. -/
def appendPart (path : Path) (bytes : List UInt8) (written : Nat) (tree : FileTree) : FileTree :=
  (settle (·.append path (bytes.take written)) tree).2

/-- Takes a step that is done as a whole or not at all. -/
def takeWhole (step : FileTree → Except DiskError FileTree) :
    FaultyDisk → Except DiskError Unit × FaultyDisk :=
  take step fun _ tree => tree

/-- Looks at the tree, unless that fails. -/
def look {α : Type} (failed : DiskError → α) (find : FileTree → α) (disk : FaultyDisk) :
    α × FaultyDisk :=
  if disk.stopped then (failed lost, disk)
  else
    match disk.fates.headD .works with
    | .works => (find disk.tree, ⟨disk.tree, disk.fates.tail, false⟩)
    | .fails problem _ => (failed problem, ⟨disk.tree, disk.fates.tail, false⟩)
    | .stopsWithin _ | .stopsAfter => (failed lost, ⟨disk.tree, disk.fates.tail, true⟩)

instance : Disk (StateM FaultyDisk) where
  read path := look .error (·.read path)
  isPresent path := look (fun _ => false) (·.isPresent path)
  isDirectory path := look (fun _ => false) (·.isDirectory path)
  makeDirectory path := takeWhole (·.makeDirectory path)
  openEmpty path := takeWhole (·.openEmpty path)
  append path bytes := take (·.append path bytes) (appendPart path bytes)
  rename source target := takeWhole (·.rename source target)
  remove path := takeWhole (·.remove path)

variable {step : FileTree → Except DiskError FileTree} {part : Nat → FileTree → FileTree}
  {disk : FaultyDisk}

theorem settle_eq_ok {tree after : FileTree} (settled : settle step tree = (.ok (), after)) :
    step tree = .ok after := by
  unfold settle at settled
  split at settled
  · cases settled
    assumption
  · cases settled

/-- What a step does holds of a settled tree, if it holds of one where nothing is done. -/
theorem settle_of {tree : FileTree} {holds : FileTree → Prop} (still : holds tree)
    (stepped : ∀ after, step tree = .ok after → holds after) : holds (settle step tree).2 := by
  unfold settle
  split
  · rename_i done
    exact stepped _ done
  · exact still

/-- A step that answers that it is done is done, and the process goes on. -/
theorem take_eq_ok {after : FaultyDisk} (taken : take step part disk = (.ok (), after)) :
    step disk.tree = .ok after.tree ∧ after.stopped = false := by
  unfold take at taken
  split at taken
  · cases taken
  · split at taken
    · obtain ⟨answer, rfl⟩ := Prod.mk.inj taken
      exact ⟨settle_eq_ok (Prod.ext answer rfl), rfl⟩
    · cases taken
    · cases taken
    · cases taken

/-- What is done of a step holds of the tree that is left, whatever its fate. -/
theorem take_of {holds : FileTree → Prop} (still : holds disk.tree)
    (partly : ∀ written, holds (part written disk.tree))
    (stepped : ∀ after, step disk.tree = .ok after → holds after) :
    holds (take step part disk).2.tree := by
  unfold take
  split
  · exact still
  · split
    · exact settle_of still stepped
    · exact partly _
    · exact partly _
    · exact settle_of still stepped

/-- A process that goes on after a step that failed did only a part of it. -/
theorem take_eq_error {after : FaultyDisk} {problem : DiskError}
    (taken : take step part disk = (.error problem, after)) (goesOn : after.stopped = false) :
    after.tree = disk.tree ∨ ∃ written, after.tree = part written disk.tree := by
  unfold take at taken
  split at taken
  · rename_i stopped
    cases taken
    rw [stopped] at goesOn
    cases goesOn
  · split at taken
    · obtain ⟨answer, rfl⟩ := Prod.mk.inj taken
      left
      unfold settle at answer ⊢
      split at answer
      · cases answer
      · rfl
    · cases taken
      exact .inr ⟨_, rfl⟩
    · cases taken
      cases goesOn
    · cases taken
      cases goesOn

end FaultyDisk

/-- A program that changes no more of a tree than a file store may, wherever it is interrupted. -/
def Keeps {ε α : Type} (path : Path) (files : List Path)
    (program : ExceptT ε (StateM FaultyDisk) α) : Prop :=
  ∀ disk, Confined path files disk.tree (execute program disk).2.tree

section runs

variable {path : Path} {files : List Path}

theorem confined_take {step : FileTree → Except DiskError FileTree}
    {part : Nat → FileTree → FileTree} {disk : FaultyDisk}
    (partly : ∀ written, Confined path files disk.tree (part written disk.tree))
    (stepped : ∀ after, step disk.tree = .ok after → Confined path files disk.tree after) :
    Confined path files disk.tree (FaultyDisk.take step part disk).2.tree :=
  FaultyDisk.take_of .refl partly stepped

theorem tree_look {α : Type} {failed : DiskError → α} {find : FileTree → α} {disk : FaultyDisk} :
    (FaultyDisk.look failed find disk).2.tree = disk.tree := by
  unfold FaultyDisk.look
  split
  · rfl
  · split <;> rfl

theorem tree_isDirectory (directory : Path) (disk : FaultyDisk) :
    ((Disk.isDirectory directory : StateM FaultyDisk Bool).run disk).2.tree = disk.tree :=
  @tree_look Bool (fun _ => false) (·.isDirectory directory) disk

theorem tree_read (file : Path) (disk : FaultyDisk) :
    ((Disk.read file : StateM FaultyDisk _).run disk).2.tree = disk.tree :=
  @tree_look (Except DiskError (List UInt8)) .error (·.read file) disk

theorem keeps_ensureDirectories {directories : List Path} (apart : Apart path files)
    (lead : ∀ directory ∈ directories, directory.IsNamed ∧
      ∀ start, path.IsAbove start (directory.location start)) :
    Keeps path files
      (Disk.ensureDirectories directories : ExceptT DiskError (StateM FaultyDisk) Unit) := by
  refine @Leads.ensureDirectories FaultyDisk
    (fun disk after => Confined path files disk.tree after.tree) _ (fun _ => .refl)
    (fun _ _ _ => .trans apart) ?looks _ ?makes
  case looks =>
    intro directory disk
    rw [tree_isDirectory]
    exact .refl
  case makes =>
    intro directory member disk
    obtain ⟨isNamed, above⟩ := lead directory member
    change Confined path files disk.tree (FaultyDisk.takeWhole (·.makeDirectory directory) disk).2.tree
    exact confined_take (fun _ => .refl) fun _ => confined_of_makeDirectory isNamed (above _)

end runs

end SeedVault
