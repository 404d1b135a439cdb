/-
A file store beside the store in memory. On a disk where nothing is in the way of the file store and
the program may use what is there, the two answer the same, however they are used, alone or by wallets.
-/

import SeedVault.Proofs.Store.Holding
import SeedVault.Proofs.Store.Refused
import SeedVault.Proofs.Wallet.Call

namespace SeedVault

/-- A machine, and the vaults that were put in a file on it, each with the disk that this left. -/
structure Watcher where
  machine : Machine
  puts : List (Vault × FileTree) := []

namespace Watcher

instance : Entropy (StateM Watcher) where
  draw size := fun watcher =>
    let (bytes, machine) := watcher.machine.draw size
    (bytes, { watcher with machine })

/-- Runs a program on the machine. -/
def onMachine {ε α : Type} (program : ExceptT ε (StateM Machine) α) : ExceptT ε (StateM Watcher) α :=
  ExceptT.mk fun watcher =>
    ((execute program watcher.machine).1,
      { watcher with machine := (execute program watcher.machine).2 })

/-- Takes down a vault and what is on the disk. -/
def note (vault : Vault) : StateM Watcher Unit := fun watcher =>
  ((), { watcher with puts := watcher.puts ++ [(vault, watcher.machine.disk)] })

/-- The store that keeps the vault in a file, and takes down what its puts leave. -/
def file (path : Path) : Store (StateM Watcher) where
  get := onMachine (Store.file path).get
  put vault := do
    onMachine ((Store.file path).put vault)
    ExceptT.lift (note vault)
  clear := onMachine (Store.file path).clear

@[simp] theorem execute_onMachine {ε α : Type} (program : ExceptT ε (StateM Machine) α)
    (watcher : Watcher) :
    execute (onMachine program) watcher =
      ((execute program watcher.machine).1,
        { watcher with machine := (execute program watcher.machine).2 }) := rfl

/-- A put that succeeds is taken down. -/
theorem execute_put (path : Path) (vault : Vault) (watcher : Watcher) :
    execute ((file path).put vault) watcher =
      match execute ((Store.file path).put vault) watcher.machine with
      | (.ok (), machine) => (.ok (), ⟨machine, watcher.puts ++ [(vault, machine.disk)]⟩)
      | (.error problem, machine) => (.error problem, { watcher with machine }) := by
  change execute (onMachine ((Store.file path).put vault) >>= fun _ => ExceptT.lift (note vault)) _ = _
  rw [execute_bind, execute_onMachine]
  rcases execute ((Store.file path).put vault) watcher.machine with ⟨answer, machine⟩
  cases answer <;> rfl

/-- A watcher stands for its machine. -/
def Watches (watcher : Watcher) (machine : Machine) : Prop :=
  watcher.machine = machine

theorem drawsAlike_watches : DrawsAlike Watches := by
  rintro ε problem size ⟨machine, puts⟩ _ rfl
  rw [execute_drawOr, execute_drawOr]
  simp only [Entropy.draw, StateT.run]
  rcases machine.draw size with ⟨bytes, after⟩
  cases bytes <;> exact ⟨rfl, rfl⟩

theorem simulates_onMachine {ε α : Type} (program : ExceptT ε (StateM Machine) α) :
    Simulates Watches (onMachine program) program := by
  rintro watcher _ rfl
  exact ⟨rfl, rfl⟩

/-- Watching changes nothing for a wallet that keeps its vault in a file. -/
theorem alike_watches (path : Path) (policy : Password.Policy) (challengeWords : Nat) :
    Wallet.Alike Watches ⟨file path, policy, challengeWords⟩
      ⟨Store.file path, policy, challengeWords⟩ where
  policy := rfl
  challengeWords := rfl
  get := simulates_onMachine _
  put vault := by
    rintro watcher _ rfl
    rw [execute_put]
    rcases execute ((Store.file path).put vault) watcher.machine with ⟨answer, machine⟩
    cases answer <;> exact ⟨rfl, rfl⟩
  clear := simulates_onMachine _

/-- The file on one machine holds the vault in the memory of another one. Since the start, no other
file was changed, and every put left just the file that it should. -/
structure Mirrors (path : Path) (start : FileTree) (watcher : Watcher) (other : Machine) : Prop where
  entropy : watcher.machine.entropy = other.entropy
  admits : watcher.machine.disk.Admits path
  grants : watcher.machine.disk.Grants path
  holds : watcher.machine.disk.Holds path other.vault
  confined : Confined path [Store.draftPath path, path] start watcher.machine.disk
  puts : ∀ put ∈ watcher.puts, put.2.HasWritten path put.1

variable {path : Path} {start : FileTree}

theorem drawsAlike_mirrors : DrawsAlike (Mirrors path start) := by
  intro ε problem size watcher other mirrors
  rw [execute_drawOr, execute_drawOr]
  simp only [Entropy.draw, StateT.run, Machine.draw, mirrors.entropy]
  cases takeBytes? size other.entropy with
  | none => exact ⟨rfl, mirrors⟩
  | some pair =>
      exact ⟨rfl, rfl, mirrors.admits, mirrors.grants, mirrors.holds, mirrors.confined, mirrors.puts⟩

/-- What is in the memory stays what is in the file. -/
theorem Mirrors.step {watcher : Watcher} {other : Machine} {stored : Option Vault}
    (mirrors : Mirrors path start watcher other) (usable : path.IsUsable) {disk : FileTree}
    (grants : disk.Grants path) (holds : disk.Holds path stored)
    (confined : Confined path [Store.draftPath path, path] watcher.machine.disk disk)
    {puts : List (Vault × FileTree)} (tidy : ∀ put ∈ puts, put.2.HasWritten path put.1) :
    Mirrors path start ⟨{ watcher.machine with disk }, puts⟩ { other with vault := stored } := by
  obtain ⟨names, name, layout⟩ := usable.toIsPlain.exists_layout
  exact ⟨mirrors.entropy, confined.admits layout layout.apart_files mirrors.admits, grants, holds,
    mirrors.confined.trans layout.apart_files confined, tidy⟩

/-- A file and the memory are alike for a wallet. -/
theorem alike_mirrors (usable : path.IsUsable) (policy : Password.Policy) (challengeWords : Nat) :
    Wallet.Alike (Mirrors path start) ⟨file path, policy, challengeWords⟩
      ⟨Store.memory, policy, challengeWords⟩ where
  policy := rfl
  challengeWords := rfl
  get := by
    intro watcher other mirrors
    change (execute (onMachine (Store.file path).get) watcher).1 = .ok other.vault ∧
      Mirrors path start (execute (onMachine (Store.file path).get) watcher).2 other
    rw [execute_onMachine, Store.get_of_holds mirrors.holds]
    exact ⟨rfl, mirrors⟩
  put vault := by
    intro watcher other mirrors
    obtain ⟨disk, ran, written, holds, confined⟩ :=
      Store.put_works usable mirrors.admits mirrors.grants vault
    change (execute ((file path).put vault) watcher).1 = .ok () ∧
      Mirrors path start (execute ((file path).put vault) watcher).2 { other with vault := some vault }
    rw [execute_put, ran]
    refine ⟨rfl, mirrors.step usable written.grants holds confined fun put member => ?_⟩
    rcases List.mem_append.mp member with member | member
    · exact mirrors.puts put member
    · rw [List.mem_singleton.mp member]
      exact written
  clear := by
    intro watcher other mirrors
    obtain ⟨disk, ran, holds, grants, confined⟩ :=
      Store.clear_works usable mirrors.admits mirrors.grants mirrors.holds
    change (execute (onMachine (Store.file path).clear) watcher).1 = .ok () ∧
      Mirrors path start (execute (onMachine (Store.file path).clear) watcher).2
        { other with vault := none }
    rw [execute_onMachine, ran]
    exact ⟨rfl, mirrors.step usable grants holds confined mirrors.puts⟩

end Watcher

/-- A use of a store, by itself or by a wallet. -/
inductive Use
  | get
  | put (vault : Vault)
  | clear
  | byWallet (call : Call)

/-- What a use answers. -/
inductive Answer
  | stored (answer : Except StoreError (Option Vault))
  | done (answer : Except StoreError Unit)
  | called (answer : Except WalletError Reply)

namespace Use

section runs

variable {σ : Type} [Entropy (StateM σ)]

/-- What a use of a store answers, and the state it leaves. -/
def run (store : Store (StateM σ)) : Use → σ → Answer × σ
  | .get, state => (execute store.get state).map .stored id
  | .put vault, state => (execute (store.put vault) state).map .done id
  | .clear, state => (execute store.clear state).map .done id
  | .byWallet call, state =>
    (execute (Wallet.perform ⟨store, call.policy, call.challengeWords⟩ call.operation) state).map
      .called id

/-- Uses a store over and over. -/
def runAll (store : Store (StateM σ)) : List Use → σ → List Answer × σ
  | [], state => ([], state)
  | use :: uses, state =>
    let first := use.run store state
    let rest := runAll store uses first.2
    (first.1 :: rest.1, rest.2)

end runs

section alike

variable {σ τ : Type} [Entropy (StateM σ)] [Entropy (StateM τ)] {related : σ → τ → Prop}
  {left : Store (StateM σ)} {right : Store (StateM τ)} {state : σ} {other : τ}

/-- Stores that work alike for wallets answer every use alike. -/
theorem run_alike
    (alike : ∀ policy challengeWords,
      Wallet.Alike related ⟨left, policy, challengeWords⟩ ⟨right, policy, challengeWords⟩)
    (draws : DrawsAlike related) (start : related state other) (use : Use) :
    (use.run left state).1 = (use.run right other).1 ∧
      related (use.run left state).2 (use.run right other).2 := by
  cases use with
  | get =>
      obtain ⟨same, reached⟩ := (alike {} 3).get state other start
      exact ⟨congrArg Answer.stored same, reached⟩
  | put vault =>
      obtain ⟨same, reached⟩ := (alike {} 3).put vault state other start
      exact ⟨congrArg Answer.done same, reached⟩
  | clear =>
      obtain ⟨same, reached⟩ := (alike {} 3).clear state other start
      exact ⟨congrArg Answer.done same, reached⟩
  | byWallet call =>
      obtain ⟨same, reached⟩ :=
        (alike call.policy call.challengeWords).perform draws call.operation state other start
      exact ⟨congrArg Answer.called same, reached⟩

theorem runAll_alike
    (alike : ∀ policy challengeWords,
      Wallet.Alike related ⟨left, policy, challengeWords⟩ ⟨right, policy, challengeWords⟩)
    (draws : DrawsAlike related) (start : related state other) (uses : List Use) :
    (runAll left uses state).1 = (runAll right uses other).1 ∧
      related (runAll left uses state).2 (runAll right uses other).2 := by
  induction uses generalizing state other with
  | nil => exact ⟨rfl, start⟩
  | cons use uses ih =>
      obtain ⟨same, reached⟩ := run_alike alike draws start use
      obtain ⟨sameRest, ended⟩ := ih reached
      exact ⟨congrArg₂ List.cons same sameRest, ended⟩

end alike

/-- Where nothing is in its way and it may use an old draft, a file store answers every use just as
the store in memory does that starts with the same vault. Every put, also one by a wallet, leaves the vault in the file and no
draft, and no other file is ever changed. -/
theorem file_refines_memory {path : Path} (usable : path.IsUsable) {machine : Machine}
    (admits : machine.disk.Admits path) (grants : machine.disk.Grants path)
    (holds : machine.disk.Holds path machine.vault) (uses : List Use) :
    let filed := runAll (Store.file path) uses machine
    let kept := runAll Store.memory uses machine
    let watched := runAll (Watcher.file path) uses ⟨machine, []⟩
    filed.1 = kept.1 ∧ filed.2.disk.Holds path kept.2.vault ∧ filed.2.entropy = kept.2.entropy ∧
      Confined path [Store.draftPath path, path] machine.disk filed.2.disk ∧
      watched.1 = filed.1 ∧ watched.2.machine = filed.2 ∧
        ∀ put ∈ watched.2.puts, put.2.HasWritten path put.1 := by
  intro filed kept watched
  have start : Watcher.Mirrors path machine.disk ⟨machine, []⟩ machine :=
    ⟨rfl, admits, grants, holds, .refl, by simp⟩
  have watches : Watcher.Watches ⟨machine, []⟩ machine := rfl
  -- The file is compared with the memory while it is watched, and watching changes nothing.
  obtain ⟨answers, mirrors⟩ :=
    runAll_alike (Watcher.alike_mirrors usable) Watcher.drawsAlike_mirrors start uses
  obtain ⟨sameAnswers, same⟩ :=
    runAll_alike (Watcher.alike_watches path) Watcher.drawsAlike_watches watches uses
  have sameMachine : watched.2.machine = filed.2 := same
  refine ⟨sameAnswers.symm.trans answers, ?_, ?_, ?_, sameAnswers, sameMachine, mirrors.puts⟩
  · rw [← sameMachine]
    exact mirrors.holds
  · rw [← sameMachine]
    exact mirrors.entropy
  · rw [← sameMachine]
    exact mirrors.confined

/-- A file with a vault, beside an old draft, is replaced and removed. -/
theorem file_refines_memory_replaced :
    let path : Path := ⟨"vault.json", []⟩
    let vault : Vault := ⟨Vector.replicate 32 1, Vector.replicate 16 2, Vector.replicate 16 3, none⟩
    let tagged : Vault := { vault with mac := some (Vector.replicate 32 4) }
    let machine : Machine :=
      { disk :=
          { start := []
            nodes := [(["vault.json"], .file 0o644 (Text.utf8 vault.prettyText)),
              (["vault.json.tmp"], .file 0o644 [3])] }
        vault := some vault }
    (runAll (Store.file path) [.get, .put tagged, .get, .clear, .get] machine).1 =
      [.stored (.ok (some vault)), .done (.ok ()), .stored (.ok (some tagged)), .done (.ok ()),
        .stored (.ok none)] := by
  intro path vault tagged machine
  have usable : path.IsUsable := Path.isUsable_vault
  have file : machine.disk.node? (path.location machine.disk.start) =
      some (.file 0o644 (Text.utf8 vault.prettyText)) := rfl
  have draft : machine.disk.node? ((Store.draftPath path).location machine.disk.start) =
      some (.file 0o644 [3]) := rfl
  have admits : machine.disk.Admits path :=
    ⟨fun _ above => absurd above Path.not_isAbove_vault, by simp [file], by simp [draft]⟩
  have grants : machine.disk.Grants path := by
    rintro mode ⟨⟩
    exact ⟨rfl, rfl⟩
  have isOpen : machine.disk.IsOpen path := fun _ above => absurd above Path.not_isAbove_vault
  have reaches := FileTree.resolve_of_isOpen usable.isAccepted isOpen
  have holds : machine.disk.Holds path machine.vault :=
    ⟨vault.prettyText, FileTree.read_of_file reaches usable.noSlash file rfl, vault.ofText_prettyText⟩
  exact (file_refines_memory usable admits grants holds _).1

section different

variable {path : Path} {vault : Vault} {machine : Machine}

theorem runAll_put_ne (fails : (execute ((Store.file path).put vault) machine).1 ≠ .ok ()) :
    (runAll (Store.file path) [.put vault] machine).1 ≠
      (runAll Store.memory [.put vault] machine).1 := by
  intro same
  change [Answer.done (execute ((Store.file path).put vault) machine).1] = [.done (.ok ())] at same
  exact fails (by simpa using same)

theorem runAll_get_ne (fails : (execute (Store.file path).get machine).1 ≠ .ok machine.vault) :
    (runAll (Store.file path) [.get] machine).1 ≠ (runAll Store.memory [.get] machine).1 := by
  intro same
  change [Answer.stored (execute (Store.file path).get machine).1] = [.stored (.ok machine.vault)] at same
  exact fails (by simpa using same)

theorem runAll_put_get_ne (fails : (execute (Store.file path).get
      (execute ((Store.file path).put vault) machine).2).1 ≠ .ok (some vault)) :
    (runAll (Store.file path) [.put vault, .get] machine).1 ≠
      (runAll Store.memory [.put vault, .get] machine).1 := by
  intro same
  change [Answer.done _, Answer.stored (execute (Store.file path).get
    (execute ((Store.file path).put vault) machine).2).1] = [_, .stored (.ok (some vault))] at same
  simp only [List.cons.injEq, Answer.stored.injEq] at same
  exact fails same.2.1

end different

/-- Names are not enough for the stores to be alike: the path may end in a slash, or be so long that
the path of the draft is too long. On any path, there may be a draft that the program must not write
to, one that it must not read when it is the vault, or a vault that it must not read. -/
theorem file_differs_from_memory :
    let vault : Vault := ⟨Vector.replicate 32 1, Vector.replicate 16 2, Vector.replicate 16 3, none⟩
    let machine : Machine := { disk := { start := [] } }
    let answers (store : Store (StateM Machine)) := (runAll store [.put vault] machine).1
    let path : Path := ⟨"vault.json", []⟩
    let drafted (mode : Nat) : Machine :=
      { disk := { start := [], nodes := [(["vault.json.tmp"], .file mode [3])] } }
    let stored : Machine :=
      { disk := { start := [], nodes := [(["vault.json"], .file 0o200 (Text.utf8 vault.prettyText))] }
        vault := some vault }
    (Path.slashed.Fits ∧ machine.disk.Admits Path.slashed ∧
        machine.disk.Holds Path.slashed machine.vault ∧
        answers (Store.file Path.slashed) ≠ answers Store.memory) ∧
      (Path.nested 2047).Fits ∧ machine.disk.Admits (Path.nested 2047) ∧
        machine.disk.Holds (Path.nested 2047) machine.vault ∧
        answers (Store.file (Path.nested 2047)) ≠ answers Store.memory ∧
      path.IsUsable ∧
        (∀ mode, (drafted mode).disk.Admits path ∧ (drafted mode).disk.Holds path none) ∧
        (runAll (Store.file path) [.put vault] (drafted 0o400)).1 ≠
          (runAll Store.memory [.put vault] (drafted 0o400)).1 ∧
        (runAll (Store.file path) [.put vault, .get] (drafted 0o200)).1 ≠
          (runAll Store.memory [.put vault, .get] (drafted 0o200)).1 ∧
        stored.disk.Admits path ∧ Vault.ofText vault.prettyText = .ok vault ∧
        (runAll (Store.file path) [.get] stored).1 ≠ (runAll Store.memory [.get] stored).1 := by
  intro vault machine answers path drafted stored
  have holdsNone {path : Path} (fits : path.Fits)
      (short : path.text.utf8ByteSize ≤ FileTree.longestPath) :
      machine.disk.Holds path machine.vault := by
    refine FileTree.read_of_none (fits.isAccepted short)
      (FileTree.admits_of_empty fits.toIsPlain []).isClear ?_
    rw [FileTree.node?, if_neg (fits.toIsPlain.isNamed.location_ne_nil _)]
    rfl
  have clear {tree : FileTree} : tree.IsClear path := fun _ above =>
    absurd above Path.not_isAbove_vault
  obtain ⟨short, long⟩ := Path.utf8ByteSize_text_nested 2046
  refine ⟨⟨Path.slashed_fits, FileTree.admits_of_empty Path.slashed_fits.toIsPlain [],
      holdsNone Path.slashed_fits (by decide), runAll_put_ne ?_⟩,
    Path.nested_fits 2047, FileTree.admits_of_empty (Path.nested_isPlain 2047) [],
      holdsNone (Path.nested_fits 2047) ?_, runAll_put_ne ?_, Path.isUsable_vault,
    fun mode => ⟨⟨clear, by rintro ⟨⟩, by rintro ⟨⟩⟩,
      FileTree.read_of_none Path.isUsable_vault.isAccepted clear rfl⟩,
    runAll_put_ne (by decide +kernel), runAll_put_get_ne (by decide +kernel),
    ⟨clear, by rintro ⟨⟩, by rintro ⟨⟩⟩, vault.ofText_prettyText, runAll_get_ne (by decide +kernel)⟩
  · exact Store.put_ne_ok_of_endsInSlash rfl vault _
  · rw [short]
    decide
  · refine Store.put_ne_ok_of_long ?_ vault _
    rw [long]
    decide

end Use

end SeedVault
