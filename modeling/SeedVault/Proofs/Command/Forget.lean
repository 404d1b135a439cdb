/-
Forgetting a vault that is kept in a file. The command looks at the vault before it asks, so that
a confirmed deletion empties the store exactly if what is stored can be read.
-/

import SeedVault.Proofs.Command.Outcome
import SeedVault.Proofs.Disk.Rooted
import SeedVault.Proofs.Store.Holding

namespace SeedVault

/-- What a store makes of what is at a path: there is no file, the file holds a record, or it is
damaged, because it is no text or a text that is no record. -/
inductive FileTree.Shows (tree : FileTree) (path : Path) : Except StoreError (Option Vault) → Prop
  | absent : tree.read path = .error .notFound → Shows tree path (.ok none)
  | record {bytes : List UInt8} {text : String} {vault : Vault} :
      tree.read path = .ok bytes → Text.ofUtf8? bytes = some text → Vault.ofText text = .ok vault →
        Shows tree path (.ok (some vault))
  | notText {bytes : List UInt8} :
      tree.read path = .ok bytes → Text.ofUtf8? bytes = none →
        Shows tree path (.error (.disk .notUtf8))
  | notRecord {bytes : List UInt8} {text : String} {cause : Vault.TextError} :
      tree.read path = .ok bytes → Text.ofUtf8? bytes = some text →
        Vault.ofText text = .error cause → Shows tree path (.error (.corrupt cause))

namespace FileTree.Shows

variable {path : Path} {machine : Machine} {found : Except StoreError (Option Vault)}

/-- Every file that can be read shows something. -/
theorem exists_of_read {tree : FileTree} {bytes : List UInt8} (reads : tree.read path = .ok bytes) :
    ∃ found, tree.Shows path found := by
  cases decoded : Text.ofUtf8? bytes with
  | none => exact ⟨_, .notText reads decoded⟩
  | some text =>
      cases states : Vault.ofText text with
      | error cause => exact ⟨_, .notRecord reads decoded states⟩
      | ok vault => exact ⟨_, .record reads decoded states⟩

theorem execute_get (shows : machine.disk.Shows path found) :
    execute (Store.file path).get machine = (found, machine) := by
  change execute (Store.readFile path) machine = _
  rw [execute_readFile]
  cases shows with
  | absent missing => rw [missing]
  | notText reads decoded =>
      rw [reads]
      dsimp only
      rw [decoded]
  | record reads decoded states | notRecord reads decoded states =>
      rw [reads]
      dsimp only
      rw [decoded]
      dsimp only
      rw [states]
      rfl

/-- Where there is not nothing, something can be read. -/
theorem exists_read_of_ne {tree : FileTree} (shows : tree.Shows path found) (isThere : found ≠ .ok none) :
    ∃ bytes, tree.read path = .ok bytes := by
  cases shows with
  | absent => exact absurd rfl isThere
  | record reads | notText reads | notRecord reads => exact ⟨_, reads⟩

end FileTree.Shows

/-- The file at a path is gone, and nothing else is different. -/
structure FileTree.Lost (path : Path) (before after : FileTree) : Prop where
  gone : after.read path = .error .notFound
  others (place : Location) :
    place ≠ path.place before.start → after.node? place = before.node? place

namespace Wallet

variable {wallet : Wallet (StateM Machine)} {path : Path} {machine : Machine}
  {found : Except StoreError (Option Vault)} {cause : StoreError}

/-- Removing a file does not mind what is in it. -/
theorem execute_forget_of_ne (inFile : wallet.store = Store.file path)
    (rooted : machine.disk.IsRooted) (shows : machine.disk.Shows path found)
    (isThere : found ≠ .ok none) :
    ∃ disk, machine.disk.Lost path disk ∧
      execute wallet.forget machine = (.ok (), { machine with disk }) := by
  obtain ⟨bytes, reads⟩ := shows.exists_read_of_ne isThere
  obtain ⟨removed, gone⟩ := rooted.remove_of_read reads
  refine ⟨_, ⟨gone, fun place elsewhere => FileTree.node?_erase_of_ne elsewhere⟩, ?_⟩
  rw [forget, execute_adapt, inFile, execute_clear, removed]
  rfl

variable (got : execute wallet.store.get machine = (.error cause, machine))

include got

theorem execute_hasVault_of_error : execute wallet.hasVault machine = (.error (.store cause), machine) := by
  rw [execute_hasVault_eq, got]
  rfl

/-- Without a look at what is stored nothing is imported, unless it may be replaced. -/
theorem execute_importSeed_of_error (input password confirmation : String) :
    execute (wallet.importSeed input password confirmation false) machine =
      (.error (.store cause), machine) := by
  unfold importSeed
  dsimp only
  rw [if_neg Bool.false_ne_true, execute_bind, execute_hasVault_of_error got]

end Wallet

namespace Command

variable {wallet : Wallet (StateM Machine)} {path : Path} {machine : Machine}
  {found : Except StoreError (Option Vault)} {cause : StoreError} {line : String}
  {rest : List UInt8}

/-- What is written before a vault is deleted. -/
def forgetPrompt : String :=
  "This deletes the vault. Without the recovery phrase the funds are lost." ++ "\n" ++
    ("Type 'forget' to confirm:" ++ " ")

/-- What is stored is looked at before anything is asked. -/
theorem execute_forget_of_error
    (got : execute wallet.store.get machine = (.error cause, machine)) :
    execute (forget wallet) machine = (.error (.wallet (.store cause)), machine) := by
  rw [forget, execute_bind, execute_adapt, Wallet.execute_hasVault_of_error got]
  rfl

theorem execute_forget_of_none (got : execute wallet.store.get machine = (.ok none, machine)) :
    execute (forget wallet) machine = (.ok (), machine.write ("No vault stored." ++ "\n")) := by
  rw [forget, execute_bind, execute_adapt, Wallet.execute_hasVault_eq, got]
  rfl

/-- A vault that is found is deleted if that is confirmed. -/
theorem execute_forget_of_some {vault : Vault}
    (got : execute wallet.store.get machine = (.ok (some vault), machine))
    (typed : Types machine.input line rest) (confirmed : Text.trim line = "forget") :
    execute (forget wallet) machine =
      execute (do wallet.forget.adapt CommandError.wallet; say "Vault deleted.")
        (machine.exchange forgetPrompt rest) := by
  rw [forget, execute_bind, execute_adapt, Wallet.execute_hasVault_eq, got]
  change execute (do
    say _
    let answer ← ask _
    unless Text.trim answer = "forget" do throw .forgetNotConfirmed
    wallet.forget.adapt .wallet
    say "Vault deleted.") machine = _
  have asked (text : String) : Types (machine.write text).input line rest := typed
  rw [execute_bind, execute_say]
  dsimp only
  rw [execute_bind, execute_ask_of_types (asked _)]
  dsimp only
  rw [if_pos confirmed, Machine.write_exchange]
  rfl

/-- A record in a file is removed, if that is confirmed. -/
theorem execute_forget_of_record {vault : Vault} (inFile : wallet.store = Store.file path)
    (rooted : machine.disk.IsRooted) (shows : machine.disk.Shows path (.ok (some vault)))
    (typed : Types machine.input line rest) (confirmed : Text.trim line = "forget") :
    ∃ disk, machine.disk.Lost path disk ∧
      execute (forget wallet) machine = (.ok (), { machine with disk }.exchange
        (forgetPrompt ++ ("Vault deleted." ++ "\n")) rest) := by
  have got : execute wallet.store.get machine = (.ok (some vault), machine) := by
    rw [inFile]
    exact shows.execute_get
  obtain ⟨disk, lost, forgotten⟩ := @Wallet.execute_forget_of_ne wallet path
    (machine.exchange forgetPrompt rest) _ inFile rooted shows (by simp)
  refine ⟨disk, lost, ?_⟩
  rw [execute_forget_of_some got typed confirmed, execute_bind, execute_adapt, forgotten]
  dsimp only [Except.mapError]
  rw [execute_say]
  exact congrArg (Prod.mk _) (Machine.exchange_write { machine with disk } _ _ rest)

/-- A confirmed deletion empties the store exactly if what is stored is not damaged. Of a damaged
file it tells what is wrong before it asks for anything, and leaves the file, so that no wallet is
made or imported without force either; the wallet itself would remove it. -/
theorem forget_empties_iff_undamaged (inFile : wallet.store = Store.file path)
    (rooted : machine.disk.IsRooted) (shows : machine.disk.Shows path found)
    (typed : Types machine.input line rest) (confirmed : Text.trim line = "forget") :
    let outcome := execute (forget wallet) machine
    (∀ bytes, machine.disk.read path = .ok bytes → ∃ shown, machine.disk.Shows path shown) ∧
    ((outcome.1 = .ok () ∧ outcome.2.disk.read path = .error .notFound) ↔
      ∃ stored, found = .ok stored) ∧
    (found = .ok none → outcome = (.ok (), machine.write ("No vault stored." ++ "\n"))) ∧
    (∀ vault, found = .ok (some vault) → ∃ disk, machine.disk.Lost path disk ∧
      outcome = (.ok (), { machine with disk }.exchange
        (forgetPrompt ++ ("Vault deleted." ++ "\n")) rest)) ∧
    ∀ cause, found = .error cause →
      outcome = (.error (.wallet (.store cause)), machine) ∧
      execute (create wallet) machine = (.error (.wallet (.store cause)), machine) ∧
      (∀ input password confirmation,
        execute (wallet.importSeed input password confirmation false) machine =
          (.error (.store cause), machine)) ∧
      ∃ disk, machine.disk.Lost path disk ∧
        execute wallet.forget machine = (.ok (), { machine with disk }) := by
  have got : execute wallet.store.get machine = (found, machine) := by
    rw [inFile]
    exact shows.execute_get
  intro outcome
  refine ⟨fun _ => FileTree.Shows.exists_of_read, ⟨?undamaged, ?emptied⟩, ?absent, ?record,
    ?damaged⟩
  case undamaged =>
    rintro ⟨worked, _⟩
    cases found with
    | error cause =>
        rw [show outcome = _ from execute_forget_of_error got] at worked
        cases worked
    | ok stored => exact ⟨stored, rfl⟩
  case emptied =>
    rintro ⟨_ | vault, rfl⟩
    · cases shows with
      | absent missing =>
          rw [show outcome = _ from execute_forget_of_none got]
          exact ⟨rfl, missing⟩
    · obtain ⟨disk, lost, ran⟩ := execute_forget_of_record inFile rooted shows typed confirmed
      rw [show outcome = _ from ran]
      exact ⟨rfl, lost.gone⟩
  case absent =>
    rintro rfl
    exact execute_forget_of_none got
  case record =>
    rintro vault rfl
    exact execute_forget_of_record inFile rooted shows typed confirmed
  case damaged =>
    rintro cause rfl
    refine ⟨execute_forget_of_error got, ?_, Wallet.execute_importSeed_of_error got,
      Wallet.execute_forget_of_ne inFile rooted shows (by simp)⟩
    rw [create, execute_bind, execute_adapt, Wallet.execute_hasVault_of_error got]
    rfl

/-- A record is deleted, and a file that is no text is not, though the wallet could remove it. -/
theorem forget_empties_iff_undamaged_bytes :
    let path : Path := ⟨"vault.json", []⟩
    let wallet : Wallet (StateM Machine) := { store := Store.file path }
    let vault : Vault := ⟨Vector.replicate 32 1, Vector.replicate 16 2, Vector.replicate 16 3, none⟩
    let machine (content : List UInt8) : Machine :=
      { disk := { start := [], nodes := [(["vault.json"], .file 0o600 content)] }
        input := inputOf [" forget\t"] }
    let kept := machine (Text.utf8 vault.prettyText)
    let damaged := machine [255]
    (execute (forget wallet) kept).1 = .ok () ∧
      (execute (forget wallet) kept).2.disk.read path = .error .notFound ∧
      execute (forget wallet) damaged = (.error (.wallet (.store (.disk .notUtf8))), damaged) ∧
      ∃ disk, damaged.disk.Lost path disk ∧
        execute wallet.forget damaged = (.ok (), { damaged with disk }) := by
  intro path wallet vault machine kept damaged
  have typed (content : List UInt8) : Types (machine content).input " forget\t" [] :=
    types_of_isTypeable (by decide) []
  have confirmed : Text.trim " forget\t" = "forget" := by decide +kernel
  have rooted (content : List UInt8) : (machine content).disk.IsRooted :=
    FileTree.isRooted_singleton "vault.json" _
  have reads (content : List UInt8) : (machine content).disk.read path = .ok content := by
    have isOpen : (machine content).disk.IsOpen path :=
      fun _ above => absurd above Path.not_isAbove_vault
    exact FileTree.read_of_file
      (FileTree.resolve_of_isOpen Path.isUsable_vault.isAccepted isOpen)
      Path.isUsable_vault.noSlash rfl rfl
  have record : kept.disk.Shows path (.ok (some vault)) :=
    .record (reads _) (Text.ofUtf8?_utf8 _) vault.ofText_prettyText
  have noText : damaged.disk.Shows path (.error (.disk .notUtf8)) :=
    .notText (reads _) (by decide +kernel)
  obtain ⟨_, emptied, _⟩ :=
    @forget_empties_iff_undamaged wallet path _ _ _ _ rfl (rooted _) record (typed _) confirmed
  obtain ⟨_, _, _, _, blocked⟩ :=
    @forget_empties_iff_undamaged wallet path _ _ _ _ rfl (rooted _) noText (typed _) confirmed
  obtain ⟨worked, gone⟩ := emptied.mpr ⟨_, rfl⟩
  obtain ⟨failed, _, _, removable⟩ := blocked _ rfl
  exact ⟨worked, gone, failed, removable⟩

/-- A file that is no record is not deleted, though the deletion is confirmed. -/
theorem forget_not_emptied :
    let path : Path := ⟨"vault.json", []⟩
    let wallet : Wallet (StateM Machine) := { store := Store.file path }
    let tree : FileTree :=
      { start := [], nodes := [(["vault.json"], .file 0o644 [104, 97, 108, 102])] }
    let machine : Machine := { disk := tree, input := inputOf ["forget"] }
    let outcome := execute (forget wallet) machine
    Types machine.input "forget" [] ∧ Text.trim "forget" = "forget" ∧ outcome.1 ≠ .ok () ∧
      outcome.2.disk.read path = .ok [104, 97, 108, 102] := by
  intro path wallet tree machine outcome
  exact ⟨types_of_isTypeable (by decide) [], by decide +kernel, by decide +kernel, by decide +kernel⟩

end Command

end SeedVault
