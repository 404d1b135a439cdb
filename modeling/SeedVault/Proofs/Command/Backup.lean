/-
The rounds in which the words of a new phrase are asked back. A wrong round leaves the machine
as it was, but for the lines read and written, and the first right one seals the seed.
-/

import SeedVault.Proofs.Terminal
import SeedVault.Proofs.Wallet.Sealings

namespace SeedVault

namespace Command

theorem execute_say (text : String) (machine : Machine) :
    execute (say text : ExceptT CommandError (StateM Machine) Unit) machine =
      (.ok (), machine.write (text ++ "\n")) := rfl

theorem execute_hasVault (policy : Password.Policy) (challengeWords : Nat) (machine : Machine) :
    execute ((Wallet.inMemory policy challengeWords).hasVault.adapt CommandError.wallet) machine =
      (.ok machine.vault.isSome, machine) := rfl

/-- Some texts are written, each on a line of its own. -/
theorem execute_forM_say {α : Type} (items : List α) (line : α → String) (machine : Machine) :
    execute (items.forM fun item => say (line item) : ExceptT CommandError (StateM Machine) Unit)
        machine =
      (.ok (), machine.write (String.join (items.map fun item => line item ++ "\n"))) := by
  induction items generalizing machine with
  | nil => rw [List.map_nil, String.join_nil, Machine.write_empty]; rfl
  | cons item items ih =>
      change execute (say (line item) >>= fun _ => items.forM _) machine = _
      rw [execute_bind, execute_say]
      dsimp only
      rw [ih, Machine.write_write, List.map_cons, String.join_cons]

theorem execute_ask_eq_ok_iff {prompt answer : String} {machine after : Machine} :
    execute (ask prompt : ExceptT CommandError (StateM Machine) String) machine =
        (.ok answer, after) ↔
      ∃ rest, Types machine.input answer rest ∧
        after = machine.exchange (prompt ++ " ") rest := by
  rw [ask, execute_adapt_eq_ok_iff, Terminal.execute_ask_eq_ok_iff]

theorem execute_ask_of_types {machine : Machine} {answer : String} {rest : List UInt8}
    (typed : Types machine.input answer rest) (prompt : String) :
    execute (ask prompt : ExceptT CommandError (StateM Machine) String) machine =
      (.ok answer, machine.exchange (prompt ++ " ") rest) :=
  execute_ask_eq_ok_iff.mpr ⟨rest, typed, rfl⟩

/-- Some prompts are answered by as many lines. -/
theorem execute_mapM_ask_eq_ok_iff {α : Type} {items : List α} {prompt : α → String}
    {answers : List String} {machine after : Machine} :
    execute (items.mapM fun item => ask (prompt item) :
        ExceptT CommandError (StateM Machine) (List String)) machine = (.ok answers, after) ↔
      answers.length = items.length ∧ ∃ rest, TypesAll machine.input answers rest ∧
        after = machine.exchange (String.join (items.map fun item => prompt item ++ " ")) rest := by
  induction items generalizing machine answers after with
  | nil =>
      rw [List.mapM_nil, execute_pure]
      constructor
      · rintro ⟨⟩
        refine ⟨rfl, _, .nothing, ?_⟩
        rw [List.map_nil, String.join_nil, Machine.exchange_empty]
      · rintro ⟨none, rest, typed, rfl⟩
        obtain rfl := List.eq_nil_of_length_eq_zero none
        obtain rfl := TypesAll.nil_iff.mp typed
        rw [List.map_nil, String.join_nil, Machine.exchange_empty]
  | cons item items ih =>
      rw [List.mapM_cons, execute_bind_eq_ok_iff, List.map_cons, String.join_cons]
      constructor
      · rintro ⟨answer, middle, asked, ran⟩
        obtain ⟨left, typed, rfl⟩ := execute_ask_eq_ok_iff.mp asked
        obtain ⟨others, last, ranOthers, done⟩ := execute_bind_eq_ok_iff.mp ran
        cases done
        obtain ⟨length, rest, typedOthers, rfl⟩ := ih.mp ranOthers
        refine ⟨congrArg Nat.succ length, rest, .answer typed typedOthers, ?_⟩
        rw [Machine.exchange_exchange]
      · rintro ⟨length, rest, typed, rfl⟩
        cases answers with
        | nil => cases length
        | cons answer others =>
            obtain ⟨left, typedFirst, typedOthers⟩ := TypesAll.cons_iff.mp typed
            have asked := execute_ask_of_types typedFirst (prompt item)
            refine ⟨answer, _, asked, execute_bind_eq_ok_iff.mpr ⟨others, _, ih.mpr
              ⟨Nat.succ.inj length, rest, typedOthers, rfl⟩, ?_⟩⟩
            rw [Machine.exchange_exchange]
            rfl

end Command

/-- Answers are right if their normal forms are the words asked for. -/
theorem Challenge.verify_eq_true_iff {challenge : Challenge} {phrase : Phrase}
    {answers : List String} :
    challenge.verify phrase answers = true ↔
      answers.map normalForm = challenge.places.map phrase.word :=
  beq_iff_eq

/-- Stores a vault, with some random bytes left. -/
def Machine.storing (machine : Machine) (vault : Vault) (entropy : List UInt8) : Machine :=
  { machine with entropy, vault := some vault }

theorem Machine.storing_write (machine : Machine) (vault : Vault) (entropy : List UInt8)
    (text : String) :
    (machine.storing vault entropy).write text = (machine.write text).storing vault entropy := rfl

namespace Wallet

variable {seed : Seed} {password : String} {machine after : Machine} {answer : Except WalletError Unit}
  {accesses : List Access} {salt iv : Bytes 16} {rest : List UInt8}

/-- With random bytes enough a seed is sealed and stored. -/
theorem Stores.of_enough (stores : Stores seed password machine answer accesses after)
    (enough : machine.entropy = salt.toList ++ (iv.toList ++ rest)) :
    answer = .ok () ∧ after = machine.storing (Vault.lockWith seed password salt iv) rest := by
  have long := Bytes.add_le_length enough
  cases answer with
  | error cause =>
      have short := stores.cause_of_error.2
      omega
  | ok _ =>
      cases stores with
      | stored taken =>
          obtain ⟨rfl, more⟩ := Bytes.append_inj (taken.symm.trans enough)
          obtain ⟨rfl, rfl⟩ := Bytes.append_inj more
          exact ⟨rfl, rfl⟩

variable {policy : Password.Policy} {challengeWords : Nat} {pending : PendingWallet}
  {answers : List String}

theorem finishes_of_execute {answer : Except WalletError UnlockedWallet}
    (ran : execute ((inMemory policy challengeWords).finishCreate pending answers) machine =
      (answer, after)) : ∃ accesses, Finishes pending answers machine answer accesses after :=
  (finishCreate_meets rfl pending answers).unrecorded
    ((Recorder.alike policy challengeWords).finishCreate Recorder.drawsAlike pending answers) ran

/-- Wrong answers change nothing. -/
theorem finishCreate_eq_backupNotConfirmed_iff :
    execute ((inMemory policy challengeWords).finishCreate pending answers) machine =
        (.error .backupNotConfirmed, after) ↔
      pending.challenge.verify pending.phrase answers = false ∧ after = machine := by
  constructor
  · intro ran
    obtain ⟨_, finishes⟩ := finishes_of_execute ran
    cases finishes with
    | unconfirmed unverified => exact ⟨unverified, rfl⟩
    | unsealed _ stores => cases stores.cause_of_error.1
  · rintro ⟨unverified, rfl⟩
    rw [finishCreate, unverified]
    rfl

/-- Right answers seal the seed of the phrase, if there are random bytes for it. -/
theorem finishCreate_eq_ok_iff {unlocked : UnlockedWallet} :
    execute ((inMemory policy challengeWords).finishCreate pending answers) machine =
        (.ok unlocked, after) ↔
      pending.challenge.verify pending.phrase answers = true ∧
        unlocked = ⟨Seed.ofPhrase pending.phrase, .tagged⟩ ∧
        ∃ (salt iv : Bytes 16) (rest : List UInt8),
          machine.entropy = salt.toList ++ (iv.toList ++ rest) ∧
          after = machine.storing
            (Vault.lockWith (Seed.ofPhrase pending.phrase) pending.password salt iv) rest := by
  constructor
  · intro ran
    obtain ⟨_, finishes⟩ := finishes_of_execute ran
    -- the answer is generalized, for else its seed would be computed
    generalize answered : Except.ok unlocked = answer at finishes
    cases finishes with
    | unconfirmed | unsealed => cases answered
    | finished verified stores =>
        refine ⟨verified, Except.ok.inj answered, ?_⟩
        cases stores with
        | @stored salt iv rest enough => exact ⟨salt, iv, rest, enough, rfl⟩
  · rintro ⟨verified, rfl, salt, iv, rest, enough, rfl⟩
    rcases ran : execute ((inMemory policy challengeWords).finishCreate pending answers) machine with
      ⟨answer, reached⟩
    obtain ⟨_, finishes⟩ := finishes_of_execute ran
    cases finishes with
    | unconfirmed unverified => cases verified.symm.trans unverified
    | unsealed _ stores => cases (stores.of_enough enough).1
    | finished _ stores => rw [(stores.of_enough enough).2]

/-- If a new wallet is not finished, then the vault stays as it is. -/
theorem finishCreate_vault_of_error {cause : WalletError}
    (ran : execute ((inMemory policy challengeWords).finishCreate pending answers) machine =
      (.error cause, after)) : after.vault = machine.vault := by
  obtain ⟨_, finishes⟩ := finishes_of_execute ran
  cases finishes with
  | unconfirmed => rfl
  | unsealed _ stores => exact stores.writes_of_error.unchanged

end Wallet

namespace Command

/-- The prompts of a round. -/
def wordPrompts (challenge : Challenge) : String :=
  String.join (challenge.places.map fun place => s!"Word #{place.val + 1}:" ++ " ")

/-- What is written after a wrong round that is not the last one. -/
def rejection : String :=
  "Those words do not match the phrase. Check your copy and try again." ++ "\n"

/-- What is written in a wrong round that is not the last one. -/
def wrongRound (challenge : Challenge) : String :=
  wordPrompts challenge ++ rejection

/-- As many answers as are asked for, but wrong ones. -/
structure IsRejected (pending : PendingWallet) (answers : List String) : Prop where
  length : answers.length = pending.challenge.places.length
  unverified : pending.challenge.verify pending.phrase answers = false

theorem isRejected_iff {pending : PendingWallet} {answers : List String} :
    IsRejected pending answers ↔ answers.length = pending.challenge.places.length ∧
      answers.map Challenge.normalForm ≠ pending.challenge.places.map pending.phrase.word := by
  have unverified := Bool.not_eq_true (pending.challenge.verify pending.phrase answers)
  rw [Challenge.verify_eq_true_iff] at unverified
  constructor
  · rintro ⟨length, failed⟩
    exact ⟨length, unverified.mpr failed⟩
  · rintro ⟨length, different⟩
    exact ⟨length, unverified.mp different⟩

variable {policy : Password.Policy} {challengeWords : Nat} {pending : PendingWallet}
  {machine after : Machine} {unlocked : UnlockedWallet}

theorem execute_lift_run {ε α : Type} (program : ExceptT ε (StateM Machine) α) (state : Machine) :
    execute (ExceptT.lift program.run : ExceptT CommandError (StateM Machine) (Except ε α)) state =
      (.ok (execute program state).1, (execute program state).2) := rfl

/-- A round reads one line for each word and takes them to the wallet. -/
theorem tryBackup_eq_ok_iff {result : Except WalletError UnlockedWallet} :
    execute (tryBackup (.inMemory policy challengeWords) pending) machine = (.ok result, after) ↔
      ∃ answers rest, answers.length = pending.challenge.places.length ∧
        TypesAll machine.input answers rest ∧
        execute ((Wallet.inMemory policy challengeWords).finishCreate pending answers)
          (machine.exchange (wordPrompts pending.challenge) rest) = (result, after) := by
  rw [tryBackup, execute_bind_eq_ok_iff]
  simp only [execute_mapM_ask_eq_ok_iff, execute_lift_run]
  constructor
  · rintro ⟨answers, _, ⟨length, rest, typed, rfl⟩, finished⟩
    cases finished
    exact ⟨answers, rest, length, typed, rfl⟩
  · rintro ⟨answers, rest, length, typed, finished⟩
    refine ⟨answers, _, ⟨length, rest, typed, rfl⟩, ?_⟩
    rw [wordPrompts] at finished
    rw [finished]

/-- A round, and what is done after a wrong one. -/
def round (wallet : Wallet (StateM Machine)) (pending : PendingWallet)
    (next : ExceptT CommandError (StateM Machine) UnlockedWallet) :
    ExceptT CommandError (StateM Machine) UnlockedWallet := do
  match ← tryBackup wallet pending with
  | .ok unlocked => return unlocked
  | .error .backupNotConfirmed => next
  | .error cause => throw (.wallet cause)

theorem confirmBackup_zero (wallet : Wallet (StateM Machine)) (pending : PendingWallet) :
    confirmBackup wallet pending 0 = round wallet pending (throw .backupNotConfirmed) := rfl

theorem confirmBackup_succ (wallet : Wallet (StateM Machine)) (pending : PendingWallet)
    (retries : Nat) :
    confirmBackup wallet pending (retries + 1) =
      round wallet pending (do
        say "Those words do not match the phrase. Check your copy and try again."
        confirmBackup wallet pending retries) := rfl

/-- A round ends with a new wallet if the answers are right or if what follows does. -/
theorem round_eq_ok_iff {next : ExceptT CommandError (StateM Machine) UnlockedWallet} :
    execute (round (.inMemory policy challengeWords) pending next) machine =
        (.ok unlocked, after) ↔
      ∃ answers rest, TypesAll machine.input answers rest ∧
        (answers.length = pending.challenge.places.length ∧
          execute ((Wallet.inMemory policy challengeWords).finishCreate pending answers)
            (machine.exchange (wordPrompts pending.challenge) rest) = (.ok unlocked, after) ∨
        IsRejected pending answers ∧
          execute next (machine.exchange (wordPrompts pending.challenge) rest) =
            (.ok unlocked, after)) := by
  rw [round, execute_bind_eq_ok_iff]
  constructor
  · rintro ⟨result, middle, tried, ran⟩
    obtain ⟨answers, rest, length, typed, finished⟩ := tryBackup_eq_ok_iff.mp tried
    refine ⟨answers, rest, typed, ?_⟩
    split at ran
    · cases ran
      exact .inl ⟨length, finished⟩
    · obtain ⟨unverified, rfl⟩ := Wallet.finishCreate_eq_backupNotConfirmed_iff.mp finished
      exact .inr ⟨⟨length, unverified⟩, ran⟩
    · cases ran
  · rintro ⟨answers, rest, typed, ⟨length, finished⟩ | ⟨isRejected, ran⟩⟩
    · exact ⟨.ok unlocked, after, tryBackup_eq_ok_iff.mpr ⟨answers, rest, length, typed, finished⟩,
        rfl⟩
    · refine ⟨.error .backupNotConfirmed, _, tryBackup_eq_ok_iff.mpr ⟨answers, rest,
        isRejected.length, typed, ?_⟩, ran⟩
      exact Wallet.finishCreate_eq_backupNotConfirmed_iff.mpr ⟨isRejected.unverified, rfl⟩

/-- The wallet is made with the answers of the first right round, before which there are at most
as many wrong ones as there are retries. -/
theorem confirmBackup_eq_ok_iff {retries : Nat} :
    execute (confirmBackup (.inMemory policy challengeWords) pending retries) machine =
        (.ok unlocked, after) ↔
      ∃ (wrong : List (List String)) (right : List String) (rest : List UInt8),
        wrong.length ≤ retries ∧ (∀ answers ∈ wrong, IsRejected pending answers) ∧
        right.length = pending.challenge.places.length ∧
        TypesAll machine.input (wrong.flatten ++ right) rest ∧
        execute ((Wallet.inMemory policy challengeWords).finishCreate pending right)
          (machine.exchange (String.join (wrong.map fun _ => wrongRound pending.challenge) ++
            wordPrompts pending.challenge) rest) = (.ok unlocked, after) := by
  induction retries generalizing machine with
  | zero =>
      rw [confirmBackup_zero, round_eq_ok_iff]
      constructor
      · rintro ⟨right, rest, typed, ⟨length, finished⟩ | ⟨_, ⟨⟩⟩⟩
        exact ⟨[], right, rest, Nat.le_refl 0, nofun, length, typed, finished⟩
      · rintro ⟨wrong, right, rest, few, _, length, typed, finished⟩
        obtain rfl := List.eq_nil_of_length_eq_zero (Nat.le_zero.mp few)
        exact ⟨right, rest, typed, .inl ⟨length, finished⟩⟩
  | succ retries ih =>
      rw [confirmBackup_succ, round_eq_ok_iff]
      simp only [execute_bind, execute_say, ih, Machine.exchange_write, Machine.exchange_exchange,
        Machine.input_exchange]
      constructor
      · rintro ⟨answers, rest, typed, ⟨length, finished⟩ | ⟨isRejected, more⟩⟩
        · exact ⟨[], answers, rest, Nat.zero_le _, nofun, length, typed, finished⟩
        · obtain ⟨wrong, right, left, few, others, length, typedMore, finished⟩ := more
          refine ⟨answers :: wrong, right, left, Nat.succ_le_succ few,
            List.forall_mem_cons.mpr ⟨isRejected, others⟩, length, ?_, ?_⟩
          · rw [List.flatten_cons, List.append_assoc]
            exact TypesAll.append_iff.mpr ⟨rest, typed, typedMore⟩
          · rw [List.map_cons, String.join_cons, wrongRound, String.append_assoc]
            exact finished
      · rintro ⟨wrong, right, rest, few, rejected, length, typed, finished⟩
        cases wrong with
        | nil => exact ⟨right, rest, typed, .inl ⟨length, finished⟩⟩
        | cons answers wrong =>
            obtain ⟨isRejected, others⟩ := List.forall_mem_cons.mp rejected
            rw [List.flatten_cons, List.append_assoc] at typed
            rw [List.map_cons, String.join_cons, wrongRound, String.append_assoc] at finished
            obtain ⟨middle, typedFirst, typedMore⟩ := TypesAll.append_iff.mp typed
            exact ⟨answers, middle, typedFirst, .inr ⟨isRejected, wrong, right, rest,
              Nat.le_of_succ_le_succ few, others, length, typedMore, finished⟩⟩

/-- A round that is not the right one leaves the vault as it is. -/
theorem tryBackup_vault {answer : Except CommandError (Except WalletError UnlockedWallet)}
    (tried : execute (tryBackup (.inMemory policy challengeWords) pending) machine =
      (answer, after)) (failed : ∀ made, answer ≠ .ok (.ok made)) :
    after.vault = machine.vault := by
  have same : Preserves Machine.vault (pending.challenge.places.mapM fun place =>
      ask s!"Word #{place.val + 1}:" : ExceptT CommandError (StateM Machine) (List String)) :=
    Preserves.mapM fun _ => (Terminal.ask_preserves_vault _).adapt _
  have left := same machine
  rw [tryBackup, execute_bind] at tried
  generalize execute (pending.challenge.places.mapM fun place =>
      ask s!"Word #{place.val + 1}:" : ExceptT CommandError (StateM Machine) (List String))
    machine = ran at left tried
  obtain ⟨answers, asked⟩ := ran
  cases answers with
  | error cause =>
      cases tried
      exact left
  | ok answers =>
      dsimp only at tried
      rw [execute_lift_run] at tried
      rcases finished : execute ((Wallet.inMemory policy challengeWords).finishCreate pending answers)
        asked with ⟨result, reached⟩
      rw [finished] at tried
      cases tried
      cases result with
      | ok made => exact absurd rfl (failed made)
      | error cause => exact (Wallet.finishCreate_vault_of_error finished).trans left

/-- A round that fails leaves the vault as it is, if what is done after a wrong one does. -/
theorem round_reverts_vault {next : ExceptT CommandError (StateM Machine) UnlockedWallet}
    (reverts : Reverts Machine.vault next) :
    Reverts Machine.vault (round (.inMemory policy challengeWords) pending next) := by
  intro machine cause after ran
  rw [round, execute_bind] at ran
  rcases tried : execute (tryBackup (.inMemory policy challengeWords) pending) machine with
    ⟨answer, middle⟩
  rw [tried] at ran
  cases answer with
  | error problem =>
      cases ran
      exact tryBackup_vault tried nofun
  | ok result =>
      dsimp only at ran
      split at ran
      · cases ran
      · exact (reverts middle cause after ran).trans (tryBackup_vault tried nofun)
      · cases ran
        exact tryBackup_vault tried nofun

/-- If the backup is not confirmed, for whatever cause, then the vault stays as it is. -/
theorem confirmBackup_reverts_vault (retries : Nat) :
    Reverts Machine.vault (confirmBackup (.inMemory policy challengeWords) pending retries) := by
  induction retries with
  | zero =>
      rw [confirmBackup_zero]
      exact round_reverts_vault (.of_preserves (.throw _))
  | succ retries ih =>
      rw [confirmBackup_succ]
      exact round_reverts_vault (.bind (fun _ => rfl) fun _ => ih)

end Command

end SeedVault
