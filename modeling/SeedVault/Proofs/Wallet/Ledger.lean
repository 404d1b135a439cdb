/-
Where the random bytes of a run go. The draws of a run cut the stream of random bytes into
stretches that follow one another, and every seal has a stretch of its own for its salt and its
counter block.
-/

import SeedVault.Proofs.Wallet.Spending

namespace SeedVault

/-- What is done in a run: a wallet over some store performs an operation, or a seed is sealed and
handed out. -/
inductive Deed
  | perform (wallet : Wallet (StateM Machine)) (spares : wallet.store.Spares)
    (operation : Operation)
  | lock (seed : Seed) (password : String)

/-- What a deed that succeeds answers. -/
inductive Deed.Result
  | reply (reply : Reply)
  | vault (vault : Vault)

/-- The seal that is handed out, if one is. -/
def Deed.vault? : Except WalletError Deed.Result → Option Vault
  | .ok (.vault locked) => some locked
  | _ => none

/-- What a deed answers, what it does, and which machine it leaves. -/
structure Deed.Effect where
  answer : Except WalletError Deed.Result
  accesses : List Access
  machine : Machine

namespace Deed

def program : Deed → ExceptT WalletError (StateM Machine) Result
  | .perform wallet _ operation => Result.reply <$> wallet.perform operation
  | .lock seed password => Result.vault <$> (Vault.lock seed password).adapt .lock

/-- The program of a deed, with a record of what it does. -/
def recorded : Deed → ExceptT WalletError (StateM Recorder) Result
  | .perform wallet _ operation => Result.reply <$> wallet.recorded.perform operation
  | .lock seed password => Result.vault <$> (Vault.lock seed password).adapt .lock

/-- The needs of a deed, given the machine on which it is done. -/
def needs : Deed → Machine → List Need
  | .perform wallet _ operation, machine => operation.needs (wallet.store.found machine)
  | .lock seed password, _ => [.lock seed password false]

/-- Does the deed on a machine and takes down what it does. -/
def run (deed : Deed) (machine : Machine) : Effect :=
  let (answer, recorder) := execute deed.recorded (Recorder.mk machine [])
  ⟨answer, recorder.accesses, recorder.machine⟩

/-- The deed answers the same, and leaves the same machine, if nothing is taken down. -/
theorem execute_eq_run (deed : Deed) (machine : Machine) :
    execute deed.program machine = ((deed.run machine).answer, (deed.run machine).machine) := by
  have alike : Simulates Recorder.Records deed.recorded deed.program := by
    cases deed with
    | perform wallet spares operation =>
        exact (wallet.recorded_alike.perform Recorder.drawsAlike operation).map _
    | lock seed password =>
        apply Simulates.map
        apply Simulates.adapt
        exact (Recorder.drawsAlike _ _).bind fun salt =>
          (Recorder.drawsAlike _ _).bind fun iv => Simulates.pure _
  obtain ⟨sameAnswer, sameMachine⟩ := alike ⟨machine, []⟩ machine rfl
  exact Prod.ext sameAnswer.symm sameMachine.symm

end Deed

theorem Draws.map {α β : Type} {program : ExceptT WalletError (StateM Recorder) α}
    {needs : Machine → List Need} (draws : Draws program needs) (change : α → β) :
    Draws (change <$> program) needs := by
  intro machine before
  obtain ⟨answer, entries, after, ran, goes⟩ := draws machine before
  refine ⟨answer.map change, entries, after, ?_, ?_⟩
  · rw [execute_map, ran]
  · rw [failure?_map]
    exact goes

/-- Every operation of a wallet has the needs of that operation. -/
theorem Wallet.perform_draws {wallet : Wallet (StateM Machine)} (spares : wallet.store.Spares)
    (operation : Operation) :
    Draws (wallet.recorded.perform operation) fun machine =>
      operation.needs (wallet.store.found machine) := by
  cases operation with
  | beginCreate password confirmation =>
      exact Draws.map (beginCreate_draws spares password confirmation) _
  | finishCreate pending answers => exact (finishCreate_draws spares pending answers).map _
  | importSeed input password confirmation overwrite =>
      exact (importSeed_draws spares input password confirmation overwrite).map _
  | unlock password expected => exact (unlock_draws spares password expected).map _
  | changePassword current password confirmation expected =>
      exact (changePassword_draws spares current password confirmation expected).map _
  | forget => exact (forget_draws spares).map _

/-- A seal that is handed out needs what every seal needs. -/
theorem Vault.lock_draws (seed : Seed) (password : String) (machine : Machine)
    (before : List Access) :
    ∃ answer entries after,
      execute (Deed.recorded (.lock seed password)) ⟨machine, before⟩ =
        (answer, ⟨after, before ++ entries.flatMap Entry.accesses⟩) ∧
      (Deed.vault? answer).toList = entries.filterMap Entry.handed? ∧
      Spends [.lock seed password false] machine.entropy entries after.entropy
        (failure? answer) := by
  obtain ⟨answer, accesses, after, ran, locks⟩ := Vault.lock_meets seed password machine before
  simp only [Deed.recorded, execute_map, execute_adapt, ran]
  cases locks with
  | noSalt short => exact ⟨_, [.refused 16], _, rfl, rfl, .noSalt short⟩
  | @noCounter salt rest enough short =>
      rw [enough]
      exact ⟨_, [.salt salt, .refused 16], _, rfl, rfl, .noCounter salt short⟩
  | @locked salt iv rest enough =>
      rw [enough]
      exact ⟨_, [.vault (lockWith seed password salt iv) false], _, rfl, rfl, .lock salt iv .done⟩

/-- The needs of an operation do not include a seal that is handed out. -/
theorem Operation.lock_notMem_needs {operation : Operation} {found : Option Vault} {seed : Seed}
    {password : String} : .lock seed password false ∉ operation.needs found := by
  have upgrade (vault : Vault) (current : String) (expected : Option Address) :
      .lock seed password false ∉ Wallet.upgradeNeeds vault current expected := by
    unfold Wallet.upgradeNeeds
    split <;> simp
  cases operation with
  | beginCreate | finishCreate | forget =>
      unfold needs
      simp
  | importSeed input =>
      cases resolved : Seed.resolve input with
      | ok _ => simp [needs, resolved]
      | error _ => simp [needs, resolved]
  | unlock =>
      cases found with
      | none => simp [needs]
      | some vault => exact upgrade vault _ _
  | changePassword =>
      cases found with
      | none => simp [needs]
      | some vault => simp [needs, upgrade vault]

/-- What a deed does is its entries in the ledger. -/
theorem Deed.run_goes (deed : Deed) (machine : Machine) :
    ∃ entries : List Entry, (deed.run machine).accesses = entries.flatMap Entry.accesses ∧
      (vault? (deed.run machine).answer).toList = entries.filterMap Entry.handed? ∧
      Goes (deed.needs machine) machine.entropy entries (deed.run machine).machine.entropy
        (failure? (deed.run machine).answer) := by
  cases deed with
  | lock seed password =>
      obtain ⟨answer, entries, after, ran, handed, spends⟩ :=
        Vault.lock_draws seed password machine []
      rw [run, ran]
      exact ⟨entries, rfl, handed, .spends spends⟩
  | perform wallet spares operation =>
      obtain ⟨answer, entries, after, ran, goes⟩ :=
        Wallet.perform_draws spares operation machine []
      have wrapped : execute (Deed.recorded (.perform wallet spares operation)) ⟨machine, []⟩ =
          (answer.map .reply, ⟨after, entries.flatMap Entry.accesses⟩) := by
        rw [recorded, execute_map, ran]
        rfl
      have unhanded : entries.filterMap Entry.handed? = [] :=
        goes.handed_eq_nil fun _ _ => Operation.lock_notMem_needs
      rw [run, wrapped]
      refine ⟨entries, rfl, ?_, ?_⟩
      · rw [unhanded]
        cases answer <;> rfl
      · rw [failure?_map]
        exact goes

/-- A new wallet that is handed out has its phrase and its challenge from the bytes drawn. -/
theorem Deed.run_beginCreate {wallet : Wallet (StateM Machine)} {spares : wallet.store.Spares}
    {password confirmation : String} {machine : Machine} {pending : PendingWallet}
    (begun : ((Deed.perform wallet spares (.beginCreate password confirmation)).run machine).answer =
      .ok (.reply (.pending pending))) :
    ∃ key : Bytes 32,
      ((Deed.perform wallet spares (.beginCreate password confirmation)).run machine).accesses =
        [.drew pending.phrase.entropy.toList, .drew key.toList] ∧
      pending.challenge = .ofKey wallet.challengeWords key := by
  obtain ⟨answer, entries, after, ran, _, handedOut⟩ :=
    Wallet.beginCreate_begins spares password confirmation machine []
  have wrapped : execute (recorded (.perform wallet spares (.beginCreate password confirmation)))
      ⟨machine, []⟩ = ((answer.map .pending).map .reply,
        ⟨after, entries.flatMap Entry.accesses⟩) := by
    rw [recorded, execute_map, Wallet.perform, execute_map, ran]
    rfl
  rw [run, wrapped] at begun ⊢
  cases answer with
  | error cause => cases begun
  | ok answered =>
      cases begun
      obtain ⟨key, rfl, drawn⟩ := handedOut pending rfl
      exact ⟨key, rfl, drawn⟩

/-- What a deed takes random bytes for. -/
structure Deed.Accounts (deed : Deed) (machine : Machine) : Prop where
  /-- The record that is kept of the deed changes nothing about it. -/
  unrecorded : execute deed.program machine =
    ((deed.run machine).answer, (deed.run machine).machine)
  /-- The needs of the deed are met in their order, or it fails before the first of them. -/
  goes : ∃ entries : List Entry, (deed.run machine).accesses = entries.flatMap Entry.accesses ∧
    (vault? (deed.run machine).answer).toList = entries.filterMap Entry.handed? ∧
    Goes (deed.needs machine) machine.entropy entries (deed.run machine).machine.entropy
      (failure? (deed.run machine).answer)
  /-- A deed that fails for another cause than a refused draw or the store has done nothing. -/
  early (cause : WalletError) : (deed.run machine).answer = .error cause →
    ¬ cause.OfRandomness → (∀ problem, cause ≠ .store problem) →
      (deed.run machine).accesses = [] ∧ (deed.run machine).machine.entropy = machine.entropy
  /-- A refused draw is always reported, and never reported without one. -/
  refused : (∃ size, .refused size ∈ (deed.run machine).accesses) ↔
    ∃ cause, (deed.run machine).answer = .error cause ∧ cause.OfRandomness
  /-- The phrase of a new wallet is what was drawn first, and the challenge comes from what was
  drawn next. -/
  begun (wallet : Wallet (StateM Machine)) (spares : wallet.store.Spares)
    (password confirmation : String) (pending : PendingWallet) :
    deed = .perform wallet spares (.beginCreate password confirmation) →
      (deed.run machine).answer = .ok (.reply (.pending pending)) →
        ∃ key : Bytes 32,
          (deed.run machine).accesses =
            [.drew pending.phrase.entropy.toList, .drew key.toList] ∧
          pending.challenge = .ofKey wallet.challengeWords key

theorem Deed.accounts (deed : Deed) (machine : Machine) : deed.Accounts machine where
  unrecorded := deed.execute_eq_run machine
  goes := deed.run_goes machine
  early := by
    intro cause failed drawn kept
    obtain ⟨entries, accesses, _, goes⟩ := deed.run_goes machine
    rw [failure?_eq_some_iff.mpr failed] at goes
    obtain ⟨rfl, left⟩ := goes.early drawn kept
    exact ⟨accesses, left⟩
  refused := by
    obtain ⟨entries, accesses, _, goes⟩ := deed.run_goes machine
    rw [accesses, goes.refused_iff]
    simp only [failure?_eq_some_iff]
  begun := by
    rintro wallet spares password confirmation pending rfl begun
    exact run_beginCreate begun

/-- An entry of the ledger, and where in the stream its bytes begin. -/
structure Portion where
  start : Nat
  entry : Entry

namespace Portion

def stop (portion : Portion) : Nat :=
  portion.start + portion.entry.bytes.length

/-- The portions of some entries, the first of which begins at the given place. -/
def ofEntries : Nat → List Entry → List Portion
  | _, [] => []
  | start, entry :: entries => ⟨start, entry⟩ :: ofEntries (start + entry.bytes.length) entries

theorem map_entry_ofEntries (start : Nat) (entries : List Entry) :
    (ofEntries start entries).map entry = entries := by
  induction entries generalizing start with
  | nil => rfl
  | cons entry entries ih => rw [ofEntries, List.map_cons, ih]

theorem start_le {start : Nat} {entries : List Entry} {portion : Portion}
    (member : portion ∈ ofEntries start entries) : start ≤ portion.start := by
  induction entries generalizing start with
  | nil => cases member
  | cons entry entries ih =>
      rcases List.mem_cons.mp member with rfl | later
      · exact Nat.le_refl start
      · exact Nat.le_of_add_right_le (ih later)

/-- Every portion ends before the next ones begin. -/
theorem pairwise_ofEntries (start : Nat) (entries : List Entry) :
    (ofEntries start entries).Pairwise fun portion later => portion.stop ≤ later.start := by
  induction entries generalizing start with
  | nil => exact .nil
  | cons entry entries ih => exact .cons (fun _ member => start_le member) (ih _)

/-- The bytes of an entry are those of its portion of the stream. -/
theorem extract_eq {earlier left : List UInt8} {entries : List Entry} {portion : Portion}
    (member : portion ∈ ofEntries earlier.length entries) :
    (earlier ++ (entries.flatMap Entry.bytes ++ left)).extract portion.start portion.stop =
      portion.entry.bytes := by
  induction entries generalizing earlier with
  | nil => cases member
  | cons entry entries ih =>
      rw [List.flatMap_cons, List.append_assoc]
      rcases List.mem_cons.mp member with rfl | later
      · simp [stop]
      · rw [← List.append_assoc earlier]
        apply ih
        rw [List.length_append]
        exact later

end Portion

/-- The machine of a run and what happened so far: the random bytes that were supplied, used or
not, what was done, and the seals that were handed out. -/
structure Ledger where
  machine : Machine
  stream : List UInt8
  accesses : List Access := []
  handed : List Vault := []

/-- What happens in a run: something is done, or more random bytes are supplied, so that draws may
fail anywhere and be tried again. -/
inductive Ledger.Event
  | deed (deed : Deed)
  | supply (bytes : List UInt8)

namespace Ledger

/-- The ledger of a run that has not begun. -/
def opened (machine : Machine) : Ledger :=
  { machine, stream := machine.entropy }

def step (ledger : Ledger) : Event → Ledger
  | .deed done =>
      let effect := done.run ledger.machine
      { ledger with
        machine := effect.machine
        accesses := ledger.accesses ++ effect.accesses
        handed := ledger.handed ++ (Deed.vault? effect.answer).toList }
  | .supply bytes =>
      { ledger with
        machine := { ledger.machine with entropy := ledger.machine.entropy ++ bytes }
        stream := ledger.stream ++ bytes }

/-- The ledger after some events. -/
def run (ledger : Ledger) (events : List Event) : Ledger :=
  events.foldl step ledger

/-- The entries of a ledger account for what was done, what was handed out, and every random byte
that was taken. -/
structure Balanced (ledger : Ledger) (entries : List Entry) : Prop where
  accesses : ledger.accesses = entries.flatMap Entry.accesses
  handed : ledger.handed = entries.filterMap Entry.handed?
  stream : ledger.stream = entries.flatMap Entry.bytes ++ ledger.machine.entropy

theorem Balanced.step {ledger : Ledger} {entries : List Entry} (balanced : ledger.Balanced entries)
    (event : Event) : ∃ more, (ledger.step event).Balanced (entries ++ more) := by
  cases event with
  | supply bytes =>
      refine ⟨[], ?_, ?_, ?_⟩
      · rw [List.append_nil]
        exact balanced.accesses
      · rw [List.append_nil]
        exact balanced.handed
      · simp only [Ledger.step, List.append_nil, balanced.stream, List.append_assoc]
  | deed done =>
      obtain ⟨more, accesses, handed, goes⟩ := done.run_goes ledger.machine
      refine ⟨more, ?_, ?_, ?_⟩
      · simp only [Ledger.step, accesses, balanced.accesses, List.flatMap_append]
      · simp only [Ledger.step, handed, balanced.handed, List.filterMap_append]
      · simp only [Ledger.step, balanced.stream, List.flatMap_append, List.append_assoc,
          ← goes.tape_eq]

theorem Balanced.run {ledger : Ledger} {entries : List Entry} (balanced : ledger.Balanced entries)
    (events : List Event) : ∃ more, (ledger.run events).Balanced (entries ++ more) := by
  induction events generalizing ledger entries with
  | nil => exact ⟨[], by rw [List.append_nil]; exact balanced⟩
  | cons event events ih =>
      obtain ⟨first, stepped⟩ := balanced.step event
      obtain ⟨rest, ran⟩ := ih stepped
      exact ⟨first ++ rest, by rw [← List.append_assoc]; exact ran⟩

theorem balanced_opened (machine : Machine) : (opened machine).Balanced [] :=
  ⟨rfl, rfl, rfl⟩

/-- In every run, whatever is done over whatever stores and wherever draws fail: the random bytes
that are taken are consecutive portions of the stream that do not overlap, one for each phrase,
each challenge, and each seal, whose salt and counter block are just the bytes that it drew; and
every further deed is accounted for. -/
theorem run_spends_afresh (machine : Machine) (events : List Event) :
    let ledger := (opened machine).run events
    (∃ entries : List Entry, ledger.Balanced entries ∧
      (Portion.ofEntries 0 entries).map Portion.entry = entries ∧
      ((Portion.ofEntries 0 entries).Pairwise fun portion later => portion.stop ≤ later.start) ∧
      ∀ portion ∈ Portion.ofEntries 0 entries,
        ledger.stream.extract portion.start portion.stop = portion.entry.bytes) ∧
    ∀ deed : Deed, deed.Accounts ledger.machine := by
  intro ledger
  obtain ⟨entries, balanced⟩ := (balanced_opened machine).run events
  refine ⟨⟨entries, balanced, Portion.map_entry_ofEntries 0 entries,
    Portion.pairwise_ofEntries 0 entries, ?extracted⟩, fun deed => deed.accounts ledger.machine⟩
  case extracted =>
    intro portion member
    rw [balanced.stream]
    exact @Portion.extract_eq [] _ _ _ member

/-- An import and a seal that is handed out share no random byte, and a new wallet that is refused
after them takes none. -/
theorem run_spends_afresh_sealed :
    let wallet : Wallet (StateM Machine) := .inMemory {} 3
    let seed : Seed := ⟨Vector.replicate 32 0⟩
    let machine : Machine := { disk := { start := [] }, entropy := List.replicate 80 7 }
    let importing : Deed :=
      .perform wallet Store.memory_spares (.importSeed seed.toHex "password" "password" false)
    let beginning : Deed :=
      .perform wallet Store.memory_spares (.beginCreate "password" "password")
    let ledger := (opened machine).run [.deed importing, .deed (.lock seed "password")]
    ledger.handed.length = 1 ∧ ledger.machine.entropy.length = 16 ∧
      (∃ entries : List Entry, ledger.Balanced entries ∧
        (Portion.ofEntries 0 entries).Pairwise fun portion later => portion.stop ≤ later.start) ∧
      (beginning.run ledger.machine).answer = .error .vaultExists ∧
      (beginning.run ledger.machine).accesses = [] := by
  intro wallet seed machine importing beginning ledger
  obtain ⟨⟨entries, balanced, _, apart, _⟩, accounts⟩ :=
    run_spends_afresh machine [.deed importing, .deed (.lock seed "password")]
  have handed : ledger.handed.length = 1 := by decide +kernel
  have left : ledger.machine.entropy.length = 16 := by decide +kernel
  have refused : failure? (beginning.run ledger.machine).answer = some .vaultExists := by
    decide +kernel
  have answered := failure?_eq_some_iff.mp refused
  exact ⟨handed, left, ⟨entries, balanced, apart⟩, answered,
    ((accounts beginning).early .vaultExists answered nofun nofun).1⟩

end Ledger

end SeedVault
