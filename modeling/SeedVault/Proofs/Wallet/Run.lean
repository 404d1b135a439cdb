/-
Runs of a wallet over the vault in memory, from any vault and with calls in any order.
Whatever was sealed last can be opened, and everything that is written has a tag.
-/

import SeedVault.Proofs.Wallet.Sealings

namespace SeedVault

/-- What happens in a run: a call is made, or the source of random bytes changes, so that
draws may fail anywhere. -/
inductive Event
  | call (call : Call)
  | entropy (tape : List UInt8)

/-- The machine of a run, and what happened so far: the vaults that were written, the pending
wallets that were handed out, and the seed and the password that were sealed last, unless
the vault was removed since. -/
structure Session where
  machine : Machine
  written : List Vault := []
  pendings : List PendingWallet := []
  latest : Option (Seed × String) := none

/-- What is sealed last after some accesses, each of which that writes seals the next of the
given seeds and passwords. -/
def latestAfter : List Access → List (Seed × String) → Option (Seed × String) →
    Option (Seed × String)
  | [], _, latest => latest
  | .wrote _ :: accesses, sealings, _ => latestAfter accesses sealings.tail sealings.head?
  | .cleared :: accesses, sealings, _ => latestAfter accesses sealings none
  | .drew _ :: accesses, sealings, latest => latestAfter accesses sealings latest
  | .refused _ :: accesses, sealings, latest => latestAfter accesses sealings latest

/-- The pending wallet that is answered, if one is. -/
def Reply.pending? : Except WalletError Reply → Option PendingWallet
  | .ok (.pending begun) => some begun
  | _ => none

namespace Session

def step (session : Session) : Event → Session
  | .entropy tape => { session with machine := { session.machine with entropy := tape } }
  | .call call =>
      let outcome := call.run session.machine
      { machine := outcome.machine
        written := session.written ++ outcome.accesses.filterMap Access.written?
        pendings := session.pendings ++ (Reply.pending? outcome.answer).toList
        latest := latestAfter outcome.accesses (call.operation.sealings session.machine.vault)
          session.latest }

/-- The session after some events. -/
def run (session : Session) (events : List Event) : Session :=
  events.foldl step session

end Session

/-- Accesses that write put the last of what they seal in the place of what was sealed
before. -/
theorem Writes.latestAfter_eq {sealings : List (Seed × String)} {before after : Option Vault}
    {accesses : List Access} (writes : Writes sealings before accesses after)
    (rest : List (Seed × String)) (latest : Option (Seed × String)) :
    latestAfter accesses (sealings ++ rest) latest = sealings.getLast?.or latest := by
  induction writes generalizing latest with
  | nothing => rfl
  | drew bytes _ ih => exact ih latest
  | refused size _ ih => exact ih latest
  | @wrote sealings _ _ _ seed password salt iv _ ih =>
      rw [List.cons_append, latestAfter, List.tail_cons, List.head?_cons, ih, List.getLast?_cons]
      cases sealings.getLast? <;> rfl

/-- A vault is the seal of what was sealed last. If nothing was, then it is the vault from
the start, or there is none. -/
def Tracks (start : Option Vault) (latest : Option (Seed × String)) (vault : Option Vault) : Prop :=
  match latest with
  | some sealing => ∃ sealed, vault = some sealed ∧ sealed.IsSeal sealing
  | none => vault = start ∨ vault = none

theorem Writes.tracks {sealings : List (Seed × String)} {before after : Option Vault}
    {accesses : List Access} (writes : Writes sealings before accesses after)
    (rest : List (Seed × String)) {start : Option Vault} {latest : Option (Seed × String)}
    (tracks : Tracks start latest before) :
    Tracks start (latestAfter accesses (sealings ++ rest) latest) after := by
  have left := writes.left
  rw [writes.latestAfter_eq]
  cases last : sealings.getLast? with
  | some sealing =>
      rw [last] at left
      exact left
  | none =>
      rw [last] at left
      rw [Option.none_or, left]
      exact tracks

/-- Forgetting removes the vault and does nothing else. -/
theorem Ends.of_forget {policy : Password.Policy} {challengeWords : Nat}
    {machine after : Machine} {answer : Except WalletError Reply} {accesses : List Access}
    (ends : Ends policy challengeWords .forget machine answer accesses after) :
    answer = .ok .forgotten ∧ accesses = [.cleared] ∧ after = { machine with vault := none } := by
  cases ends with
  | forget => exact ⟨rfl, rfl, rfl⟩

namespace Session

/-- What holds in every session that starts with a vault or with none. -/
structure Sound (start : Option Vault) (session : Session) : Prop where
  authenticated : ∀ vault ∈ session.written, vault.isAuthenticated = true
  tracks : Tracks start session.latest session.machine.vault

theorem Sound.step {start : Option Vault} {session : Session} (sound : Sound start session)
    (event : Event) : Sound start (session.step event) := by
  cases event with
  | entropy tape => exact ⟨sound.authenticated, sound.tracks⟩
  | call call =>
      by_cases forgets : call.operation = .forget
      · have ends := call.run_ends session.machine
        rw [forgets] at ends
        obtain ⟨_, accesses, machine⟩ := ends.of_forget
        constructor
        · simpa [Session.step, accesses, Access.written?] using sound.authenticated
        · simp only [Session.step, accesses, machine]
          exact .inr rfl
      · obtain ⟨done, rest, sealings, writes, _⟩ := Call.run_performs forgets session.machine
        constructor
        · intro vault member
          rcases List.mem_append.mp member with earlier | now
          · exact sound.authenticated vault earlier
          · exact writes.isAuthenticated vault now
        · simp only [Session.step, sealings]
          exact writes.tracks rest sound.tracks

theorem Sound.run {start : Option Vault} {session : Session} (sound : Sound start session)
    (events : List Event) : Sound start (session.run events) := by
  induction events generalizing session with
  | nil => exact sound
  | cons event rest ih => exact ih (sound.step event)

theorem sound_run (machine : Machine) (events : List Event) :
    Sound machine.vault ((Session.mk machine [] [] none).run events) := by
  apply Sound.run
  exact ⟨by simp, .inl rfl⟩

end Session

/-- The vault that was sealed last opens under its password, and opening it changes nothing. -/
theorem execute_unlock_of_isSeal {machine : Machine} {vault : Vault} {seed : Seed}
    {password : String} (stored : machine.vault = some vault)
    (sealed : vault.IsSeal (seed, password)) (policy : Password.Policy) (challengeWords : Nat) :
    execute ((Wallet.inMemory policy challengeWords).unlock password none) machine =
      (.ok ⟨seed, .tagged⟩, machine) :=
  Wallet.execute_unlock_of_isSeal sealed (Store.execute_get_memory stored) none

/-- A vault without a tag is never the work of a call. -/
theorem Call.vault_of_legacy (call : Call) {machine : Machine} {vault : Vault}
    (left : (call.run machine).machine.vault = some vault)
    (legacy : vault.isAuthenticated = false) : machine.vault = some vault := by
  by_cases forgets : call.operation = .forget
  · have ends := call.run_ends machine
    rw [forgets] at ends
    rw [ends.of_forget.2.2] at left
    cases left
  · obtain ⟨done, _, _, writes, _⟩ := Call.run_performs forgets machine
    have last := writes.left
    cases sealing : done.getLast? with
    | none =>
        rw [sealing] at last
        rw [← last, left]
    | some pair =>
        rw [sealing] at last
        obtain ⟨_, same, sealed⟩ := last
        rw [left, Option.some_inj] at same
        rw [same, sealed.isAuthenticated] at legacy
        cases legacy

/-- A call that writes and succeeds has sealed last the seed that it answers. -/
theorem Session.latest_of_wrote (session : Session) (call : Call) {vault : Vault}
    {wallet : UnlockedWallet} (wrote : .wrote vault ∈ (call.run session.machine).accesses)
    (answered : (call.run session.machine).answer = .ok (.unlocked wallet)) :
    ∃ password, (session.step (.call call)).latest = some (wallet.seed, password) := by
  have remembered : call.operation ≠ .forget := by
    intro forgets
    have ends := call.run_ends session.machine
    rw [forgets] at ends
    rw [ends.of_forget.2.1] at wrote
    simp at wrote
  obtain ⟨done, rest, sealings, writes, last⟩ := Call.run_performs remembered session.machine
  have present : vault ∈ (call.run session.machine).accesses.filterMap Access.written? :=
    List.mem_filterMap.mpr ⟨_, wrote, rfl⟩
  have nonempty : done ≠ [] := by
    rintro rfl
    rw [List.forall₂_nil_right_iff.mp writes.areSeals] at present
    cases present
  obtain ⟨pair, sealing⟩ := Option.isSome_iff_exists.mp (List.getLast?_isSome.mpr nonempty)
  refine ⟨pair.2, ?_⟩
  have sameSeed := last wallet.seed (by rw [answered]; rfl) pair sealing
  simp only [step, sealings, writes.latestAfter_eq, sealing, Option.some_or, ← sameSeed]

/-- A new wallet, an import and a change of the password leave, if they succeed, the seed that
they answer under the password that was chosen. -/
theorem Session.latest_of_chosen (session : Session) (call : Call) {wallet : UnlockedWallet}
    {password : String} (answered : (call.run session.machine).answer = .ok (.unlocked wallet))
    (chosen : call.operation.newPassword? = some password) :
    (session.step (.call call)).latest = some (wallet.seed, password) := by
  obtain ⟨earlier, sealings, writes⟩ := (call.run_ends session.machine).seals_new answered chosen
  have last := writes.latestAfter_eq [] session.latest
  rw [List.append_nil, List.getLast?_concat, Option.some_or] at last
  simp only [step, sealings, last]

/-- What a call does to a session. -/
structure Session.Accounts (session : Session) (call : Call) : Prop where
  /-- The record that is kept of the call changes nothing about it. -/
  unrecorded : execute (call.wallet.perform call.operation) session.machine =
    ((call.run session.machine).answer, (call.run session.machine).machine)
  /-- A vault without a tag is left only where it was found. -/
  legacy (vault : Vault) : (call.run session.machine).machine.vault = some vault →
    vault.isAuthenticated = false → session.machine.vault = some vault
  /-- A call that writes and succeeds has sealed last the seed that it answers. -/
  wrote (vault : Vault) (wallet : UnlockedWallet) :
    .wrote vault ∈ (call.run session.machine).accesses →
      (call.run session.machine).answer = .ok (.unlocked wallet) →
        ∃ password, (session.step (.call call)).latest = some (wallet.seed, password)
  /-- A call that chooses a password and succeeds has sealed its seed under that password. -/
  chose (wallet : UnlockedWallet) (password : String) :
    (call.run session.machine).answer = .ok (.unlocked wallet) →
      call.operation.newPassword? = some password →
        (session.step (.call call)).latest = some (wallet.seed, password)
  forgot : call.operation = .forget →
    (call.run session.machine).machine.vault = none ∧ (session.step (.call call)).latest = none
  /-- The vaults that are written are seals of what the operation seals, in that order. -/
  sealed : call.operation ≠ .forget →
    ∃ done rest, call.operation.sealings session.machine.vault = done ++ rest ∧
      List.Forall₂ Vault.IsSeal
        ((call.run session.machine).accesses.filterMap Access.written?) done ∧
      (session.step (.call call)).latest = done.getLast?.or session.latest

theorem Session.accounts (session : Session) (call : Call) : session.Accounts call where
  unrecorded := call.execute_eq_run session.machine
  legacy _ := call.vault_of_legacy
  wrote _ _ := session.latest_of_wrote call
  chose _ _ := session.latest_of_chosen call
  forgot := by
    intro forgets
    have ends := call.run_ends session.machine
    rw [forgets] at ends
    obtain ⟨_, accesses, left⟩ := ends.of_forget
    refine ⟨congrArg Machine.vault left, ?_⟩
    simp only [step, accesses, latestAfter]
  sealed := by
    intro remembered
    obtain ⟨done, rest, sealings, writes, _⟩ := Call.run_performs remembered session.machine
    refine ⟨done, rest, sealings, writes.areSeals, ?_⟩
    simp only [step, sealings, writes.latestAfter_eq]

/-- In every run, whatever its calls and wherever draws fail: all vaults that are written
have tags; what was sealed last opens under its password, and opening it changes nothing;
and every further call is accounted for. -/
theorem Session.run_opens_latest (machine : Machine) (events : List Event) :
    let session := (Session.mk machine [] [] none).run events
    (∀ vault ∈ session.written, vault.isAuthenticated = true) ∧
    (∀ seed password, session.latest = some (seed, password) → ∀ policy challengeWords,
      execute ((Wallet.inMemory policy challengeWords).unlock password none) session.machine =
        (.ok ⟨seed, .tagged⟩, session.machine)) ∧
    (session.latest = none →
      session.machine.vault = machine.vault ∨ session.machine.vault = none) ∧
    ∀ call : Call, session.Accounts call := by
  intro session
  have sound : Session.Sound machine.vault session := Session.sound_run machine events
  have tracks := sound.tracks
  refine ⟨sound.authenticated, ?opens, ?untouched, session.accounts⟩
  case opens =>
    intro seed password latest
    rw [latest] at tracks
    obtain ⟨vault, stored, sealed⟩ := tracks
    exact execute_unlock_of_isSeal stored sealed
  case untouched =>
    intro latest
    rw [latest] at tracks
    exact tracks

/-- A vault without a tag is opened and left as it is, and then an import takes its place:
the imported seed is the one that is opened from then on. -/
theorem Session.run_opens_latest_import :
    let legacy : Vault := ⟨Vector.replicate 32 0, Vector.replicate 16 0, Vector.replicate 16 0, none⟩
    let machine : Machine :=
      { disk := { start := [] }, vault := some legacy, entropy := List.replicate 32 7 }
    let seed : Seed := ⟨Vector.replicate 32 0⟩
    let looking : Call := ⟨{}, 3, .unlock "password" none⟩
    let importing : Call := ⟨{}, 3, .importSeed seed.toHex "password" "password" true⟩
    let start := Session.mk machine [] [] none
    let session := start.run [.call looking, .call importing]
    (∃ vault ∈ session.written, vault.isAuthenticated = true) ∧
      execute ((Wallet.inMemory {} 3).unlock "password" none) session.machine =
        (.ok ⟨seed, .tagged⟩, session.machine) ∧
      (start.machine.vault = machine.vault ∨ start.machine.vault = none) ∧
      (looking.run machine).machine.vault = machine.vault ∧
      ∃ wallet, (importing.run machine).answer = .ok (.unlocked wallet) ∧
        (start.step (.call importing)).latest = some (wallet.seed, "password") := by
  intro legacy machine seed looking importing start session
  obtain ⟨authenticated, opens, _, _⟩ := run_opens_latest machine [.call looking, .call importing]
  obtain ⟨_, _, untouched, accounts⟩ := run_opens_latest machine []
  have latest : session.latest = some (seed, "password") := by decide +kernel
  have written : 0 < session.written.length := by decide +kernel
  have left : (looking.run machine).machine.vault = some legacy := by decide +kernel
  have found := (accounts looking).legacy legacy left rfl
  have imported : Reply.seed? (importing.run machine).answer = some seed := by decide +kernel
  obtain ⟨wallet, answered, _⟩ := Reply.seed?_eq_some_iff.mp imported
  exact ⟨⟨_, List.getElem_mem written, authenticated _ (List.getElem_mem written)⟩,
    opens seed "password" latest {} 3, untouched rfl, left.trans found.symm, wallet, answered,
    (accounts importing).chose wallet "password" answered rfl⟩

end SeedVault
