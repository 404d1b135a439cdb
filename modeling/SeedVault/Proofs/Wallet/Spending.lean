/-
What an operation of a wallet takes random bytes for. Over any store, an operation has a list
of needs and meets one after another. It stops where a draw or the store fails.
-/

import SeedVault.Proofs.Seed
import SeedVault.Proofs.Store.Spares
import SeedVault.Proofs.Wallet.Needs

namespace SeedVault

/-- From every machine and whatever was recorded before, a program has the given needs and goes
accordingly. -/
def Draws {α : Type} (program : ExceptT WalletError (StateM Recorder) α)
    (needs : Machine → List Need) : Prop :=
  ∀ machine before, ∃ answer entries after,
    execute program ⟨machine, before⟩ =
      (answer, ⟨after, before ++ entries.flatMap Entry.accesses⟩) ∧
    Goes (needs machine) machine.entropy entries after.entropy (failure? answer)

/-- The vault that a store yields. -/
def Store.found (store : Store (StateM Machine)) (machine : Machine) : Option Vault :=
  match (execute store.get machine).1 with
  | .ok vault => vault
  | .error _ => none

namespace Recorder

/-- Runs a program on the machine. -/
def onMachine {ε α : Type} (program : ExceptT ε (StateM Machine) α) :
    ExceptT ε (StateM Recorder) α :=
  ExceptT.mk fun recorder =>
    ((execute program recorder.machine).1,
      { recorder with machine := (execute program recorder.machine).2 })

/-- Takes down what is done. -/
def note (access : Access) : StateM Recorder Unit := fun recorder =>
  ((), { recorder with accesses := recorder.accesses ++ [access] })

/-- A store that takes down what it is given to keep, whether it manages to or not. -/
def store (kept : Store (StateM Machine)) : Store (StateM Recorder) where
  get := onMachine kept.get
  put vault := do
    ExceptT.lift (note (.wrote vault))
    onMachine (kept.put vault)
  clear := do
    ExceptT.lift (note .cleared)
    onMachine kept.clear

section

variable {kept : Store (StateM Machine)} {machine after : Machine}

theorem execute_get {found : Except StoreError (Option Vault)}
    (ran : execute kept.get machine = (found, after)) (before : List Access) :
    execute (store kept).get ⟨machine, before⟩ = (found, ⟨after, before⟩) := by
  change (_, Recorder.mk _ _) = _
  rw [ran]

theorem execute_put {vault : Vault} {answer : Except StoreError Unit}
    (ran : execute (kept.put vault) machine = (answer, after)) (before : List Access) :
    execute ((store kept).put vault) ⟨machine, before⟩ =
      (answer, ⟨after, before ++ [.wrote vault]⟩) := by
  change (_, Recorder.mk _ _) = _
  rw [ran]

theorem execute_clear {answer : Except StoreError Unit}
    (ran : execute kept.clear machine = (answer, after)) (before : List Access) :
    execute (store kept).clear ⟨machine, before⟩ = (answer, ⟨after, before ++ [.cleared]⟩) := by
  change (_, Recorder.mk _ _) = _
  rw [ran]

end

end Recorder

namespace Wallet

/-- A wallet whose store takes down what it is given. -/
def recorded (wallet : Wallet (StateM Machine)) : Wallet (StateM Recorder) :=
  ⟨Recorder.store wallet.store, wallet.policy, wallet.challengeWords⟩

/-- Recording changes nothing. -/
theorem recorded_alike (wallet : Wallet (StateM Machine)) :
    Alike Recorder.Records wallet.recorded wallet where
  policy := rfl
  challengeWords := rfl
  get := by
    rintro recorder _ rfl
    exact ⟨rfl, rfl⟩
  put := by
    rintro vault recorder _ rfl
    exact ⟨rfl, rfl⟩
  clear := by
    rintro recorder _ rfl
    exact ⟨rfl, rfl⟩

/-- What opening a vault needs: it is sealed again to give it a tag. -/
def upgradeNeeds (vault : Vault) (password : String) (expected : Option Address) : List Need :=
  if vault.isAuthenticated ∨ expected = none then []
  else [.lock (vault.seedUnder password) password true]

theorem upgradeNeeds_of_isAuthenticated {vault : Vault}
    (authenticated : vault.isAuthenticated = true) (password : String)
    (expected : Option Address) : upgradeNeeds vault password expected = [] :=
  if_pos (.inl authenticated)

theorem upgradeNeeds_none (vault : Vault) (password : String) :
    upgradeNeeds vault password none = [] :=
  if_pos (.inr rfl)

theorem upgradeNeeds_of_legacy {vault : Vault} (legacy : vault.isAuthenticated = false)
    (password : String) (address : Address) :
    upgradeNeeds vault password (some address) =
      [.lock (vault.seedUnder password) password true] :=
  if_neg (by simp [legacy])

end Wallet

/-- The needs of an operation in their order, given the vault that it finds. -/
def Operation.needs : Operation → Option Vault → List Need
  | .beginCreate _ _, _ => [.phrase, .challenge]
  | .finishCreate pending _, _ => [.lock (Seed.ofPhrase pending.phrase) pending.password true]
  | .importSeed input password _ _, _ =>
      match Seed.resolve input with
      | .ok seed => [.lock seed password true]
      | .error _ => []
  | .unlock password expected, some vault => Wallet.upgradeNeeds vault password expected
  | .changePassword current password _ expected, some vault =>
      Wallet.upgradeNeeds vault current expected ++
        [.lock (vault.seedUnder current) password true]
  | .unlock _ _, none => []
  | .changePassword _ _ _ _, none => []
  | .forget, _ => [.removal]

namespace Wallet

variable {wallet : Wallet (StateM Machine)}

theorem execute_recorded_checkPassword (password confirmation : String) (recorder : Recorder) :
    execute (wallet.recorded.checkPassword password confirmation) recorder =
      ((wallet.policy.check password confirmation).mapError .password, recorder) := rfl

theorem execute_recorded_vault? {machine after : Machine}
    {found : Except StoreError (Option Vault)}
    (ran : execute wallet.store.get machine = (found, after)) (before : List Access) :
    execute wallet.recorded.vault? ⟨machine, before⟩ =
      (found.mapError .store, ⟨after, before⟩) := by
  rw [vault?, recorded, execute_adapt, Recorder.execute_get ran]

variable (spares : wallet.store.Spares)

include spares

/-- Sealing and storing a seed needs one seal. -/
theorem lockAndStore_spends (seed : Seed) (password : String) (machine : Machine)
    (before : List Access) :
    ∃ answer entries after,
      execute (wallet.recorded.lockAndStore seed password) ⟨machine, before⟩ =
        (answer, ⟨after, before ++ entries.flatMap Entry.accesses⟩) ∧
      Spends [.lock seed password true] machine.entropy entries after.entropy
        (failure? answer) := by
  obtain ⟨answer, accesses, after, ran, locks⟩ := Vault.lock_meets seed password machine before
  unfold lockAndStore
  simp only [execute_bind, execute_adapt, ran]
  cases locks with
  | noSalt short => exact ⟨_, [.refused 16], _, rfl, .noSalt short⟩
  | @noCounter salt rest enough short =>
      refine ⟨_, [.salt salt, .refused 16], _, rfl, ?_⟩
      rw [enough]
      exact .noCounter salt short
  | @locked salt iv rest enough =>
      generalize locked : Vault.lockWith seed password salt iv = vault
      have left := spares.put vault { machine with entropy := rest }
      rcases kept : execute (wallet.store.put vault) { machine with entropy := rest } with
        ⟨answer, after⟩
      rw [kept] at left
      refine ⟨answer.mapError .store, [.vault vault true], after, ?ran, ?spends⟩
      case ran =>
        have salted : vault.salt = salt := locked ▸ rfl
        have counted : vault.iv = iv := locked ▸ rfl
        simp only [Except.mapError, recorded, Recorder.execute_put kept, List.append_assoc,
          List.flatMap_cons, List.flatMap_nil, List.append_nil, Entry.accesses, salted, counted,
          List.cons_append, List.nil_append]
      case spends =>
        rw [enough, left, ← locked]
        cases answer with
        | ok _ => exact .lock salt iv .done
        | error cause => exact .notStored salt iv cause

/-- How a vault is opened. It is sealed again, unless it has a tag or no address is expected. -/
inductive Opens (password : String) (expected : Option Address) (found : Option Vault)
    (tape : List UInt8) : List Entry → List UInt8 → Except WalletError UnlockedWallet → Prop
  | failed {entries : List Entry} {left : List UInt8} {cause : WalletError} :
      Goes ((Operation.unlock password expected).needs found) tape entries left (some cause) →
        Opens password expected found tape entries left (.error cause)
  | opened {entries : List Entry} {left : List UInt8} {vault : Vault}
      (integrity : Integrity) :
      found = some vault →
        Spends (upgradeNeeds vault password expected) tape entries left none →
          (integrity = .unverified → expected = none) →
            Opens password expected found tape entries left
              (.ok ⟨vault.seedUnder password, integrity⟩)

theorem unlock_opens (password : String) (expected : Option Address) (machine : Machine)
    (before : List Access) :
    ∃ answer entries after,
      execute (wallet.recorded.unlock password expected) ⟨machine, before⟩ =
        (answer, ⟨after, before ++ entries.flatMap Entry.accesses⟩) ∧
      Opens password expected (wallet.store.found machine) machine.entropy entries after.entropy
        answer := by
  have same := spares.get machine
  unfold unlock Store.found
  rcases got : execute wallet.store.get machine with ⟨found, middle⟩
  rw [got] at same
  rw [← same]
  simp only [execute_bind, execute_recorded_vault? got]
  match found with
  | .error cause =>
      exact ⟨.error (.store cause), [], _, by simp [Except.mapError], .failed (.stopped nofun)⟩
  | .ok none =>
      exact ⟨.error .noVault, [], _, by simp [Except.mapError], .failed (.stopped nofun)⟩
  | .ok (some vault) =>
      simp only [Except.mapError, execute_bind, execute_mk_pure]
      cases opened : vault.unlock password with
      | error cause =>
          obtain ⟨rfl, _⟩ := Vault.unlock_eq_error_iff.mp opened
          exact ⟨.error (.lock .wrongPassword), [], _, by simp, .failed (.stopped nofun)⟩
      | ok seed =>
          obtain ⟨_, rfl⟩ := Vault.unlock_eq_ok_iff.mp opened
          simp only
          match expected with
          | none =>
              have spends : Spends (upgradeNeeds vault password none) middle.entropy []
                  middle.entropy none := by
                rw [upgradeNeeds_none]
                exact .done
              cases vault.isAuthenticated with
              | true => exact ⟨_, [], _, by simp, .opened .tagged rfl spends nofun⟩
              | false => exact ⟨_, [], _, by simp, .opened .unverified rfl spends fun _ => rfl⟩
          | some address =>
              by_cases isDerived : address = (vault.seedUnder password).address
              · subst isDerived
                cases authenticated : vault.isAuthenticated with
                | true =>
                    have spends : Spends (upgradeNeeds vault password
                        (some (vault.seedUnder password).address)) middle.entropy []
                        middle.entropy none := by
                      rw [upgradeNeeds_of_isAuthenticated authenticated]
                      exact .done
                    refine ⟨_, [], _, ?_, .opened .tagged rfl spends nofun⟩
                    simp only [if_true, execute_bind, UnlockedWallet.address_mk,
                      execute_checkAddress_self, execute_pure, List.flatMap_nil, List.append_nil]
                | false =>
                    obtain ⟨answer, entries, after, ran, spends⟩ := lockAndStore_spends spares
                      (vault.seedUnder password) password middle before
                    rw [← upgradeNeeds_of_legacy authenticated password
                      (vault.seedUnder password).address] at spends
                    simp only [Bool.false_eq_true, if_false, execute_bind,
                      UnlockedWallet.address_mk, execute_checkAddress_self, ran]
                    cases answer with
                    | error cause => exact ⟨_, _, _, rfl, .failed (.spends spends)⟩
                    | ok _ => exact ⟨_, _, _, rfl, .opened .addressMatched rfl spends nofun⟩
              · refine ⟨.error (.addressMismatch address (vault.seedUnder password).address), [], _,
                  ?_, .failed (.stopped nofun)⟩
                cases vault.isAuthenticated <;>
                  simp only [Bool.false_eq_true, if_true, if_false, execute_bind,
                    UnlockedWallet.address_mk, execute_checkAddress_of_ne isDerived,
                    List.flatMap_nil, List.append_nil]

theorem unlock_draws (password : String) (expected : Option Address) :
    Draws (wallet.recorded.unlock password expected) fun machine =>
      (Operation.unlock password expected).needs (wallet.store.found machine) := by
  intro machine before
  obtain ⟨answer, entries, after, ran, opens⟩ :=
    unlock_opens spares password expected machine before
  refine ⟨answer, entries, after, ran, ?_⟩
  cases opens with
  | failed goes => exact goes
  | opened integrity found spends _ =>
      apply Goes.spends
      dsimp only
      rw [found]
      exact spends

theorem changePassword_draws (current password confirmation : String)
    (expected : Option Address) :
    Draws (wallet.recorded.changePassword current password confirmation expected) fun machine =>
      (Operation.changePassword current password confirmation expected).needs
        (wallet.store.found machine) := by
  intro machine before
  unfold changePassword
  simp only [execute_bind, execute_recorded_checkPassword]
  cases wallet.policy.check password confirmation with
  | error cause =>
      exact ⟨.error (.password cause), [], _, by simp [Except.mapError], .stopped nofun⟩
  | ok analysis =>
      obtain ⟨answer, entries, middle, ran, opens⟩ :=
        unlock_opens spares current expected machine before
      simp only [Except.mapError, ran]
      cases opens with
      | @failed cause goes =>
          refine ⟨.error cause, entries, middle, rfl, ?_⟩
          cases found : wallet.store.found machine with
          | none =>
              rw [found] at goes
              exact goes
          | some vault =>
              rw [found] at goes
              exact goes.append_needs _
      | @opened vault integrity found spends unasked =>
          by_cases unverified : integrity = .unverified
          · rw [unasked unverified, upgradeNeeds_none] at spends
            obtain ⟨rfl, left, _⟩ := spends.of_nil
            rw [← left]
            refine ⟨.error .unverifiedVault, [], _, ?_, .stopped nofun⟩
            simp only [if_pos unverified, execute_bind, execute_throw]
          · obtain ⟨sealed, others, after, stored, more⟩ := lockAndStore_spends spares
              (vault.seedUnder current) password middle (before ++ entries.flatMap Entry.accesses)
            simp only [if_neg unverified, execute_bind, stored]
            have all := spends.append more
            rw [List.append_assoc, ← List.flatMap_append]
            have needs : (Operation.changePassword current password confirmation expected).needs
                (wallet.store.found machine) = upgradeNeeds vault current expected ++
                  [.lock (vault.seedUnder current) password true] := by rw [found]; rfl
            rw [← needs] at all
            cases sealed with
            | error cause => exact ⟨_, _, _, rfl, .spends all⟩
            | ok _ => exact ⟨_, _, _, rfl, .spends all⟩

/-- A new wallet that is handed out got its phrase and its challenge from the bytes drawn. -/
theorem beginCreate_begins (password confirmation : String) (machine : Machine)
    (before : List Access) :
    ∃ answer entries after,
      execute (wallet.recorded.beginCreate password confirmation) ⟨machine, before⟩ =
        (answer, ⟨after, before ++ entries.flatMap Entry.accesses⟩) ∧
      Goes [.phrase, .challenge] machine.entropy entries after.entropy (failure? answer) ∧
      ∀ pending, answer = .ok pending →
        ∃ key, entries = [.phrase pending.phrase.entropy, .challenge key] ∧
          pending.challenge = .ofKey wallet.challengeWords key := by
  have same := spares.get machine
  unfold beginCreate Phrase.generate Challenge.random hasVault
  rcases got : execute wallet.store.get machine with ⟨found, middle⟩
  rw [got] at same
  rw [← same]
  simp only [execute_bind, execute_map, execute_recorded_vault? got]
  match found with
  | .error cause =>
      exact ⟨.error (.store cause), [], _, by simp [Except.mapError, Except.map],
        .stopped nofun, nofun⟩
  | .ok (some vault) =>
      exact ⟨.error .vaultExists, [], _, by simp [Except.mapError, Except.map],
        .stopped nofun, nofun⟩
  | .ok none =>
      simp only [Except.mapError, Except.map, Option.isSome_none, Bool.false_eq_true, if_false,
        execute_bind, execute_pure, execute_recorded_checkPassword]
      cases wallet.policy.check password confirmation with
      | error cause =>
          exact ⟨.error (.password cause), [], _, by simp, .stopped nofun, nofun⟩
      | ok analysis =>
          simp only [execute_adapt, execute_map]
          rcases Recorder.short_or_enough 16 middle.entropy with short | ⟨entropy, rest, enough⟩
          · have refused := Recorder.execute_drawOr_of_lt SeedError.randomness middle before short
            refine ⟨.error (.seed .randomness), [.refused 16], middle, ?_,
              .spends (.noPhrase short), nofun⟩
            simp only [refused, Except.map]
            rfl
          · have drawn :=
              Recorder.execute_drawOr_of_append SeedError.randomness middle before enough
            simp only [drawn, Except.map, Except.mapError]
            rw [enough]
            rcases Recorder.short_or_enough 32 rest with short | ⟨key, left, more⟩
            · have refused := Recorder.execute_drawOr_of_lt SeedError.randomness
                { middle with entropy := rest } (before ++ [.drew entropy.toList]) short
              refine ⟨.error (.seed .randomness), [.phrase entropy, .refused 32],
                { middle with entropy := rest }, ?_,
                .spends (.phrase entropy (.noChallenge short)), nofun⟩
              simp only [refused, List.append_assoc]
              rfl
            · have keyDrawn := Recorder.execute_drawOr_of_append SeedError.randomness
                { middle with entropy := rest } (before ++ [.drew entropy.toList]) more
              have spends : Spends [.phrase, .challenge] (entropy.toList ++ rest)
                  [.phrase entropy, .challenge key] left none := by
                rw [more]
                exact .phrase entropy (.challenge key .done)
              refine ⟨.ok ⟨⟨entropy⟩, .ofKey wallet.challengeWords key, password, analysis⟩,
                [.phrase entropy, .challenge key], { middle with entropy := left }, ?_,
                .spends spends, ?_⟩
              · simp only [keyDrawn, List.append_assoc]
                rfl
              · rintro _ ⟨⟩
                exact ⟨key, rfl, rfl⟩

theorem beginCreate_draws (password confirmation : String) :
    Draws (wallet.recorded.beginCreate password confirmation) fun machine =>
      (Operation.beginCreate password confirmation).needs (wallet.store.found machine) := by
  intro machine before
  obtain ⟨answer, entries, after, ran, goes, _⟩ :=
    beginCreate_begins spares password confirmation machine before
  exact ⟨answer, entries, after, ran, goes⟩

theorem finishCreate_draws (pending : PendingWallet) (answers : List String) :
    Draws (wallet.recorded.finishCreate pending answers) fun machine =>
      (Operation.finishCreate pending answers).needs (wallet.store.found machine) := by
  intro machine before
  unfold finishCreate
  cases pending.challenge.verify pending.phrase answers with
  | false => exact ⟨.error .backupNotConfirmed, [], _, by simp, .stopped nofun⟩
  | true =>
      obtain ⟨answer, entries, after, ran, spends⟩ :=
        lockAndStore_spends spares (Seed.ofPhrase pending.phrase) pending.password machine before
      simp only [if_true, execute_bind, execute_pure, ran]
      cases answer with
      | error cause => exact ⟨_, _, _, rfl, .spends spends⟩
      | ok _ => exact ⟨_, _, _, rfl, .spends spends⟩

/-- Once nothing is in the way, an import needs a seal of the seed that its text denotes. -/
theorem importSeed_draws_of_free (input password confirmation : String) (found : Option Vault) :
    Draws (wallet.recorded.importSeed input password confirmation true) fun _ =>
      (Operation.importSeed input password confirmation true).needs found := by
  intro machine before
  change ∃ answer entries after, execute (wallet.recorded.checkPassword _ _ >>= _) _ = _ ∧ _
  simp only [execute_bind, execute_recorded_checkPassword]
  cases wallet.policy.check password confirmation with
  | error cause =>
      exact ⟨.error (.password cause), [], _, by simp [Except.mapError], .stopped nofun⟩
  | ok analysis =>
      simp only [Except.mapError, execute_mk_pure]
      cases resolved : Seed.resolve input with
      | error cause =>
          refine ⟨.error (.seed cause), [], _, by simp, .stopped ?_⟩
          rintro ⟨⟩
          exact Seed.resolve_ne_randomness input resolved
      | ok seed =>
          obtain ⟨answer, entries, after, ran, spends⟩ :=
            lockAndStore_spends spares seed password machine before
          have needs : (Operation.importSeed input password confirmation true).needs found =
              [.lock seed password true] := by rw [Operation.needs, resolved]
          rw [← needs] at spends
          simp only [ran]
          cases answer with
          | error cause => exact ⟨_, _, _, rfl, .spends spends⟩
          | ok _ => exact ⟨_, _, _, rfl, .spends spends⟩

theorem importSeed_draws (input password confirmation : String) (overwrite : Bool) :
    Draws (wallet.recorded.importSeed input password confirmation overwrite) fun machine =>
      (Operation.importSeed input password confirmation overwrite).needs
        (wallet.store.found machine) := by
  intro machine before
  have unreadable (cause : StoreError) : ¬ (WalletError.store cause).OfRandomness := nofun
  have occupied : ¬ WalletError.vaultExists.OfRandomness := nofun
  have same := spares.get machine
  have free := importSeed_draws_of_free spares input password confirmation
    (wallet.store.found machine)
  cases overwrite with
  | true => exact free machine before
  | false =>
      change ∃ answer entries after, execute (wallet.recorded.hasVault >>= _) _ = _ ∧ _
      rcases got : execute wallet.store.get machine with ⟨found, middle⟩
      rw [got] at same
      rw [← same]
      simp only [execute_bind, hasVault, execute_map, execute_recorded_vault? got]
      cases found with
      | error cause =>
          exact ⟨.error (.store cause), [], _, by simp [Except.mapError, Except.map],
            .stopped (unreadable cause)⟩
      | ok stored =>
          cases stored with
          | some vault =>
              exact ⟨.error .vaultExists, [], _, by simp [Except.mapError, Except.map],
                .stopped occupied⟩
          | none => exact free middle before

theorem forget_draws :
    Draws wallet.recorded.forget fun machine =>
      Operation.forget.needs (wallet.store.found machine) := by
  intro machine before
  have same := spares.clear machine
  rcases cleared : execute wallet.store.clear machine with ⟨answer, after⟩
  rw [cleared] at same
  refine ⟨answer.mapError .store, [.removed], after, ?_, .spends ?_⟩
  · rw [forget, recorded, execute_adapt, Recorder.execute_clear cleared]
    rfl
  · rw [same]
    cases answer with
    | ok _ => exact .removed .done
    | error cause => exact .notRemoved cause

end Wallet

end SeedVault
