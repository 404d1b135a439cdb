/-
How the operations of a wallet can end. For each operation over the vault in memory there
is a relation with one case for each way to end: what is answered, which random bytes are
drawn, what is written, and which machine is left.
-/

import SeedVault.Proofs.Wallet.Recorder

namespace SeedVault

/-- Whatever was recorded before, a program ends in one of the related ways and adds what
it does to the record. -/
def Meets {ε α : Type} (program : ExceptT ε (StateM Recorder) α)
    (relation : Machine → Except ε α → List Access → Machine → Prop) : Prop :=
  ∀ machine before, ∃ answer accesses after,
    execute program ⟨machine, before⟩ = (answer, ⟨after, before ++ accesses⟩) ∧
      relation machine answer accesses after

/-- Without a record, a program ends in the same ways. -/
theorem Meets.unrecorded {ε α : Type} {program : ExceptT ε (StateM Recorder) α}
    {plain : ExceptT ε (StateM Machine) α}
    {relation : Machine → Except ε α → List Access → Machine → Prop}
    (meets : Meets program relation) (alike : Simulates Recorder.Records program plain)
    {machine after : Machine} {answer : Except ε α}
    (ran : execute plain machine = (answer, after)) :
    ∃ accesses, relation machine answer accesses after := by
  obtain ⟨recorded, accesses, left, recordedRan, related⟩ := meets machine []
  obtain ⟨sameAnswer, sameMachine⟩ := alike ⟨machine, []⟩ machine rfl
  rw [recordedRan, ran] at sameAnswer sameMachine
  obtain rfl : recorded = answer := sameAnswer
  obtain rfl : left = after := sameMachine
  exact ⟨accesses, related⟩

/-- The address of the account of a seed. -/
def Seed.address (seed : Seed) : Address :=
  (KeyPair.derive seed).address

theorem UnlockedWallet.address_mk (seed : Seed) (integrity : Integrity) :
    (UnlockedWallet.mk seed integrity).address = seed.address := rfl

/-- How a seed is sealed: a salt and a counter block are drawn. -/
inductive Vault.Locks (seed : Seed) (password : String) :
    Machine → Except Vault.LockError Vault → List Access → Machine → Prop
  | noSalt {machine : Machine} :
      machine.entropy.length < 16 →
        Locks seed password machine (.error .randomness) [.refused 16] machine
  | noCounter {machine : Machine} {salt : Bytes 16} {rest : List UInt8} :
      machine.entropy = salt.toList ++ rest → rest.length < 16 →
        Locks seed password machine (.error .randomness) [.drew salt.toList, .refused 16]
          { machine with entropy := rest }
  | locked {machine : Machine} {salt iv : Bytes 16} {rest : List UInt8} :
      machine.entropy = salt.toList ++ (iv.toList ++ rest) →
        Locks seed password machine (.ok (lockWith seed password salt iv))
          [.drew salt.toList, .drew iv.toList] { machine with entropy := rest }

theorem Vault.lock_meets (seed : Seed) (password : String) :
    Meets (Vault.lock seed password) (Locks seed password) := by
  intro machine before
  unfold Vault.lock
  rcases Recorder.short_or_enough 16 machine.entropy with short | ⟨salt, rest, enough⟩
  · have refused := Recorder.execute_drawOr_of_lt LockError.randomness machine before short
    refine ⟨_, _, _, ?_, .noSalt short⟩
    simp only [execute_bind, refused]
  · have drawn := Recorder.execute_drawOr_of_append LockError.randomness machine before enough
    rcases Recorder.short_or_enough 16 rest with short | ⟨iv, left, more⟩
    · have refused := Recorder.execute_drawOr_of_lt LockError.randomness
        { machine with entropy := rest } (before ++ [.drew salt.toList]) short
      refine ⟨_, _, _, ?_, .noCounter enough short⟩
      simp only [execute_bind, drawn, refused, List.append_assoc, List.singleton_append]
    · have ivDrawn := Recorder.execute_drawOr_of_append LockError.randomness
        { machine with entropy := rest } (before ++ [.drew salt.toList]) more
      refine ⟨_, _, _, ?_, .locked (more ▸ enough)⟩
      simp only [execute_bind, execute_pure, drawn, ivDrawn, List.append_assoc, List.cons_append,
        List.nil_append]

namespace Wallet

/-- How a seed is sealed and stored: a salt and a counter block are drawn, and then the
seal is written. -/
inductive Stores (seed : Seed) (password : String) :
    Machine → Except WalletError Unit → List Access → Machine → Prop
  | noSalt {machine : Machine} :
      machine.entropy.length < 16 →
        Stores seed password machine (.error (.lock .randomness)) [.refused 16] machine
  | noCounter {machine : Machine} {salt : Bytes 16} {rest : List UInt8} :
      machine.entropy = salt.toList ++ rest → rest.length < 16 →
        Stores seed password machine (.error (.lock .randomness)) [.drew salt.toList, .refused 16]
          { machine with entropy := rest }
  | stored {machine : Machine} {salt iv : Bytes 16} {rest : List UInt8} :
      machine.entropy = salt.toList ++ (iv.toList ++ rest) →
        Stores seed password machine (.ok ())
          [.drew salt.toList, .drew iv.toList, .wrote (Vault.lockWith seed password salt iv)]
          { machine with entropy := rest, vault := some (Vault.lockWith seed password salt iv) }

/-- How the vault is opened. It is written only to give a tag to one without a tag. -/
inductive Unlocks (password : String) (expected : Option Address) :
    Machine → Except WalletError UnlockedWallet → List Access → Machine → Prop
  | noVault {machine : Machine} :
      machine.vault = none → Unlocks password expected machine (.error .noVault) [] machine
  | locked {machine : Machine} {vault : Vault} {cause : Vault.LockError} :
      machine.vault = some vault → vault.unlock password = .error cause →
        Unlocks password expected machine (.error (.lock cause)) [] machine
  | mismatch {machine : Machine} {vault : Vault} {seed : Seed} {address : Address} :
      machine.vault = some vault → vault.unlock password = .ok seed →
        expected = some address → address ≠ seed.address →
          Unlocks password expected machine (.error (.addressMismatch address seed.address)) []
            machine
  | tagged {machine : Machine} {vault : Vault} {seed : Seed} :
      machine.vault = some vault → vault.isAuthenticated = true →
        vault.unlock password = .ok seed → (∀ address ∈ expected, address = seed.address) →
          Unlocks password expected machine (.ok ⟨seed, .tagged⟩) [] machine
  | unverified {machine : Machine} {vault : Vault} {seed : Seed} :
      machine.vault = some vault → vault.isAuthenticated = false →
        vault.unlock password = .ok seed → expected = none →
          Unlocks password expected machine (.ok ⟨seed, .unverified⟩) [] machine
  | resealed {machine after : Machine} {vault : Vault} {seed : Seed} {accesses : List Access} :
      machine.vault = some vault → vault.isAuthenticated = false →
        vault.unlock password = .ok seed → expected = some seed.address →
          Stores seed password machine (.ok ()) accesses after →
            Unlocks password expected machine (.ok ⟨seed, .addressMatched⟩) accesses after
  | unsealed {machine after : Machine} {vault : Vault} {seed : Seed} {cause : WalletError}
      {accesses : List Access} :
      machine.vault = some vault → vault.isAuthenticated = false →
        vault.unlock password = .ok seed → expected = some seed.address →
          Stores seed password machine (.error cause) accesses after →
            Unlocks password expected machine (.error cause) accesses after

/-- How the password is changed: the vault is opened, which may write it, and the seed is
sealed again. -/
inductive Changes (policy : Password.Policy) (current password confirmation : String)
    (expected : Option Address) :
    Machine → Except WalletError UnlockedWallet → List Access → Machine → Prop
  | refused {machine : Machine} {cause : PasswordError} :
      policy.check password confirmation = .error cause →
        Changes policy current password confirmation expected machine (.error (.password cause)) []
          machine
  | locked {machine after : Machine} {analysis : Password.Analysis} {cause : WalletError}
      {accesses : List Access} :
      policy.check password confirmation = .ok analysis →
        Unlocks current expected machine (.error cause) accesses after →
          Changes policy current password confirmation expected machine (.error cause) accesses
            after
  | unverified {machine after : Machine} {analysis : Password.Analysis} {unlocked : UnlockedWallet}
      {accesses : List Access} :
      policy.check password confirmation = .ok analysis →
        Unlocks current expected machine (.ok unlocked) accesses after →
          unlocked.integrity = .unverified →
            Changes policy current password confirmation expected machine (.error .unverifiedVault)
              accesses after
  | unsealed {machine middle after : Machine} {analysis : Password.Analysis}
      {unlocked : UnlockedWallet} {cause : WalletError} {opening sealing : List Access} :
      policy.check password confirmation = .ok analysis →
        Unlocks current expected machine (.ok unlocked) opening middle →
          unlocked.integrity ≠ .unverified →
            Stores unlocked.seed password middle (.error cause) sealing after →
              Changes policy current password confirmation expected machine (.error cause)
                (opening ++ sealing) after
  | changed {machine middle after : Machine} {analysis : Password.Analysis}
      {unlocked : UnlockedWallet} {opening sealing : List Access} :
      policy.check password confirmation = .ok analysis →
        Unlocks current expected machine (.ok unlocked) opening middle →
          unlocked.integrity ≠ .unverified →
            Stores unlocked.seed password middle (.ok ()) sealing after →
              Changes policy current password confirmation expected machine
                (.ok ⟨unlocked.seed, .tagged⟩) (opening ++ sealing) after

/-- How a new wallet is begun: nothing is written. -/
inductive Begins (policy : Password.Policy) (challengeWords : Nat)
    (password confirmation : String) :
    Machine → Except WalletError PendingWallet → List Access → Machine → Prop
  | vaultExists {machine : Machine} {vault : Vault} :
      machine.vault = some vault →
        Begins policy challengeWords password confirmation machine (.error .vaultExists) [] machine
  | refused {machine : Machine} {cause : PasswordError} :
      machine.vault = none → policy.check password confirmation = .error cause →
        Begins policy challengeWords password confirmation machine (.error (.password cause)) []
          machine
  | noPhrase {machine : Machine} {analysis : Password.Analysis} :
      machine.vault = none → policy.check password confirmation = .ok analysis →
        machine.entropy.length < 16 →
          Begins policy challengeWords password confirmation machine (.error (.seed .randomness))
            [.refused 16] machine
  | noChallenge {machine : Machine} {analysis : Password.Analysis} {entropy : Bytes 16}
      {rest : List UInt8} :
      machine.vault = none → policy.check password confirmation = .ok analysis →
        machine.entropy = entropy.toList ++ rest → rest.length < 32 →
          Begins policy challengeWords password confirmation machine (.error (.seed .randomness))
            [.drew entropy.toList, .refused 32] { machine with entropy := rest }
  | begun {machine : Machine} {analysis : Password.Analysis} {entropy : Bytes 16} {key : Bytes 32}
      {rest : List UInt8} :
      machine.vault = none → policy.check password confirmation = .ok analysis →
        machine.entropy = entropy.toList ++ (key.toList ++ rest) →
          Begins policy challengeWords password confirmation machine
            (.ok ⟨⟨entropy⟩, Challenge.ofKey challengeWords key, password, analysis⟩)
            [.drew entropy.toList, .drew key.toList] { machine with entropy := rest }

/-- How a new wallet is finished. Whether a vault is in the store makes no difference. -/
inductive Finishes (pending : PendingWallet) (answers : List String) :
    Machine → Except WalletError UnlockedWallet → List Access → Machine → Prop
  | unconfirmed {machine : Machine} :
      pending.challenge.verify pending.phrase answers = false →
        Finishes pending answers machine (.error .backupNotConfirmed) [] machine
  | unsealed {machine after : Machine} {cause : WalletError} {accesses : List Access} :
      pending.challenge.verify pending.phrase answers = true →
        Stores (Seed.ofPhrase pending.phrase) pending.password machine (.error cause) accesses
            after →
          Finishes pending answers machine (.error cause) accesses after
  | finished {machine after : Machine} {accesses : List Access} :
      pending.challenge.verify pending.phrase answers = true →
        Stores (Seed.ofPhrase pending.phrase) pending.password machine (.ok ()) accesses after →
          Finishes pending answers machine (.ok ⟨Seed.ofPhrase pending.phrase, .tagged⟩) accesses
            after

/-- How a seed is imported. -/
inductive Imports (policy : Password.Policy) (input password confirmation : String)
    (overwrite : Bool) :
    Machine → Except WalletError UnlockedWallet → List Access → Machine → Prop
  | vaultExists {machine : Machine} {vault : Vault} :
      overwrite = false → machine.vault = some vault →
        Imports policy input password confirmation overwrite machine (.error .vaultExists) []
          machine
  | refused {machine : Machine} {cause : PasswordError} :
      (overwrite = false → machine.vault = none) →
        policy.check password confirmation = .error cause →
          Imports policy input password confirmation overwrite machine (.error (.password cause))
            [] machine
  | unresolved {machine : Machine} {analysis : Password.Analysis} {cause : SeedError} :
      (overwrite = false → machine.vault = none) →
        policy.check password confirmation = .ok analysis → Seed.resolve input = .error cause →
          Imports policy input password confirmation overwrite machine (.error (.seed cause)) []
            machine
  | unsealed {machine after : Machine} {analysis : Password.Analysis} {seed : Seed}
      {cause : WalletError} {accesses : List Access} :
      (overwrite = false → machine.vault = none) →
        policy.check password confirmation = .ok analysis → Seed.resolve input = .ok seed →
          Stores seed password machine (.error cause) accesses after →
            Imports policy input password confirmation overwrite machine (.error cause) accesses
              after
  | imported {machine after : Machine} {analysis : Password.Analysis} {seed : Seed}
      {accesses : List Access} :
      (overwrite = false → machine.vault = none) →
        policy.check password confirmation = .ok analysis → Seed.resolve input = .ok seed →
          Stores seed password machine (.ok ()) accesses after →
            Imports policy input password confirmation overwrite machine (.ok ⟨seed, .tagged⟩)
              accesses after

/-- How the vault is removed. -/
inductive Forgets : Machine → Except WalletError Unit → List Access → Machine → Prop
  | forgotten {machine : Machine} : Forgets machine (.ok ()) [.cleared] { machine with vault := none }

section

variable {wallet : Wallet (StateM Recorder)}

theorem execute_checkAddress_self {σ : Type} (address : Address) (state : σ) :
    execute (checkAddress address address : ExceptT WalletError (StateM σ) Unit) state =
      (.ok (), state) := by
  rw [checkAddress, if_pos rfl]
  rfl

theorem execute_checkAddress_of_ne {σ : Type} {expected derived : Address}
    (different : expected ≠ derived) (state : σ) :
    execute (checkAddress expected derived : ExceptT WalletError (StateM σ) Unit) state =
      (.error (.addressMismatch expected derived), state) := by
  rw [checkAddress, if_neg different]
  rfl

theorem execute_checkPassword (password confirmation : String) (recorder : Recorder) :
    execute (wallet.checkPassword password confirmation) recorder =
      ((wallet.policy.check password confirmation).mapError .password, recorder) := rfl

variable (kept : wallet.store = Store.memory) (machine : Machine) (before : List Access)

include kept

theorem execute_vault? :
    execute wallet.vault? ⟨machine, before⟩ = (.ok machine.vault, ⟨machine, before⟩) := by
  rw [vault?, kept]
  rfl

theorem execute_hasVault :
    execute wallet.hasVault ⟨machine, before⟩ =
      (.ok machine.vault.isSome, ⟨machine, before⟩) := by
  rw [hasVault, execute_map, execute_vault? kept]
  rfl

theorem execute_put (vault : Vault) :
    execute (wallet.store.put vault) ⟨machine, before⟩ =
      (.ok (), ⟨{ machine with vault := some vault }, before ++ [.wrote vault]⟩) := by
  rw [kept]
  rfl

theorem lockAndStore_meets (seed : Seed) (password : String) :
    Meets (wallet.lockAndStore seed password) (Stores seed password) := by
  intro machine before
  obtain ⟨answer, accesses, after, ran, locks⟩ := Vault.lock_meets seed password machine before
  unfold lockAndStore
  simp only [execute_bind, execute_adapt, ran]
  cases locks with
  | noSalt short => exact ⟨_, _, _, rfl, .noSalt short⟩
  | noCounter enough short => exact ⟨_, _, _, rfl, .noCounter enough short⟩
  | locked enough =>
      refine ⟨_, _, _, ?_, .stored enough⟩
      simp only [Except.mapError, execute_put kept, List.append_assoc, List.cons_append,
        List.nil_append]

theorem unlock_meets (password : String) (expected : Option Address) :
    Meets (wallet.unlock password expected) (Unlocks password expected) := by
  intro machine before
  unfold unlock
  simp only [execute_bind, execute_vault? kept]
  cases stored : machine.vault with
  | none => exact ⟨_, [], _, by simp, .noVault stored⟩
  | some vault =>
      simp only [execute_bind, execute_mk_pure]
      cases opened : vault.unlock password with
      | error cause => exact ⟨_, [], _, by simp [Except.mapError], .locked stored opened⟩
      | ok seed =>
          simp only [Except.mapError]
          cases authenticated : vault.isAuthenticated with
          | true =>
              rw [if_pos rfl]
              cases expected with
              | none => exact ⟨_, [], _, by simp, .tagged stored authenticated opened (by simp)⟩
              | some address =>
                  by_cases same : address = seed.address
                  · subst same
                    refine ⟨_, [], _, ?_, .tagged stored authenticated opened (by simp)⟩
                    simp only [execute_bind, UnlockedWallet.address_mk, execute_checkAddress_self,
                      execute_pure, List.append_nil]
                  · refine ⟨_, [], _, ?_, .mismatch stored opened rfl same⟩
                    simp only [execute_bind, UnlockedWallet.address_mk,
                      execute_checkAddress_of_ne same, List.append_nil]
          | false =>
              rw [if_neg Bool.false_ne_true]
              cases expected with
              | none => exact ⟨_, [], _, by simp, .unverified stored authenticated opened rfl⟩
              | some address =>
                  by_cases same : address = seed.address
                  · subst same
                    obtain ⟨answer, accesses, after, ran, stores⟩ :=
                      lockAndStore_meets kept seed password machine before
                    cases answer with
                    | error cause =>
                        refine ⟨_, _, _, ?_, .unsealed stored authenticated opened rfl stores⟩
                        simp only [execute_bind, UnlockedWallet.address_mk,
                          execute_checkAddress_self, ran]
                    | ok _ =>
                        refine ⟨_, _, _, ?_, .resealed stored authenticated opened rfl stores⟩
                        simp only [execute_bind, UnlockedWallet.address_mk,
                          execute_checkAddress_self, ran, execute_pure]
                  · refine ⟨_, [], _, ?_, .mismatch stored opened rfl same⟩
                    simp only [execute_bind, UnlockedWallet.address_mk,
                      execute_checkAddress_of_ne same, List.append_nil]

theorem changePassword_meets (current password confirmation : String)
    (expected : Option Address) :
    Meets (wallet.changePassword current password confirmation expected)
      (Changes wallet.policy current password confirmation expected) := by
  intro machine before
  unfold changePassword
  simp only [execute_bind, execute_checkPassword]
  cases checked : wallet.policy.check password confirmation with
  | error cause => exact ⟨_, [], _, by simp [Except.mapError], .refused checked⟩
  | ok analysis =>
      obtain ⟨answer, opening, middle, ran, unlocks⟩ :=
        unlock_meets kept current expected machine before
      simp only [Except.mapError, ran]
      cases answer with
      | error cause => exact ⟨_, _, _, rfl, .locked checked unlocks⟩
      | ok unlocked =>
          by_cases unverified : unlocked.integrity = .unverified
          · refine ⟨_, _, _, ?_, .unverified checked unlocks unverified⟩
            simp only [if_pos unverified, execute_bind, execute_throw]
          · obtain ⟨sealed, sealing, after, stored, stores⟩ :=
              lockAndStore_meets kept unlocked.seed password middle (before ++ opening)
            rw [List.append_assoc] at stored
            simp only [if_neg unverified, execute_bind, stored]
            cases sealed with
            | error cause =>
                exact ⟨_, _, _, rfl, .unsealed checked unlocks unverified stores⟩
            | ok _ => exact ⟨_, _, _, rfl, .changed checked unlocks unverified stores⟩

theorem beginCreate_meets (password confirmation : String) :
    Meets (wallet.beginCreate password confirmation)
      (Begins wallet.policy wallet.challengeWords password confirmation) := by
  intro machine before
  unfold beginCreate Phrase.generate Challenge.random
  simp only [execute_bind, execute_hasVault kept]
  cases stored : machine.vault with
  | some vault => exact ⟨_, [], _, by simp, .vaultExists stored⟩
  | none =>
      simp only [Option.isSome_none, Bool.false_eq_true, if_false, execute_bind, execute_pure,
        execute_checkPassword]
      cases checked : wallet.policy.check password confirmation with
      | error cause => exact ⟨_, [], _, by simp [Except.mapError], .refused stored checked⟩
      | ok analysis =>
          simp only [Except.mapError, execute_adapt, execute_map]
          rcases Recorder.short_or_enough 16 machine.entropy with short | ⟨entropy, rest, enough⟩
          · have refused := Recorder.execute_drawOr_of_lt SeedError.randomness machine before short
            refine ⟨_, _, _, ?_, .noPhrase stored checked short⟩
            simp only [refused, Except.map]
          · have drawn :=
              Recorder.execute_drawOr_of_append SeedError.randomness machine before enough
            simp only [drawn, Except.map]
            rcases Recorder.short_or_enough 32 rest with short | ⟨key, left, more⟩
            · have refused := Recorder.execute_drawOr_of_lt SeedError.randomness
                { machine with entropy := rest } (before ++ [.drew entropy.toList]) short
              refine ⟨_, _, _, ?_, .noChallenge stored checked enough short⟩
              simp only [refused, List.append_assoc, List.cons_append, List.nil_append]
            · have keyDrawn := Recorder.execute_drawOr_of_append SeedError.randomness
                { machine with entropy := rest } (before ++ [.drew entropy.toList]) more
              refine ⟨_, _, _, ?_, .begun stored checked (more ▸ enough)⟩
              simp only [keyDrawn, List.append_assoc, List.cons_append, List.nil_append]

theorem finishCreate_meets (pending : PendingWallet) (answers : List String) :
    Meets (wallet.finishCreate pending answers) (Finishes pending answers) := by
  intro machine before
  unfold finishCreate
  cases verified : pending.challenge.verify pending.phrase answers with
  | false => exact ⟨_, [], _, by simp, .unconfirmed verified⟩
  | true =>
      obtain ⟨answer, accesses, after, ran, stores⟩ :=
        lockAndStore_meets kept (Seed.ofPhrase pending.phrase) pending.password machine before
      simp only [if_true, execute_bind, execute_pure, ran]
      cases answer with
      | error cause => exact ⟨_, _, _, rfl, .unsealed verified stores⟩
      | ok _ => exact ⟨_, _, _, rfl, .finished verified stores⟩

/-- Over an empty store an import does not depend on whether it may overwrite. -/
theorem execute_importSeed_of_free (input password confirmation : String) {overwrite : Bool}
    (free : overwrite = false → machine.vault = none) :
    execute (wallet.importSeed input password confirmation overwrite) ⟨machine, before⟩ =
      execute (wallet.importSeed input password confirmation true) ⟨machine, before⟩ := by
  cases overwrite with
  | true => rfl
  | false =>
      change execute (wallet.hasVault >>= _) _ = _
      rw [execute_bind, execute_hasVault kept, free rfl]
      rfl

theorem importSeed_meets (input password confirmation : String) (overwrite : Bool) :
    Meets (wallet.importSeed input password confirmation overwrite)
      (Imports wallet.policy input password confirmation overwrite) := by
  intro machine before
  by_cases free : overwrite = false → machine.vault = none
  · rw [execute_importSeed_of_free kept machine before input password confirmation free]
    change ∃ answer accesses after, execute (wallet.checkPassword _ _ >>= _) _ = _ ∧ _
    simp only [execute_bind, execute_checkPassword]
    cases checked : wallet.policy.check password confirmation with
    | error cause => exact ⟨_, [], _, by simp [Except.mapError], .refused free checked⟩
    | ok analysis =>
        simp only [Except.mapError, execute_mk_pure]
        cases resolved : Seed.resolve input with
        | error cause => exact ⟨_, [], _, by simp, .unresolved free checked resolved⟩
        | ok seed =>
            obtain ⟨answer, accesses, after, ran, stores⟩ :=
              lockAndStore_meets kept seed password machine before
            simp only [ran]
            cases answer with
            | error cause => exact ⟨_, _, _, rfl, .unsealed free checked resolved stores⟩
            | ok _ => exact ⟨_, _, _, rfl, .imported free checked resolved stores⟩
  · obtain ⟨rfl, occupied⟩ := Classical.not_imp.mp free
    obtain ⟨vault, stored⟩ := Option.ne_none_iff_exists'.mp occupied
    refine ⟨_, [], _, ?_, .vaultExists rfl stored⟩
    change execute (wallet.hasVault >>= _) _ = _
    rw [execute_bind, execute_hasVault kept, stored, List.append_nil]
    rfl

theorem forget_meets : Meets wallet.forget Forgets := by
  intro machine before
  refine ⟨_, _, _, ?_, .forgotten⟩
  rw [forget, kept]
  rfl

end

end Wallet

end SeedVault
