/-
What the right password is answered, whatever store the vault with its tag is in. The tag proves
the password right; an expected address that is not the one of the seed is nevertheless reported
like a wrong password. Nothing else calls the right password wrong.
-/

import SeedVault.Proofs.Command.Outcome

namespace SeedVault

/-- An answer that tells the user that the password is wrong. -/
def BlamesPassword {α : Type} (answer : Except WalletError α) : Prop :=
  ∃ cause, answer = .error cause ∧ cause.isWrongPassword = true

/-- The address that is expected, if there is one, is not the one of the seed. -/
def Seed.Mistaken (seed : Seed) (expected : Option Address) : Prop :=
  ∃ address ∈ expected, address ≠ seed.address

theorem not_blamesPassword_ok {α : Type} (value : α) : ¬ BlamesPassword (.ok value) := by
  rintro ⟨_, ⟨⟩, _⟩

theorem blamesPassword_error_iff {α : Type} {cause : WalletError} :
    BlamesPassword (.error cause : Except WalletError α) ↔ cause.isWrongPassword = true := by
  constructor
  · rintro ⟨_, ⟨⟩, blames⟩
    exact blames
  · exact fun blames => ⟨cause, rfl, blames⟩

theorem CommandError.ofUnlock_eq_wrongPassword_iff {cause : WalletError} :
    ofUnlock cause = .wrongPassword ↔ cause.isWrongPassword = true := by
  rw [ofUnlock]
  split
  · rename_i noVault
    rw [noVault]
    decide
  · split
    · rename_i blames
      exact iff_of_true rfl blames
    · rename_i blameless
      exact iff_of_false nofun blameless

namespace Wallet

section

variable {σ : Type} [Entropy (StateM σ)] {wallet : Wallet (StateM σ)} {vault : Vault} {seed : Seed}
  {password : String} {state found after : σ} {expected : Option Address}

theorem verified_cases (seed : Seed) (expected : Option Address) :
    ¬ seed.Mistaken expected ∧ verified seed expected = .ok ⟨seed, .tagged⟩ ∨
      ∃ address ∈ expected, address ≠ seed.address ∧
        verified seed expected = .error (.addressMismatch address seed.address) := by
  cases expected with
  | none => exact .inl ⟨nofun, rfl⟩
  | some address =>
      rw [verified]
      split
      · rename_i same
        refine .inl ⟨?_, rfl⟩
        rintro ⟨_, ⟨⟩, different⟩
        exact different same
      · rename_i different
        exact .inr ⟨address, rfl, different, rfl⟩

theorem blamesPassword_verified_iff :
    BlamesPassword (verified seed expected) ↔ seed.Mistaken expected := by
  rcases verified_cases seed expected with ⟨right, answered⟩ | ⟨address, asked, different, answered⟩
  · rw [answered]
    exact iff_of_false (not_blamesPassword_ok _) right
  · rw [answered, blamesPassword_error_iff]
    exact iff_of_true rfl ⟨address, asked, different⟩

/-- A seed that is not locked lacks random bytes. -/
theorem lock_eq_error {cause : Vault.LockError}
    (ran : execute (Vault.lock seed password : ExceptT Vault.LockError (StateM σ) Vault) state =
      (.error cause, after)) : cause = .randomness := by
  have undrawn {state after : σ} {cause : Vault.LockError}
      (stopped : execute (Entropy.drawOr .randomness 16 :
        ExceptT Vault.LockError (StateM σ) (Bytes 16)) state = (.error cause, after)) :
      cause = .randomness := by
    rw [execute_drawOr] at stopped
    split at stopped <;> cases stopped
    rfl
  rcases execute_bind_cases ran with ⟨_, ⟨⟩, stopped⟩ | ⟨salt, middle, _, ran⟩
  · exact undrawn stopped
  rcases execute_bind_cases ran with ⟨_, ⟨⟩, stopped⟩ | ⟨iv, drawn, _, ran⟩
  · exact undrawn stopped
  · cases ran

/-- A seal that fails is not blamed on the password. -/
theorem not_blamesPassword_lockAndStore {answer : Except WalletError Unit}
    (ran : execute (wallet.lockAndStore seed password) state = (answer, after)) :
    ¬ BlamesPassword answer := by
  rcases execute_bind_cases ran with ⟨_, rfl, stopped⟩ | ⟨vault, middle, _, ran⟩
  · obtain ⟨cause, rfl, failed⟩ := execute_adapt_eq_error_iff.mp stopped
    rw [lock_eq_error failed, blamesPassword_error_iff]
    exact Bool.false_ne_true
  · obtain ⟨inner, rfl, _⟩ := execute_adapt_cases ran
    cases inner with
    | ok value => exact not_blamesPassword_ok value
    | error cause =>
        rw [Except.mapError, blamesPassword_error_iff]
        exact Bool.false_ne_true

variable {fresh confirmation : String} {answer : Except WalletError UnlockedWallet}

/-- A change of the password of a seal is blamed on the right password exactly if the new one is
good and the expected address is mistaken, and then the store stays as it is. -/
theorem blamesPassword_changePassword_iff (isSeal : vault.IsSeal (seed, password))
    (stored : execute wallet.store.get state = (.ok (some vault), found))
    (ran : execute (wallet.changePassword password fresh confirmation expected) state =
      (answer, after)) :
    (BlamesPassword answer ↔
        (∃ analysis, wallet.policy.check fresh confirmation = .ok analysis) ∧
          seed.Mistaken expected) ∧
      (BlamesPassword answer → after = found) := by
  have checked : execute (wallet.checkPassword fresh confirmation) state =
      ((wallet.policy.check fresh confirmation).mapError .password, state) := execute_mk_pure _ _
  rw [changePassword, execute_bind, checked] at ran
  cases judged : wallet.policy.check fresh confirmation with
  | error cause =>
      rw [judged] at ran
      cases ran
      have blameless : ¬ BlamesPassword (.error (.password cause) : Except _ UnlockedWallet) := by
        rw [blamesPassword_error_iff]
        exact Bool.false_ne_true
      exact ⟨iff_of_false blameless (by rintro ⟨⟨_, ⟨⟩⟩, _⟩), fun blames => absurd blames blameless⟩
  | ok analysis =>
      rw [judged] at ran
      dsimp only [Except.mapError] at ran
      rw [execute_bind, execute_unlock_of_isSeal isSeal stored] at ran
      rcases verified_cases seed expected with ⟨right, opened⟩ | ⟨address, asked, different, opened⟩
      · rw [opened] at ran
        dsimp only at ran
        have blameless : ¬ BlamesPassword answer := by
          rcases execute_bind_cases ran with ⟨cause, rfl, stopped⟩ | ⟨_, _, _, ran⟩
          · have blameless := not_blamesPassword_lockAndStore stopped
            rwa [blamesPassword_error_iff] at blameless ⊢
          · cases ran
            exact not_blamesPassword_ok _
        exact ⟨iff_of_false blameless fun both => right both.2,
          fun blames => absurd blames blameless⟩
      · rw [opened] at ran
        cases ran
        have blames : BlamesPassword
            (.error (.addressMismatch address seed.address) : Except _ UnlockedWallet) :=
          ⟨_, rfl, rfl⟩
        exact ⟨iff_of_true blames ⟨⟨analysis, rfl⟩, address, asked, different⟩, fun _ => rfl⟩

end

end Wallet

namespace Command

variable {wallet : Wallet (StateM Machine)} {vault : Vault} {seed : Seed} {password : String}
  {machine asked found : Machine} {expected : Option Address}

/-- A prompt for a secret that is answered goes on with the secret. -/
theorem execute_askSecret_bind {α : Type} {prompt secret : String}
    (typed : TypesSecret prompt machine secret asked)
    (next : String → ExceptT CommandError (StateM Machine) α) :
    execute (askSecret prompt >>= next) machine = execute (next secret) asked := by
  have passed : execute (askSecret prompt : ExceptT CommandError (StateM Machine) String) machine =
      (.ok secret, asked) :=
    execute_adapt_eq_ok_iff.mpr (Terminal.execute_askSecret_eq_ok_iff.mpr typed)
  rw [execute_bind, passed]

/-- A command succeeds, unless the expected address is mistaken: then the password is called
wrong. -/
def RefusesMistaken (seed : Seed) (expected : Option Address) (answer : Except CommandError Unit) :
    Prop :=
  (answer = .error .wrongPassword ↔ seed.Mistaken expected) ∧
    (answer = .ok () ↔ ¬ seed.Mistaken expected)

/-- A command that opens a seal and then cannot fail is refused for a mistaken address only. -/
theorem refusesMistaken_of_openWallet
    {next : UnlockedWallet → ExceptT CommandError (StateM Machine) Unit}
    (succeeds : ∀ machine, (execute (next ⟨seed, .tagged⟩) machine).1 = .ok ())
    (isSeal : vault.IsSeal (seed, password))
    (typed : TypesSecret "Vault password:" machine password asked)
    (stored : execute wallet.store.get asked = (.ok (some vault), found)) :
    RefusesMistaken seed expected (execute (openWallet wallet expected >>= next) machine).1 := by
  have opens := Wallet.execute_unlock_of_isSeal isSeal stored expected
  rcases Wallet.verified_cases seed expected with
    ⟨right, opened⟩ | ⟨address, isAsked, different, opened⟩
  · have passed : execute (openWallet wallet expected) machine = (.ok ⟨seed, .tagged⟩, found) := by
      rw [openWallet, execute_askSecret_bind typed, execute_bind, execute_adapt, opens, opened]
      rfl
    rw [execute_bind, passed]
    dsimp only
    rw [succeeds]
    exact ⟨iff_of_false nofun right, iff_of_true rfl right⟩
  · have refused : execute (openWallet wallet expected) machine =
        (.error .wrongPassword, found) := by
      rw [openWallet, execute_askSecret_bind typed, execute_bind, execute_adapt, opens, opened]
      rfl
    have mistaken : seed.Mistaken expected := ⟨address, isAsked, different⟩
    rw [execute_bind, refused]
    exact ⟨iff_of_true rfl mistaken, iff_of_false nofun (not_not.mpr mistaken)⟩

theorem unlock_refusesMistaken (isSeal : vault.IsSeal (seed, password))
    (typed : TypesSecret "Vault password:" machine password asked)
    (stored : execute wallet.store.get asked = (.ok (some vault), found)) :
    RefusesMistaken seed expected (execute (unlock wallet expected) machine).1 :=
  refusesMistaken_of_openWallet (fun machine => congrArg Prod.fst (execute_say _ machine)) isSeal
    typed stored

theorem exportKey_refusesMistaken (isSeal : vault.IsSeal (seed, password))
    (typed : TypesSecret "Vault password:" machine password asked)
    (stored : execute wallet.store.get asked = (.ok (some vault), found)) :
    RefusesMistaken seed expected (execute (exportKey wallet expected) machine).1 := by
  refine refusesMistaken_of_openWallet (fun machine => ?_) isSeal typed stored
  have proved : ¬ Integrity.tagged = .unverified := nofun
  simp only [if_neg proved, execute_bind, execute_say]

/-- The password of a seal is changed at the terminal. -/
theorem changePassword_eq_wrongPassword_iff {fresh confirmation : String}
    (isSeal : vault.IsSeal (seed, password))
    (typed : TypesSecrets changePrompts machine [password, fresh, confirmation] asked)
    (stored : execute wallet.store.get asked = (.ok (some vault), found)) :
    (execute (changePassword wallet expected) machine).1 = .error .wrongPassword ↔
      (∃ analysis, wallet.policy.check fresh confirmation = .ok analysis) ∧
        seed.Mistaken expected := by
  rcases ran : execute (wallet.changePassword password fresh confirmation expected) asked with
    ⟨answer, after⟩
  rw [← (Wallet.blamesPassword_changePassword_iff isSeal stored ran).1]
  rcases typed with _ | ⟨first, _ | ⟨second, _ | ⟨third, _ | _⟩⟩⟩
  rw [changePassword, execute_askSecret_bind first, execute_askSecret_bind second,
    execute_askSecret_bind third, execute_bind, execute_adapt, ran]
  cases answer with
  | ok changed => exact iff_of_false nofun (not_blamesPassword_ok changed)
  | error cause =>
      rw [blamesPassword_error_iff, ← CommandError.ofUnlock_eq_wrongPassword_iff]
      exact ⟨Except.error.inj, congrArg _⟩

end Command

/-- When the right password of a seal is called wrong: exactly if the address that is expected is
not the one of the seed, and the new password, where one is given, is good. This is so in every
store that answers the seal, and at the terminal as well; otherwise the seal is opened. Nothing is
stored when the password is called wrong. -/
theorem Vault.rightPassword_blamed_iff (wallet : Wallet (StateM Machine)) {vault : Vault}
    {seed : Seed} {password : String} (isSeal : vault.IsSeal (seed, password))
    (expected : Option Address) :
    (∀ machine found answer after,
      execute wallet.store.get machine = (.ok (some vault), found) →
      execute (wallet.unlock password expected) machine = (answer, after) →
        (BlamesPassword answer ↔ seed.Mistaken expected) ∧
          (answer = .ok ⟨seed, .tagged⟩ ↔ ¬ seed.Mistaken expected) ∧ after = found) ∧
    (∀ fresh confirmation machine found answer after,
      execute wallet.store.get machine = (.ok (some vault), found) →
      execute (wallet.changePassword password fresh confirmation expected) machine =
        (answer, after) →
        (BlamesPassword answer ↔
          (∃ analysis, wallet.policy.check fresh confirmation = .ok analysis) ∧
            seed.Mistaken expected) ∧
          (BlamesPassword answer → after = found)) ∧
    (∀ machine asked found,
      TypesSecret "Vault password:" machine password asked →
      execute wallet.store.get asked = (.ok (some vault), found) →
        ∀ command ∈ [Command.unlock wallet expected, Command.exportKey wallet expected],
          ((execute command machine).1 = .error .wrongPassword ↔ seed.Mistaken expected) ∧
            ((execute command machine).1 = .ok () ↔ ¬ seed.Mistaken expected)) ∧
    ∀ fresh confirmation machine asked found,
      TypesSecrets Command.changePrompts machine [password, fresh, confirmation] asked →
      execute wallet.store.get asked = (.ok (some vault), found) →
        ((execute (Command.changePassword wallet expected) machine).1 = .error .wrongPassword ↔
          (∃ analysis, wallet.policy.check fresh confirmation = .ok analysis) ∧
            seed.Mistaken expected) := by
  refine ⟨?unlocks, ?changes, ?commands, ?command⟩
  case unlocks =>
    intro machine found answer after stored ran
    cases (Wallet.execute_unlock_of_isSeal isSeal stored expected).symm.trans ran
    refine ⟨Wallet.blamesPassword_verified_iff, ?_, rfl⟩
    rcases Wallet.verified_cases seed expected with
      ⟨right, opened⟩ | ⟨address, isAsked, different, opened⟩
    · exact iff_of_true opened right
    · rw [opened]
      exact iff_of_false nofun (not_not.mpr ⟨address, isAsked, different⟩)
  case changes =>
    intro fresh confirmation machine found answer after stored ran
    exact Wallet.blamesPassword_changePassword_iff isSeal stored ran
  case commands =>
    intro machine asked found typed stored command listed
    rcases List.mem_pair.mp listed with rfl | rfl
    · exact Command.unlock_refusesMistaken isSeal typed stored
    · exact Command.exportKey_refusesMistaken isSeal typed stored
  case command =>
    intro fresh confirmation machine asked found typed stored
    exact Command.changePassword_eq_wrongPassword_iff isSeal typed stored

theorem Seed.mistaken_zero :
    (⟨Bytes.ofNat 32 0⟩ : Seed).Mistaken (some ⟨Bytes.ofNat 32 0⟩) := by
  refine ⟨_, rfl, ?_⟩
  decide +kernel

/-- The right password, with and without a mistaken address. -/
theorem Vault.rightPassword_blamed_iff_zero :
    let seed : Seed := ⟨Bytes.ofNat 32 0⟩
    let vault := lockWith seed "password" (Bytes.ofNat 16 1) (Bytes.ofNat 16 2)
    let machine : Machine := { disk := { start := [] }, vault := some vault }
    let wallet : Wallet (StateM Machine) := .inMemory {} 3
    vault.IsSeal (seed, "password") ∧
      (execute (wallet.unlock "password" none) machine).1 = .ok ⟨seed, .tagged⟩ ∧
      BlamesPassword (execute (wallet.unlock "password" (some ⟨Bytes.ofNat 32 0⟩)) machine).1 := by
  intro seed vault machine wallet
  have isSeal : vault.IsSeal (seed, "password") := ⟨_, _, rfl⟩
  have mistaken : seed.Mistaken (some ⟨Bytes.ofNat 32 0⟩) := Seed.mistaken_zero
  have stored : execute wallet.store.get machine = (.ok (some vault), machine) := rfl
  -- The password is not stretched here: of the vault only its form matters.
  clear_value machine vault seed
  obtain ⟨unlocks, _⟩ := rightPassword_blamed_iff wallet isSeal none
  obtain ⟨mistakes, _⟩ := rightPassword_blamed_iff wallet isSeal (some ⟨Bytes.ofNat 32 0⟩)
  rcases opened : execute (wallet.unlock "password" none) machine with ⟨answer, after⟩
  rcases refused : execute (wallet.unlock "password" (some ⟨Bytes.ofNat 32 0⟩)) machine with
    ⟨refusal, left⟩
  obtain ⟨_, opens, _⟩ := unlocks machine machine answer after stored opened
  obtain ⟨blames, _⟩ := mistakes machine machine refusal left stored refused
  exact ⟨isSeal, opens.mpr nofun, blames.mpr mistaken⟩

/-- The right password is not safe from being called wrong, neither by the wallet nor at the
terminal. -/
theorem Vault.rightPassword_not_blameless :
    let seed : Seed := ⟨Bytes.ofNat 32 0⟩
    let expected : Option Address := some ⟨Bytes.ofNat 32 0⟩
    let vault := lockWith seed "password" (Bytes.ofNat 16 1) (Bytes.ofNat 16 2)
    let machine : Machine :=
      { disk := { start := [] }, vault := some vault, input := inputOf ["password"] }
    let wallet : Wallet (StateM Machine) := .inMemory {} 3
    vault.IsSeal (seed, "password") ∧ machine.vault = some vault ∧
      BlamesPassword (execute (wallet.unlock "password" expected) machine).1 ∧
      ∃ cause, (execute (Command.unlock wallet expected) machine).1 = .error cause ∧
        cause.message = "Incorrect password" := by
  intro seed expected vault machine wallet
  have isSeal : vault.IsSeal (seed, "password") := ⟨_, _, rfl⟩
  have mistaken : seed.Mistaken expected := Seed.mistaken_zero
  have stored : machine.vault = some vault := rfl
  obtain ⟨asked, typed⟩ : ∃ asked, TypesSecret "Vault password:" machine "password" asked :=
    ⟨_, .shown rfl (types_of_isTypeable (by decide) [])⟩
  clear_value machine vault seed expected
  have answered : execute (wallet.unlock "password" expected) machine =
      (Wallet.verified seed expected, machine) :=
    Wallet.execute_unlock_of_isSeal isSeal (Store.execute_get_memory stored) expected
  have refused : Command.RefusesMistaken seed expected
      (execute (Command.unlock wallet expected) machine).1 :=
    Command.unlock_refusesMistaken isSeal typed
      (Store.execute_get_memory (typed.vault_eq.trans stored))
  refine ⟨isSeal, stored, ?_, .wrongPassword, refused.1.mpr mistaken, rfl⟩
  rw [answered]
  exact Wallet.blamesPassword_verified_iff.mpr mistaken

end SeedVault
