/-
What a call that fails leaves behind. The vault stays as it is, but for one case: a change
of the password may give a tag to a vault without one before it runs short of random bytes.
No failure loses a seed.
-/

import SeedVault.Proofs.Wallet.Replacement

namespace SeedVault

/-- A change of the password fails halfway. It finds a vault without a tag, whose seed has
the expected address, and enough random bytes for a seal under the current password but not
for another one under the new password. -/
structure Operation.FailsHalfway (operation : Operation) (policy : Password.Policy)
    (machine : Machine) (current : String) (vault : Vault) (seed : Seed) : Prop where
  stored : machine.vault = some vault
  legacy : vault.isAuthenticated = false
  opens : vault.unlock current = .ok seed
  asked : ∃ password confirmation analysis,
    operation = .changePassword current password confirmation (some seed.address) ∧
      policy.check password confirmation = .ok analysis
  enough : 32 ≤ machine.entropy.length
  short : machine.entropy.length < 64

namespace Wallet

variable {seed : Seed} {password : String} {expected : Option Address} {cause : WalletError}
  {answer : Except WalletError UnlockedWallet} {machine after : Machine} {accesses : List Access}
  {vault : Vault}

/-- Sealing and storing takes 32 random bytes. -/
theorem Stores.length_left (stores : Stores seed password machine (.ok ()) accesses after) :
    machine.entropy.length = 32 + after.entropy.length := by
  cases stores with
  | stored enough =>
      simp only [enough, List.length_append, Vector.length_toList]
      omega

/-- A vault without a tag, opened with the address of its seed, is given a tag if there are
random bytes for it; if there are not, then nothing changes. -/
theorem Unlocks.of_address (unlocks : Unlocks password (some seed.address) machine answer accesses
      after) (stored : machine.vault = some vault) (legacy : vault.isAuthenticated = false)
    (opens : vault.unlock password = .ok seed) :
    (answer = .ok ⟨seed, .addressMatched⟩ ∧
        machine.entropy.length = 32 + after.entropy.length ∧
        ∃ sealed, after.vault = some sealed ∧ sealed.IsSeal (seed, password)) ∨
      answer = .error (.lock .randomness) ∧ machine.entropy.length < 32 := by
  cases unlocks with
  | noVault empty => cases stored.symm.trans empty
  | locked found locked =>
      cases stored.symm.trans found
      cases opens.symm.trans locked
  | mismatch found opened asked different =>
      cases stored.symm.trans found
      cases opens.symm.trans opened
      exact absurd (Option.some.inj asked).symm different
  | tagged found authenticated =>
      cases stored.symm.trans found
      cases legacy.symm.trans authenticated
  | unverified _ _ _ unasked => cases unasked
  | resealed found _ opened _ stores =>
      cases stored.symm.trans found
      cases opens.symm.trans opened
      exact .inl ⟨rfl, stores.length_left, stores.left⟩
  | unsealed found _ opened _ stores =>
      cases stored.symm.trans found
      cases opens.symm.trans opened
      obtain ⟨rfl, short⟩ := stores.cause_of_error
      exact .inr ⟨rfl, short⟩

/-- A vault that was opened and verified, and is not the one that was there before, has been
given a tag, with the address of its seed as the expected one. -/
theorem Unlocks.resealed_of_ne {unlocked : UnlockedWallet}
    (unlocks : Unlocks password expected machine (.ok unlocked) accesses after)
    (changed : after.vault ≠ machine.vault) :
    expected = some unlocked.seed.address ∧
      machine.entropy.length = 32 + after.entropy.length ∧
      ∃ vault, machine.vault = some vault ∧ vault.isAuthenticated = false ∧
        vault.unlock password = .ok unlocked.seed ∧
        ∃ sealed, after.vault = some sealed ∧ sealed.IsSeal (unlocked.seed, password) := by
  cases unlocks with
  | tagged | unverified => exact absurd rfl changed
  | resealed found legacy opened asked stores =>
      exact ⟨asked, stores.length_left, _, found, legacy, opened, stores.left⟩

end Wallet

/-- The vault that is left is a seal of the seed under the current password. -/
def SealsCurrent (current : String) (seed : Seed) (left : Option Vault) : Prop :=
  ∃ sealed, left = some sealed ∧ sealed.isAuthenticated = true ∧ sealed.unlock current = .ok seed

theorem SealsCurrent.of_isSeal {current : String} {seed : Seed} {left : Option Vault}
    (seals : ∃ sealed, left = some sealed ∧ sealed.IsSeal (seed, current)) :
    SealsCurrent current seed left := by
  obtain ⟨sealed, rfl, isSeal⟩ := seals
  exact ⟨sealed, rfl, isSeal.isAuthenticated, isSeal.unlock⟩

namespace Wallet

variable {policy : Password.Policy} {current password confirmation : String}
  {expected : Option Address} {cause : WalletError} {machine after : Machine}
  {answer : Except WalletError UnlockedWallet} {accesses : List Access}

/-- A change of the password that fails leaves the vault as it is, unless it fails halfway. -/
theorem Changes.of_error
    (changes : Changes policy current password confirmation expected machine (.error cause)
      accesses after) :
    after.vault = machine.vault ∨ ∃ vault seed,
      (Operation.changePassword current password confirmation expected).FailsHalfway policy machine
        current vault seed := by
  cases changes with
  | refused => exact .inl rfl
  | locked _ unlocks => exact .inl unlocks.writes_of_error.unchanged
  | unverified _ unlocks unverified =>
      obtain ⟨_, _, _, left, _⟩ := unlocks.writes_of_ok
      exact .inl (left unverified).unchanged
  | unsealed checked unlocks _ stores =>
      have same := stores.writes_of_error.unchanged
      by_cases kept : after.vault = machine.vault
      · exact .inl kept
      · rw [same] at kept
        obtain ⟨asked, taken, vault, found, legacy, opened, _⟩ := unlocks.resealed_of_ne kept
        obtain ⟨_, short⟩ := stores.cause_of_error
        exact .inr ⟨vault, _, found, legacy, opened,
          ⟨password, confirmation, _, congrArg _ asked, checked⟩, by omega, by omega⟩

/-- A change of the password under the conditions to fail halfway does fail, and it leaves a
seal under the current password. -/
theorem Changes.of_failsHalfway {vault : Vault} {seed : Seed}
    (changes : Changes policy current password confirmation (some seed.address) machine answer
      accesses after)
    (halfway : (Operation.changePassword current password confirmation
      (some seed.address)).FailsHalfway policy machine current vault seed) :
    answer = .error (.lock .randomness) ∧ SealsCurrent current seed after.vault := by
  obtain ⟨stored, legacy, opens, ⟨_, _, analysis, asked, checked⟩, enough, short⟩ := halfway
  cases asked
  cases changes with
  | refused refused => cases checked.symm.trans refused
  | locked _ unlocks =>
      rcases unlocks.of_address stored legacy opens with ⟨answered, _⟩ | ⟨_, few⟩
      · cases answered
      · omega
  | unverified _ unlocks unverified =>
      rcases unlocks.of_address stored legacy opens with ⟨answered, _⟩ | ⟨answered, _⟩
      · cases answered
        cases unverified
      · cases answered
  | unsealed _ unlocks _ stores =>
      rcases unlocks.of_address stored legacy opens with ⟨_, _, seals⟩ | ⟨answered, _⟩
      · rw [stores.writes_of_error.unchanged, stores.cause_of_error.1]
        exact ⟨rfl, .of_isSeal seals⟩
      · cases answered
  | changed _ unlocks _ stores =>
      rcases unlocks.of_address stored legacy opens with ⟨_, taken, _⟩ | ⟨answered, _⟩
      · have := stores.length_left
        omega
      · cases answered

end Wallet

namespace Ends

variable {policy : Password.Policy} {challengeWords : Nat} {operation : Operation}
  {machine after : Machine} {accesses : List Access}

theorem of_changePassword {current password confirmation : String} {expected : Option Address}
    {answer : Except WalletError Reply}
    (ends : Ends policy challengeWords (.changePassword current password confirmation expected)
      machine answer accesses after) :
    ∃ inner : Except WalletError UnlockedWallet, answer = inner.map .unlocked ∧
      Wallet.Changes policy current password confirmation expected machine inner accesses after := by
  cases ends with
  | changePassword changes => exact ⟨_, rfl, changes⟩

/-- A call that fails leaves the vault as it is, unless it fails halfway. -/
theorem of_error {answer : Except WalletError Reply} {cause : WalletError}
    (ends : Ends policy challengeWords operation machine answer accesses after)
    (failed : answer = .error cause) :
    after.vault = machine.vault ∨ ∃ current vault seed,
      operation.FailsHalfway policy machine current vault seed := by
  cases ends with
  | beginCreate begins => exact .inl begins.writes.unchanged
  | finishCreate finishes =>
      cases finishes with
      | unconfirmed => exact .inl rfl
      | unsealed _ stores => exact .inl stores.writes_of_error.unchanged
      | finished => cases failed
  | importSeed imports =>
      cases imports with
      | vaultExists | refused | unresolved => exact .inl rfl
      | unsealed _ _ _ stores => exact .inl stores.writes_of_error.unchanged
      | imported => cases failed
  | @unlock _ _ _ _ inner _ unlocks =>
      cases inner with
      | error _ => exact .inl unlocks.writes_of_error.unchanged
      | ok _ => cases failed
  | @changePassword current _ _ _ _ _ inner _ changes =>
      cases inner with
      | error _ =>
          rcases changes.of_error with same | halfway
          · exact .inl same
          · exact .inr ⟨current, halfway⟩
      | ok _ => cases failed
  | forget => cases failed

end Ends

/-- Under the conditions to fail halfway a call does fail, and it leaves a seal under the
current password. -/
theorem Operation.FailsHalfway.run {call : Call} {machine : Machine} {current : String}
    {vault : Vault} {seed : Seed}
    (halfway : call.operation.FailsHalfway call.policy machine current vault seed) :
    (call.run machine).answer = .error (.lock .randomness) ∧
      SealsCurrent current seed (call.run machine).machine.vault := by
  obtain ⟨policy, challengeWords, operation⟩ := call
  obtain ⟨password, confirmation, analysis, asked, _⟩ := halfway.asked
  cases asked
  obtain ⟨inner, answered, changes⟩ :=
    Ends.of_changePassword (Call.run_ends ⟨policy, challengeWords, _⟩ machine)
  obtain ⟨rfl, seals⟩ := changes.of_failsHalfway halfway
  exact ⟨answered, seals⟩

/-- What a call that fails does to the vault in memory: nothing, unless it is a change of the
password that fails halfway. That one always fails, and leaves a seal of the same seed under
the current password. So whatever seed the vault yielded before under a password, which is
the current one if the call fails halfway, it still yields. -/
theorem Call.failure_keeps_seed (call : Call) {machine after : Machine}
    {answer : Except WalletError Reply}
    (ran : execute (call.wallet.perform call.operation) machine = (answer, after)) :
    (∀ cause, answer = .error cause →
      after.vault = machine.vault ∨
        ∃ current vault seed, call.operation.FailsHalfway call.policy machine current vault seed ∧
          SealsCurrent current seed after.vault) ∧
    (∀ current vault seed, call.operation.FailsHalfway call.policy machine current vault seed →
      answer = .error (.lock .randomness) ∧ SealsCurrent current seed after.vault) ∧
    ∀ cause vault password seed, answer = .error cause → machine.vault = some vault →
      vault.unlock password = .ok seed →
        (∀ current vault seed,
          call.operation.FailsHalfway call.policy machine current vault seed →
            password = current) →
          ∃ kept, after.vault = some kept ∧ kept.unlock password = .ok seed := by
  rw [call.execute_eq_run machine, Prod.mk.injEq] at ran
  obtain ⟨rfl, rfl⟩ := ran
  have failure : ∀ cause, (call.run machine).answer = .error cause →
      (call.run machine).machine.vault = machine.vault ∨
        ∃ current vault seed,
          call.operation.FailsHalfway call.policy machine current vault seed ∧
            SealsCurrent current seed (call.run machine).machine.vault := by
    intro cause failed
    rcases (call.run_ends machine).of_error failed with same | ⟨current, vault, seed, halfway⟩
    · exact .inl same
    · exact .inr ⟨current, vault, seed, halfway, halfway.run.2⟩
  refine ⟨failure, fun _ _ _ halfway => halfway.run, ?kept⟩
  case kept =>
    intro cause vault password seed failed stored opens current
    rcases failure cause failed with same | ⟨_, found, yielded, halfway, seals⟩
    · exact ⟨vault, same.trans stored, opens⟩
    · obtain ⟨sealed, left, _, unlocked⟩ := seals
      cases current _ _ _ halfway
      cases stored.symm.trans halfway.stored
      cases opens.symm.trans halfway.opens
      exact ⟨sealed, left, unlocked⟩

/-- With random bytes for one seal only, a vault without a tag ends up sealed under the
current password. -/
theorem Call.failure_keeps_seed_halfway :
    let legacy : Vault := ⟨Vector.replicate 32 0, Vector.replicate 16 0, Vector.replicate 16 0, none⟩
    let machine : Machine :=
      { disk := { start := [] }, vault := some legacy, entropy := List.replicate 48 7 }
    ∃ seed after, legacy.unlock "password" = .ok seed ∧
      let call : Call :=
        ⟨{}, 3, .changePassword "password" "new password" "new password" (some seed.address)⟩
      execute (call.wallet.perform call.operation) machine =
          (.error (.lock .randomness), after) ∧
        ∃ kept, after.vault = some kept ∧ kept.unlock "password" = .ok seed := by
  intro legacy machine
  obtain ⟨seed, opens⟩ : ∃ seed, legacy.unlock "password" = .ok seed :=
    ⟨_, Vault.unlock_of_mac_eq_none rfl _⟩
  generalize called : Call.mk {} 3
    (.changePassword "password" "new password" "new password" (some seed.address)) = call
  obtain ⟨answer, after, ran⟩ :
      ∃ answer after, execute (call.wallet.perform call.operation) machine = (answer, after) :=
    ⟨_, _, rfl⟩
  have halfway : call.operation.FailsHalfway call.policy machine "password" legacy seed := by
    rw [← called]
    exact ⟨rfl, rfl, opens, ⟨_, _, _, rfl, rfl⟩, by decide, by decide⟩
  obtain ⟨_, fails, keeps⟩ := call.failure_keeps_seed ran
  obtain ⟨rfl, _⟩ := fails _ _ _ halfway
  refine ⟨seed, after, opens, called ▸ ran, keeps _ legacy _ seed rfl rfl opens ?_⟩
  intro current _ _ other
  obtain ⟨_, _, _, asked, _⟩ := other.asked
  rw [← called] at asked
  exact (Operation.changePassword.inj asked).1

end SeedVault
