/-
What a call of a wallet writes. Each vault that is written is the seal of a seed under a
password, and both are known from the operation and from the vault that was found.
-/

import SeedVault.Proofs.Vault.Sealing
import SeedVault.Proofs.Wallet.Call
import Mathlib.Data.List.Forall2

namespace SeedVault

/-- The seed and the password that are sealed when a vault is given a tag. -/
def Vault.upgrade (vault : Vault) (password : String) : List (Seed × String) :=
  if vault.isAuthenticated then [] else [(vault.seedUnder password, password)]

theorem Vault.eq_of_mem_upgrade {vault : Vault} {password : String} {pair : Seed × String}
    (member : pair ∈ vault.upgrade password) : pair = (vault.seedUnder password, password) := by
  unfold upgrade at member
  split at member
  · cases member
  · exact List.mem_singleton.mp member

/-- The seeds and passwords that an operation seals, given the vault that it finds. They
are in the order in which it writes; an operation that fails may not come to all of them. -/
def Operation.sealings : Operation → Option Vault → List (Seed × String)
  | .finishCreate pending _, _ => [(Seed.ofPhrase pending.phrase, pending.password)]
  | .importSeed input password _ _, _ =>
      match Seed.resolve input with
      | .ok seed => [(seed, password)]
      | .error _ => []
  | .unlock password _, some vault => vault.upgrade password
  | .changePassword current password _ _, some vault =>
      vault.upgrade current ++ [(vault.seedUnder current, password)]
  | _, _ => []

/-- The password under which an operation that succeeds leaves the wallet, if the operation
chooses one. -/
def Operation.newPassword? : Operation → Option String
  | .finishCreate pending _ => some pending.password
  | .importSeed _ password _ _ => some password
  | .changePassword _ password _ _ => some password
  | _ => none

/-- A vault is the seal of a seed under a password. -/
def Vault.IsSeal (vault : Vault) (sealing : Seed × String) : Prop :=
  ∃ salt iv, vault = lockWith sealing.1 sealing.2 salt iv

theorem Vault.IsSeal.isAuthenticated {vault : Vault} {sealing : Seed × String}
    (sealed : vault.IsSeal sealing) : vault.isAuthenticated = true := by
  obtain ⟨salt, iv, rfl⟩ := sealed
  exact lockWith_isAuthenticated sealing.1 sealing.2 salt iv

/-- A seal opens under its password and yields its seed. -/
theorem Vault.IsSeal.unlock {vault : Vault} {seed : Seed} {password : String}
    (sealed : vault.IsSeal (seed, password)) : vault.unlock password = .ok seed := by
  obtain ⟨salt, iv, rfl⟩ := sealed
  exact unlock_lockWith seed password salt iv

/-- What a vault with a tag answers to the right password. -/
def Wallet.verified (seed : Seed) : Option Address → Except WalletError UnlockedWallet
  | none => .ok ⟨seed, .tagged⟩
  | some address =>
    if address = seed.address then .ok ⟨seed, .tagged⟩
    else .error (.addressMismatch address seed.address)

/-- A seal in the store is opened without a change to the store. -/
theorem Wallet.execute_unlock_of_isSeal {σ : Type} [Entropy (StateM σ)]
    {wallet : Wallet (StateM σ)} {vault : Vault} {seed : Seed} {password : String}
    {state found : σ} (isSeal : vault.IsSeal (seed, password))
    (stored : execute wallet.store.get state = (.ok (some vault), found))
    (expected : Option Address) :
    execute (wallet.unlock password expected) state = (verified seed expected, found) := by
  have got : execute wallet.vault? state = (.ok (some vault), found) := by
    rw [vault?, execute_adapt, stored]
    rfl
  rw [unlock, execute_bind, got]
  dsimp only
  rw [isSeal.unlock, execute_bind]
  change execute (if vault.isAuthenticated = true then _ else _) found = _
  rw [if_pos isSeal.isAuthenticated]
  cases expected with
  | none => rfl
  | some address =>
      change execute (do checkAddress address seed.address; return _) found = _
      rw [checkAddress, verified]
      split <;> rfl

/-- Whether there is a vault is what the store says. -/
theorem Wallet.execute_hasVault_eq {σ : Type} (wallet : Wallet (StateM σ)) (state : σ) :
    execute wallet.hasVault state =
      (((execute wallet.store.get state).1.mapError .store).map Option.isSome,
        (execute wallet.store.get state).2) := by
  rw [hasVault, execute_map, vault?, execute_adapt]

section lockAndStore

variable {σ : Type} [Entropy (StateM σ)] {wallet : Wallet (StateM σ)} {seed : Seed}
  {password : String} {state after : σ}

/-- A vault that is locked is a seal. -/
theorem Vault.isSeal_of_lock {vault : Vault}
    (locked : execute (lock seed password : ExceptT LockError (StateM σ) Vault) state =
      (.ok vault, after)) : vault.IsSeal (seed, password) := by
  obtain ⟨salt, _, _, locked⟩ := execute_bind_eq_ok_iff.mp locked
  obtain ⟨iv, _, _, ⟨⟩⟩ := execute_bind_eq_ok_iff.mp locked
  exact ⟨salt, iv, rfl⟩

/-- A seed is stored as a seal. -/
theorem Wallet.exists_of_lockAndStore_eq_ok
    (ran : execute (wallet.lockAndStore seed password) state = (.ok (), after)) :
    ∃ vault middle, vault.IsSeal (seed, password) ∧
      execute (wallet.store.put vault) middle = (.ok (), after) := by
  obtain ⟨vault, middle, locked, stored⟩ := execute_bind_eq_ok_iff.mp ran
  exact ⟨vault, middle, Vault.isSeal_of_lock (execute_adapt_eq_ok_iff.mp locked),
    execute_adapt_eq_ok_iff.mp stored⟩

/-- If a seed is not stored, then locking it fails or the store does. -/
theorem Wallet.exists_of_lockAndStore_eq_error {problem : WalletError}
    (ran : execute (wallet.lockAndStore seed password) state = (.error problem, after)) :
    (∃ cause, problem = .lock cause) ∨ ∃ cause, problem = .store cause := by
  rcases execute_bind_cases ran with ⟨_, ⟨⟩, failed⟩ | ⟨_, _, _, failed⟩
  · obtain ⟨cause, rfl, _⟩ := execute_adapt_eq_error_iff.mp failed
    exact .inl ⟨cause, rfl⟩
  · obtain ⟨cause, rfl, _⟩ := execute_adapt_eq_error_iff.mp failed
    exact .inr ⟨cause, rfl⟩

end lockAndStore

theorem Store.execute_get_memory {machine : Machine} {vault : Vault}
    (stored : machine.vault = some vault) :
    execute (Store.memory : Store (StateM Machine)).get machine = (.ok (some vault), machine) :=
  congrArg (fun vault => (Except.ok vault, machine)) stored

/-- What accesses do to the vault in memory. Each vault that they write is a seal of the
next seed under the next password. -/
inductive Writes : List (Seed × String) → Option Vault → List Access → Option Vault → Prop
  | nothing {vault : Option Vault} : Writes [] vault [] vault
  | drew {sealings : List (Seed × String)} {vault after : Option Vault} {accesses : List Access}
      (bytes : List UInt8) :
      Writes sealings vault accesses after → Writes sealings vault (.drew bytes :: accesses) after
  | refused {sealings : List (Seed × String)} {vault after : Option Vault}
      {accesses : List Access} (size : Nat) :
      Writes sealings vault accesses after → Writes sealings vault (.refused size :: accesses) after
  | wrote {sealings : List (Seed × String)} {vault after : Option Vault} {accesses : List Access}
      (seed : Seed) (password : String) (salt iv : Bytes 16) :
      Writes sealings (some (Vault.lockWith seed password salt iv)) accesses after →
        Writes ((seed, password) :: sealings) vault
          (.wrote (Vault.lockWith seed password salt iv) :: accesses) after

namespace Writes

variable {sealings more : List (Seed × String)} {before middle after : Option Vault}
  {accesses rest : List Access}

theorem append (writes : Writes sealings before accesses middle)
    (further : Writes more middle rest after) :
    Writes (sealings ++ more) before (accesses ++ rest) after := by
  induction writes with
  | nothing => exact further
  | drew bytes _ ih => exact .drew bytes (ih further)
  | refused size _ ih => exact .refused size (ih further)
  | wrote seed password salt iv _ ih => exact .wrote seed password salt iv (ih further)

/-- Each vault that is written is a seal. -/
theorem areSeals (writes : Writes sealings before accesses after) :
    List.Forall₂ Vault.IsSeal (accesses.filterMap Access.written?) sealings := by
  induction writes with
  | nothing => exact .nil
  | drew | refused => assumption
  | wrote seed password salt iv _ ih => exact .cons ⟨salt, iv, rfl⟩ ih

theorem isAuthenticated (writes : Writes sealings before accesses after) :
    ∀ vault ∈ accesses.filterMap Access.written?, vault.isAuthenticated = true := by
  intro vault member
  obtain ⟨place, inRange, rfl⟩ := List.getElem_of_mem member
  have sealed := writes.areSeals.get inRange (writes.areSeals.length_eq ▸ inRange)
  exact sealed.isAuthenticated

/-- The vault that is left is the seal that was written last, or the one that was there
before. -/
theorem left (writes : Writes sealings before accesses after) :
    match sealings.getLast? with
    | some pair => ∃ vault, after = some vault ∧ vault.IsSeal pair
    | none => after = before := by
  induction writes with
  | nothing => rfl
  | drew | refused => assumption
  | @wrote sealings _ _ _ seed password salt iv _ ih =>
      rw [List.getLast?_cons]
      cases last : sealings.getLast? with
      | none =>
          rw [last] at ih
          exact ⟨_, ih, salt, iv, rfl⟩
      | some pair =>
          rw [last] at ih
          exact ih

/-- Where nothing is sealed, the vault stays as it is. -/
theorem unchanged (writes : Writes [] before accesses after) : after = before :=
  writes.left

end Writes

namespace Wallet

section

variable {machine after : Machine} {accesses : List Access} {cause : WalletError} {seed : Seed}
  {password : String} {expected : Option Address} {unlocked : UnlockedWallet}

/-- The seal takes 32 random bytes. -/
theorem Stores.length_of_ok (stores : Stores seed password machine (.ok ()) accesses after) :
    32 ≤ machine.entropy.length := by
  cases stores with
  | stored enough =>
      rw [enough, List.length_append, List.length_append, Vector.length_toList,
        Vector.length_toList]
      omega

/-- A seal fails only for want of random bytes. -/
theorem Stores.cause_of_error
    (stores : Stores seed password machine (.error cause) accesses after) :
    cause = .lock .randomness ∧ machine.entropy.length < 32 := by
  cases stores with
  | noSalt short => exact ⟨rfl, by omega⟩
  | noCounter enough short =>
      refine ⟨rfl, ?_⟩
      rw [enough, List.length_append, Vector.length_toList]
      omega

/-- Sealing and storing writes one seal. -/
theorem Stores.writes_of_ok (stores : Stores seed password machine (.ok ()) accesses after) :
    Writes [(seed, password)] machine.vault accesses after.vault := by
  cases stores with
  | stored enough => exact .drew _ (.drew _ (.wrote seed password _ _ .nothing))

/-- If the seal fails, then nothing is written. -/
theorem Stores.writes_of_error
    (stores : Stores seed password machine (.error cause) accesses after) :
    Writes [] machine.vault accesses after.vault := by
  cases stores with
  | noSalt short => exact .refused _ .nothing
  | noCounter enough short => exact .drew _ (.refused _ .nothing)

/-- A vault that cannot be opened, or not be given a tag, is left as it is. -/
theorem Unlocks.writes_of_error
    (unlocks : Unlocks password expected machine (.error cause) accesses after) :
    Writes [] machine.vault accesses after.vault := by
  cases unlocks with
  | noVault | locked | mismatch => exact .nothing
  | unsealed _ _ _ _ stores => exact stores.writes_of_error

/-- A vault that is opened and verified has a tag or is given one. -/
theorem Unlocks.writes_of_ok
    (unlocks : Unlocks password expected machine (.ok unlocked) accesses after) :
    ∃ vault, machine.vault = some vault ∧ vault.seedUnder password = unlocked.seed ∧
      (unlocked.integrity = .unverified → Writes [] machine.vault accesses after.vault) ∧
      (unlocked.integrity ≠ .unverified →
        Writes (vault.upgrade password) machine.vault accesses after.vault) := by
  cases unlocks with
  | tagged stored authenticated opened _ =>
      refine ⟨_, stored, (Vault.unlock_eq_ok_iff.mp opened).2, fun _ => .nothing, fun _ => ?_⟩
      rw [Vault.upgrade, if_pos authenticated]
      exact .nothing
  | unverified stored _ opened _ =>
      refine ⟨_, stored, (Vault.unlock_eq_ok_iff.mp opened).2, fun _ => .nothing, ?_⟩
      intro verified
      exact absurd rfl verified
  | resealed stored legacy opened _ stores =>
      have yielded := (Vault.unlock_eq_ok_iff.mp opened).2
      refine ⟨_, stored, yielded, ?_, fun _ => ?_⟩
      · intro unverified
        cases unverified
      · rw [Vault.upgrade, if_neg (by simp [legacy]), yielded]
        exact stores.writes_of_ok

end

end Wallet

/-- Some accesses write seals of the first of the seeds and passwords that are to be sealed,
and the last seed that they seal is the one that is answered, if one is. -/
def Performs (sealings : List (Seed × String)) (before : Option Vault) (accesses : List Access)
    (after : Option Vault) (answered : Option Seed) : Prop :=
  ∃ done rest, sealings = done ++ rest ∧ Writes done before accesses after ∧
    ∀ seed ∈ answered, ∀ pair ∈ done.getLast?, pair.1 = seed

namespace Performs

variable {sealings : List (Seed × String)} {before after : Option Vault} {accesses : List Access}

theorem of_nothing (writes : Writes [] before accesses after) (answered : Option Seed) :
    Performs sealings before accesses after answered := by
  refine ⟨[], sealings, rfl, writes, ?_⟩
  intro _ _ pair last
  cases last

theorem of_all {answered : Option Seed} (writes : Writes sealings before accesses after)
    (last : ∀ seed ∈ answered, ∀ pair ∈ sealings.getLast?, pair.1 = seed) :
    Performs sealings before accesses after answered :=
  ⟨sealings, [], (List.append_nil _).symm, writes, last⟩

theorem of_one {seed : Seed} {password : String}
    (writes : Writes [(seed, password)] before accesses after) :
    Performs [(seed, password)] before accesses after (some seed) := by
  apply of_all writes
  rintro _ ⟨⟩ pair last
  cases last
  rfl

end Performs

/-- The seed of the wallet that is answered, if one is. -/
def UnlockedWallet.seed? : Except WalletError UnlockedWallet → Option Seed
  | .ok wallet => some wallet.seed
  | .error _ => none

namespace Wallet

variable {policy : Password.Policy} {challengeWords : Nat} {pending : PendingWallet}
  {answers : List String} {input current password confirmation : String} {overwrite : Bool}
  {expected : Option Address} {machine after : Machine} {accesses : List Access}
  {answer : Except WalletError UnlockedWallet}

/-- Beginning a new wallet writes nothing. -/
theorem Begins.writes {answer : Except WalletError PendingWallet}
    (begins : Begins policy challengeWords password confirmation machine answer accesses after) :
    Writes [] machine.vault accesses after.vault := by
  cases begins with
  | vaultExists | refused => exact .nothing
  | noPhrase => exact .refused _ .nothing
  | noChallenge => exact .drew _ (.refused _ .nothing)
  | begun => exact .drew _ (.drew _ .nothing)

theorem Finishes.performs (finishes : Finishes pending answers machine answer accesses after) :
    Performs [(Seed.ofPhrase pending.phrase, pending.password)] machine.vault accesses after.vault
      (UnlockedWallet.seed? answer) := by
  cases finishes with
  | unconfirmed => exact .of_nothing .nothing _
  | unsealed _ stores => exact .of_nothing stores.writes_of_error _
  | finished _ stores => exact .of_one stores.writes_of_ok

theorem Imports.performs
    (imports : Imports policy input password confirmation overwrite machine answer accesses after) :
    Performs ((Operation.importSeed input password confirmation overwrite).sealings machine.vault)
      machine.vault accesses after.vault (UnlockedWallet.seed? answer) := by
  cases imports with
  | vaultExists | refused | unresolved => exact .of_nothing .nothing _
  | unsealed _ _ _ stores => exact .of_nothing stores.writes_of_error _
  | imported _ _ resolved stores =>
      rw [Operation.sealings, resolved]
      exact .of_one stores.writes_of_ok

theorem Unlocks.performs (unlocks : Unlocks password expected machine answer accesses after) :
    Performs ((Operation.unlock password expected).sealings machine.vault) machine.vault accesses
      after.vault (UnlockedWallet.seed? answer) := by
  cases answer with
  | error cause => exact .of_nothing unlocks.writes_of_error _
  | ok unlocked =>
      obtain ⟨vault, stored, yielded, left, upgraded⟩ := unlocks.writes_of_ok
      by_cases unverified : unlocked.integrity = .unverified
      · exact .of_nothing (left unverified) _
      · rw [stored] at upgraded ⊢
        refine .of_all (upgraded unverified) ?_
        rintro _ ⟨⟩ pair last
        rw [Vault.eq_of_mem_upgrade (List.mem_of_mem_getLast? last)]
        exact yielded

/-- Changing the password ends with a seal of the seed that the vault yields. -/
theorem Changes.writes_of_ok {changed : UnlockedWallet}
    (changes : Changes policy current password confirmation expected machine (.ok changed)
      accesses after) :
    ∃ vault, machine.vault = some vault ∧ vault.seedUnder current = changed.seed ∧
      Writes (vault.upgrade current ++ [(changed.seed, password)]) machine.vault accesses
        after.vault := by
  cases changes with
  | changed _ unlocks verified stores =>
      obtain ⟨vault, stored, yielded, _, upgraded⟩ := unlocks.writes_of_ok
      exact ⟨vault, stored, yielded, (upgraded verified).append stores.writes_of_ok⟩

theorem Changes.performs
    (changes : Changes policy current password confirmation expected machine answer accesses
      after) :
    Performs ((Operation.changePassword current password confirmation expected).sealings
      machine.vault) machine.vault accesses after.vault (UnlockedWallet.seed? answer) := by
  cases answer with
  | ok changed =>
      obtain ⟨vault, stored, yielded, writes⟩ := changes.writes_of_ok
      rw [stored] at writes ⊢
      rw [Operation.sealings, yielded]
      apply Performs.of_all writes
      rintro _ ⟨⟩ pair last
      rw [List.getLast?_concat] at last
      cases last
      rfl
  | error cause =>
      cases changes with
      | refused => exact .of_nothing .nothing _
      | locked _ unlocks => exact .of_nothing unlocks.writes_of_error _
      | unverified _ unlocks unverified =>
          obtain ⟨_, _, _, left, _⟩ := unlocks.writes_of_ok
          exact .of_nothing (left unverified) _
      | unsealed _ unlocks verified stores =>
          obtain ⟨vault, stored, yielded, _, upgraded⟩ := unlocks.writes_of_ok
          have writes := (upgraded verified).append stores.writes_of_error
          rw [List.append_nil] at writes
          rw [stored] at writes ⊢
          refine ⟨vault.upgrade current, _, rfl, writes, ?_⟩
          rintro _ ⟨⟩

end Wallet

/-- The seed of the wallet that is answered, if one is. -/
def Reply.seed? : Except WalletError Reply → Option Seed
  | .ok (.unlocked wallet) => some wallet.seed
  | _ => none

theorem Reply.seed?_eq_some_iff {answer : Except WalletError Reply} {seed : Seed} :
    Reply.seed? answer = some seed ↔
      ∃ wallet, answer = .ok (.unlocked wallet) ∧ wallet.seed = seed := by
  constructor
  · intro answered
    unfold Reply.seed? at answered
    split at answered
    · exact ⟨_, rfl, Option.some.inj answered⟩
    · cases answered
  · rintro ⟨wallet, rfl, rfl⟩
    rfl

theorem Reply.seed?_map_unlocked (answer : Except WalletError UnlockedWallet) :
    Reply.seed? (answer.map .unlocked) = UnlockedWallet.seed? answer := by
  cases answer <;> rfl

section

variable {policy : Password.Policy} {challengeWords : Nat} {operation : Operation}
  {machine after : Machine} {answer : Except WalletError Reply} {accesses : List Access}

theorem Ends.performs
    (ends : Ends policy challengeWords operation machine answer accesses after)
    (remembered : operation ≠ .forget) :
    Performs (operation.sealings machine.vault) machine.vault accesses after.vault
      (Reply.seed? answer) := by
  cases ends with
  | beginCreate begins => exact .of_nothing begins.writes _
  | finishCreate finishes =>
      rw [Reply.seed?_map_unlocked]
      exact finishes.performs
  | importSeed imports =>
      rw [Reply.seed?_map_unlocked]
      exact imports.performs
  | unlock unlocks =>
      rw [Reply.seed?_map_unlocked]
      exact unlocks.performs
  | changePassword changes =>
      rw [Reply.seed?_map_unlocked]
      exact changes.performs
  | forget => exact absurd rfl remembered

/-- An operation that chooses a password and succeeds has sealed last, under that password,
the seed that it answers. -/
theorem Ends.seals_new {wallet : UnlockedWallet} {password : String}
    (ends : Ends policy challengeWords operation machine answer accesses after)
    (answered : answer = .ok (.unlocked wallet))
    (chosen : operation.newPassword? = some password) :
    ∃ earlier, operation.sealings machine.vault = earlier ++ [(wallet.seed, password)] ∧
      Writes (earlier ++ [(wallet.seed, password)]) machine.vault accesses after.vault := by
  cases ends with
  | beginCreate | unlock | forget => cases chosen
  | finishCreate finishes =>
      cases chosen
      cases finishes with
      | unconfirmed | unsealed => cases answered
      | finished _ stores =>
          have same := Reply.unlocked.inj (Except.ok.inj answered)
          rw [← same]
          exact ⟨[], rfl, stores.writes_of_ok⟩
  | importSeed imports =>
      cases chosen
      cases imports with
      | vaultExists | refused | unresolved | unsealed => cases answered
      | imported _ _ resolved stores =>
          have same := Reply.unlocked.inj (Except.ok.inj answered)
          rw [← same]
          refine ⟨[], ?_, stores.writes_of_ok⟩
          rw [Operation.sealings, resolved]
          rfl
  | @changePassword _ _ _ _ _ _ inner _ changes =>
      cases chosen
      cases inner with
      | error cause => cases answered
      | ok changed =>
          have same := Reply.unlocked.inj (Except.ok.inj answered)
          rw [← same]
          obtain ⟨vault, stored, yielded, writes⟩ := changes.writes_of_ok
          refine ⟨vault.upgrade _, ?_, writes⟩
          rw [stored, Operation.sealings, yielded]

end

/-- Every call but one to forget writes seals of what its operation seals, in that order. -/
theorem Call.run_performs {call : Call} (remembered : call.operation ≠ .forget)
    (machine : Machine) :
    Performs (call.operation.sealings machine.vault) machine.vault (call.run machine).accesses
      (call.run machine).machine.vault (Reply.seed? (call.run machine).answer) :=
  (call.run_ends machine).performs remembered

end SeedVault
