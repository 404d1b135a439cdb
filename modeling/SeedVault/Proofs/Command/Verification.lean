/-
No seed is sealed again or shown unless it is known to be the right one. A wrong password
yields a seed, too, from a vault without a tag; only the tag of a vault, or the address that is
given with the password, tells the two apart.
-/

import SeedVault.Proofs.Command.Effect
import SeedVault.Proofs.Wallet.Opening

namespace SeedVault

/-- A vault yields a seed under a password, and the seed is known to be the right one: by the
tag of the vault, or by the address that is expected. -/
structure Vault.Verifies (vault : Vault) (password : String) (expected : Option Address)
    (seed : Seed) : Prop where
  yields : vault.unlock password = .ok seed
  matched : ∀ address ∈ expected, seed.address = address
  anchored : vault.mac = some (vault.tagUnder password) ∨ expected = some seed.address

/-- How many random bytes it takes to give a tag to a vault that has none. -/
def Vault.upgradeSize (vault : Vault) : Nat :=
  if vault.isAuthenticated then 0 else 32

namespace Vault.Verifies

variable {vault : Vault} {password : String} {expected : Option Address} {seed : Seed}

theorem iff_of_isAuthenticated (authenticated : vault.isAuthenticated = true) :
    vault.Verifies password expected seed ↔
      (vault.mac = some (vault.tagUnder password) ∧
        ∀ address ∈ expected, (vault.seedUnder password).address = address) ∧
      vault.seedUnder password = seed := by
  constructor
  · rintro ⟨yields, matched, _⟩
    obtain ⟨tagged, rfl⟩ := (unlock_eq_ok_iff_tagUnder authenticated).mp yields
    exact ⟨⟨tagged, matched⟩, rfl⟩
  · rintro ⟨⟨tagged, matched⟩, rfl⟩
    exact ⟨(unlock_eq_ok_iff_tagUnder authenticated).mpr ⟨tagged, rfl⟩, matched, .inl tagged⟩

theorem iff_of_legacy (legacy : vault.isAuthenticated = false) :
    vault.Verifies password expected seed ↔
      expected = some seed.address ∧ vault.seedUnder password = seed := by
  have untagged := mac_eq_none_of_legacy legacy
  have opens := unlock_of_mac_eq_none untagged password
  constructor
  · intro verifies
    rcases verifies.anchored with tagged | asked
    · exact absurd (tagged.symm.trans untagged) (Option.some_ne_none _)
    · exact ⟨asked, Except.ok.inj (opens.symm.trans verifies.yields)⟩
  · rintro ⟨rfl, rfl⟩
    exact ⟨opens, fun _ asked => Option.some.inj asked, .inr rfl⟩

end Vault.Verifies

namespace Wallet

variable {policy : Password.Policy} {current password confirmation : String}
  {expected : Option Address} {machine after : Machine} {vault : Vault}
  {accesses : List Access} {answer : Except WalletError UnlockedWallet}

/-- A vault is opened with a seed that is verified exactly if the seed is known to be the right
one, and there are the random bytes to give the vault a tag. -/
theorem Unlocks.verified_iff (unlocks : Unlocks password expected machine answer accesses after)
    (stored : machine.vault = some vault) {seed : Seed} :
    (∃ integrity, integrity ≠ .unverified ∧ answer = .ok ⟨seed, integrity⟩) ↔
      vault.Verifies password expected seed ∧ vault.upgradeSize ≤ machine.entropy.length := by
  rw [Vault.upgradeSize]
  cases kind : vault.isAuthenticated with
  | true =>
      obtain ⟨_, _, answers⟩ := unlocks.of_isAuthenticated stored kind
      rw [Vault.Verifies.iff_of_isAuthenticated kind, if_pos rfl, and_iff_left (Nat.zero_le _)]
      simp only [answers.eq_ok_iff, UnlockedWallet.mk.injEq]
      constructor
      · rintro ⟨_, _, right, same, _⟩
        exact ⟨right, same⟩
      · rintro ⟨right, same⟩
        exact ⟨.tagged, nofun, right, same, rfl⟩
  | false =>
      rw [Vault.Verifies.iff_of_legacy kind, if_neg Bool.false_ne_true]
      cases expected with
      | none =>
          obtain ⟨rfl, _⟩ := unlocks.of_unasked stored kind
          simp only [Except.ok.injEq, UnlockedWallet.mk.injEq, reduceCtorEq, false_and, iff_false]
          rintro ⟨_, verified, _, rfl⟩
          exact verified rfl
      | some address =>
          obtain ⟨answers, _⟩ := unlocks.of_asked stored kind
          simp only [answers.eq_ok_iff, UnlockedWallet.mk.injEq, Machine.exists_drawsTwice_iff,
            Option.some.injEq]
          constructor
          · rintro ⟨_, _, ⟨matched, enough⟩, rfl, _⟩
            exact ⟨⟨matched.symm, rfl⟩, enough⟩
          · rintro ⟨⟨rfl, rfl⟩, enough⟩
            exact ⟨.addressMatched, nofun, ⟨rfl, enough⟩, rfl, rfl⟩

/-- Opening a vault takes the random bytes for its tag, if it is given one. -/
theorem Unlocks.length_left {unlocked : UnlockedWallet}
    (unlocks : Unlocks password expected machine (.ok unlocked) accesses after)
    (stored : machine.vault = some vault) (verified : unlocked.integrity ≠ .unverified) :
    machine.entropy.length = vault.upgradeSize + after.entropy.length := by
  rw [Vault.upgradeSize]
  cases unlocks with
  | tagged found authenticated =>
      cases stored.symm.trans found
      rw [if_pos authenticated, Nat.zero_add]
  | unverified => exact absurd rfl verified
  | resealed found legacy _ _ stores =>
      cases stored.symm.trans found
      rw [if_neg (ne_true_of_eq_false legacy), stores.length_left]

/-- The password is changed exactly if the new one is good, the seed is known to be the right
one, and there are enough random bytes. -/
theorem Changes.eq_ok_iff
    (changes : Changes policy current password confirmation expected machine answer accesses after)
    (stored : machine.vault = some vault) {changed : UnlockedWallet} :
    answer = .ok changed ↔
      (∃ analysis, policy.check password confirmation = .ok analysis) ∧
        vault.Verifies current expected changed.seed ∧ changed.integrity = .tagged ∧
          vault.upgradeSize + 32 ≤ machine.entropy.length := by
  obtain ⟨seed, integrity⟩ := changed
  constructor
  · rintro rfl
    cases changes with
    | changed checked unlocks verified stores =>
        have right := (unlocks.verified_iff stored).mp ⟨_, verified, rfl⟩
        have taken := unlocks.length_left stored verified
        have more := stores.length_of_ok
        exact ⟨⟨_, checked⟩, right.1, rfl, by omega⟩
  · rintro ⟨⟨analysis, good⟩, verifies, rfl, enough⟩
    have opens {opening : Except WalletError UnlockedWallet} {accesses : List Access}
        {middle : Machine} (unlocks : Unlocks current expected machine opening accesses middle) :
        ∃ integrity, integrity ≠ .unverified ∧ opening = .ok ⟨seed, integrity⟩ :=
      (unlocks.verified_iff stored).mpr ⟨verifies, by omega⟩
    cases changes with
    | refused refused => cases good.symm.trans refused
    | locked _ unlocks =>
        obtain ⟨_, _, opened⟩ := opens unlocks
        cases opened
    | unverified _ unlocks unverified =>
        obtain ⟨_, verified, opened⟩ := opens unlocks
        cases opened
        exact absurd unverified verified
    | unsealed _ unlocks verified stores =>
        have taken := unlocks.length_left stored verified
        have short := stores.cause_of_error.2
        omega
    | changed _ unlocks _ _ =>
        obtain ⟨_, _, opened⟩ := opens unlocks
        cases opened
        rfl

/-- Opening a vault writes nothing on the terminal. -/
theorem Unlocks.output_eq (unlocks : Unlocks password expected machine answer accesses after) :
    after.output = machine.output := by
  cases unlocks with
  | noVault | locked | mismatch | tagged | unverified => rfl
  | resealed _ _ _ _ stores | unsealed _ _ _ _ stores => cases stores <;> rfl

end Wallet

namespace Command

/-- What a prompt for a secret leaves on the terminal: nothing, if secrets are typed at a keyboard
of their own. -/
def prompted (machine : Machine) (prompt : String) : String :=
  if machine.keyboard = .shared then prompt ++ " " else ""

/-- How the address of a seed is written. -/
def spelledAddress (seed : Seed) : String :=
  "k:" ++ Hex.encode (sha256 (seed.bytes.toList ++ [1])).toList

/-- What is written of a seed that is exported. -/
def keySheet (seed : Seed) : String :=
  let publicKey := sha256 (seed.bytes.toList ++ [1])
  "Address:     " ++ spelledAddress seed ++ "\n" ++
    ("Public key:  " ++ Hex.encode publicKey.toList ++ "\n") ++
    ("Private key: " ++ Hex.encode (seed.bytes.toList ++ publicKey.toList) ++ "\n")

/-- The password of the vault is typed, and it is known to be the right one. -/
def TypesVerified (vault : Vault) (expected : Option Address) (machine : Machine) (seed : Seed) :
    Prop :=
  ∃ password asked, TypesSecret "Vault password:" machine password asked ∧
    vault.Verifies password expected seed ∧ vault.upgradeSize ≤ machine.entropy.length

/-- How a key is exported. Nothing but prompts and fixed notices is written, unless the seed is
known to be the right one; the address that is written is the expected one. -/
inductive ExportsKey (vault : Vault) (expected : Option Address) (machine : Machine) :
    Except CommandError Unit → Machine → Prop
  | refused {cause : CommandError} {notice : String} {after : Machine} :
      (∀ seed, ¬ TypesVerified vault expected machine seed) → after.vault = machine.vault →
        notice ∈ ["", integrityReport .unverified] →
          after.output = machine.output ++ (prompted machine "Vault password:" ++ notice) →
            ExportsKey vault expected machine (.error cause) after
  | exported {seed : Seed} {integrity : Integrity} {after : Machine} :
      TypesVerified vault expected machine seed → integrity ≠ .unverified →
        (∀ address ∈ expected, spelledAddress seed = address.text) →
        after.output = machine.output ++
            (prompted machine "Vault password:" ++ (integrityReport integrity ++ keySheet seed)) →
          ExportsKey vault expected machine (.ok ()) after

section

variable {policy : Password.Policy} {challengeWords : Nat} {expected : Option Address}
  {machine after : Machine} {vault : Vault} {answer : Except CommandError Unit}

theorem askSecret_output (prompt : String) (machine : Machine) :
    (execute (Terminal.askSecret prompt : ExceptT TerminalError (StateM Machine) String)
      machine).2.output = machine.output ++ prompted machine prompt := by
  rw [prompted]
  by_cases shared : machine.keyboard = .shared
  · rcases taken : Machine.takeLine machine.input with ⟨line, rest⟩
    rw [Terminal.execute_askSecret_of_shared shared, Terminal.execute_ask taken, if_pos shared]
    rfl
  · rcases read : machine.keyboard.read (prompt ++ " ") with ⟨found, keyboard⟩
    rw [Terminal.execute_askSecret_of_ne shared read, if_neg shared, String.append_empty]

theorem TypesVerified.execute_openWallet {seed : Seed}
    (verified : TypesVerified vault expected machine seed) (stored : machine.vault = some vault)
    (policy : Password.Policy) (challengeWords : Nat) :
    ∃ integrity middle, integrity ≠ .unverified ∧
      execute (openWallet (.inMemory policy challengeWords) expected) machine =
        (.ok ⟨seed, integrity⟩, middle) := by
  obtain ⟨password, asked, typed, verifies, enough⟩ := verified
  rcases ran : execute ((Wallet.inMemory policy challengeWords).unlock password expected) asked
    with ⟨opened, left⟩
  obtain ⟨accesses, unlocks⟩ := Wallet.unlocks_of_execute ran
  rw [← typed.vault_eq] at stored
  rw [← typed.entropy_eq] at enough
  obtain ⟨integrity, right, rfl⟩ := (unlocks.verified_iff stored).mpr ⟨verifies, enough⟩
  have prompts : execute (askSecret "Vault password:" :
      ExceptT CommandError (StateM Machine) String) machine = (.ok password, asked) :=
    execute_adapt_eq_ok_iff.mpr (Terminal.execute_askSecret_eq_ok_iff.mpr typed)
  rw [openWallet, execute_bind, prompts]
  simp only [execute_bind, execute_adapt_eq_ok_iff.mpr ran]
  cases integrity with
  | tagged => exact ⟨_, _, right, rfl⟩
  | addressMatched => exact ⟨_, _, right, rfl⟩
  | unverified => exact absurd rfl right

/-- The address that is expected is the one of the seed. -/
theorem TypesVerified.spelledAddress_eq {seed : Seed} {address : Address}
    (verified : TypesVerified vault expected machine seed) (asked : address ∈ expected) :
    spelledAddress seed = address.text := by
  obtain ⟨_, _, _, verifies, _⟩ := verified
  rw [← verifies.matched address asked]
  rfl

/-- Where the vault is not opened, only the prompt is written. -/
theorem openWallet_output {cause : CommandError}
    (ran : execute (openWallet (.inMemory policy challengeWords) expected) machine =
      (.error cause, after)) :
    after.output = machine.output ++ prompted machine "Vault password:" := by
  have written := askSecret_output "Vault password:" machine
  rcases execute_bind_cases ran with ⟨_, _, stopped⟩ | ⟨password, asked, passed, ran⟩
  · obtain ⟨_, _, failed⟩ := execute_adapt_eq_error_iff.mp stopped
    rw [failed] at written
    exact written
  · rw [execute_adapt_eq_ok_iff.mp passed] at written
    rcases execute_bind_cases ran with ⟨_, _, stopped⟩ | ⟨⟨seed, integrity⟩, middle, _, ran⟩
    · obtain ⟨_, _, failed⟩ := execute_adapt_eq_error_iff.mp stopped
      obtain ⟨accesses, unlocks⟩ := Wallet.unlocks_of_execute failed
      exact unlocks.output_eq.trans written
    · cases integrity <;> cases ran

/-- A vault that is opened is reported, and its seed is known to be the right one unless the
report says otherwise. -/
theorem openWallet_reports {unlocked : UnlockedWallet}
    (ran : execute (openWallet (.inMemory policy challengeWords) expected) machine =
      (.ok unlocked, after)) (stored : machine.vault = some vault) :
    after.output = machine.output ++
        (prompted machine "Vault password:" ++ integrityReport unlocked.integrity) ∧
      (unlocked.integrity ≠ .unverified → TypesVerified vault expected machine unlocked.seed) := by
  cases openWallet_opens ran with
  | @opened password asked middle _ _ typed unlocks =>
      have written := askSecret_output "Vault password:" machine
      rw [Terminal.execute_askSecret_eq_ok_iff.mpr typed, ← unlocks.output_eq] at written
      constructor
      · calc (middle.write (integrityReport unlocked.integrity)).output
          _ = middle.output ++ integrityReport unlocked.integrity := rfl
          _ = _ := by rw [written, String.append_assoc]
      · intro verified
        rw [← typed.vault_eq] at stored
        obtain ⟨verifies, enough⟩ := (unlocks.verified_iff stored).mp ⟨_, verified, rfl⟩
        rw [typed.entropy_eq] at enough
        exact ⟨password, asked, typed, verifies, enough⟩

/-- The lines of an export spell the keys of the seed. -/
theorem execute_keySheet (unlocked : UnlockedWallet) (machine : Machine) :
    execute (do
        say s!"Address:     {unlocked.address.text}"
        say s!"Public key:  {unlocked.keys.publicKeyText}"
        say s!"Private key: {unlocked.keys.privateKeyText}" :
      ExceptT CommandError (StateM Machine) Unit) machine =
      (.ok (), machine.write (keySheet unlocked.seed)) := by
  obtain ⟨publicKey, hashed, derived⟩ : ∃ publicKey,
      sha256 (unlocked.seed.bytes.toList ++ [1]) = publicKey ∧
        unlocked.keys = ⟨publicKey, unlocked.seed.bytes ++ publicKey, ⟨publicKey⟩⟩ := ⟨_, rfl, rfl⟩
  simp only [execute_bind, execute_say, Machine.write_write]
  simp only [UnlockedWallet.address, derived, KeyPair.publicKeyText, KeyPair.privateKeyText,
    Vector.toList_append, keySheet, spelledAddress, hashed]
  rfl

/-- Every export of a key ends in one of these ways. -/
theorem exportKey_exports (stored : machine.vault = some vault)
    (ran : execute (exportKey (.inMemory policy challengeWords) expected) machine =
      (answer, after)) : ExportsKey vault expected machine answer after := by
  have kept (cause : CommandError) (failed : answer = .error cause) :
      after.vault = machine.vault := by
    rcases exportKey_cases ran with kept | ⟨_, _, succeeds, _⟩
    · exact kept
    · cases failed.symm.trans succeeds
  rcases execute_bind_cases ran with ⟨cause, rfl, stopped⟩ | ⟨unlocked, middle, passed, ran⟩
  · refine .refused ?_ (kept cause rfl) List.mem_cons_self ?_
    · intro seed verified
      obtain ⟨_, _, _, opened⟩ := verified.execute_openWallet stored policy challengeWords
      cases stopped.symm.trans opened
    · rw [openWallet_output stopped, String.append_empty]
  · obtain ⟨written, right⟩ := openWallet_reports passed stored
    by_cases unverified : unlocked.integrity = .unverified
    · simp only [unverified, if_true, execute_bind, execute_throw] at ran
      cases ran
      rw [unverified] at written
      refine .refused ?_ (kept _ rfl) (List.mem_cons_of_mem _ List.mem_cons_self) written
      intro seed verified
      obtain ⟨_, _, verifiable, opened⟩ := verified.execute_openWallet stored policy challengeWords
      cases passed.symm.trans opened
      exact verifiable unverified
    · simp only [unverified, if_false] at ran
      obtain ⟨rfl, rfl⟩ := Prod.mk.inj ((execute_keySheet unlocked middle).symm.trans ran)
      have typed := right unverified
      refine .exported typed unverified (fun _ => typed.spelledAddress_eq) ?_
      calc (middle.write (keySheet unlocked.seed)).output
        _ = middle.output ++ keySheet unlocked.seed := rfl
        _ = _ := by rw [written, String.append_assoc, String.append_assoc]

end

end Command

/-- No seed is sealed under a new password, and no key is written, unless the seed is known to be
the right one. The password is changed exactly if the new one is good and the current one is
verified, and then the vault has a tag and yields under the new password the seed that it yielded
under the current one. A key is written under the same condition. Nothing verifies a vault without
a tag if no address is expected, so it stays as it is, whatever is typed. -/
theorem Vault.used_only_if_verified (policy : Password.Policy) (challengeWords : Nat)
    (expected : Option Address) {machine : Machine} {vault : Vault}
    (stored : machine.vault = some vault) :
    (∀ current password confirmation answer after,
      execute ((Wallet.inMemory policy challengeWords).changePassword current password confirmation
        expected) machine = (answer, after) →
      (∀ changed, answer = .ok changed ↔
        (∃ analysis, policy.check password confirmation = .ok analysis) ∧
          vault.Verifies current expected changed.seed ∧ changed.integrity = .tagged ∧
            vault.upgradeSize + 32 ≤ machine.entropy.length) ∧
      ∀ changed, answer = .ok changed → ∃ sealed, after.vault = some sealed ∧
        sealed.isAuthenticated = true ∧ sealed.unlock password = .ok changed.seed ∧
          vault.unlock current = .ok changed.seed) ∧
    (∀ answer after,
      execute (Command.exportKey (.inMemory policy challengeWords) expected) machine =
        (answer, after) → Command.ExportsKey vault expected machine answer after) ∧
    (vault.isAuthenticated = false → expected = none →
      (∀ current password confirmation answer after,
        execute ((Wallet.inMemory policy challengeWords).changePassword current password
          confirmation expected) machine = (answer, after) →
        (∃ cause, answer = .error cause) ∧ after.vault = some vault) ∧
      ∀ answer after,
        execute (Command.exportKey (.inMemory policy challengeWords) expected) machine =
          (answer, after) →
        (∃ cause, answer = .error cause) ∧ after.vault = some vault) := by
  refine ⟨?changes, fun _ _ => Command.exportKey_exports stored, ?legacy⟩
  case changes =>
    intro current password confirmation answer after ran
    obtain ⟨accesses, changes⟩ := Wallet.changes_of_execute ran
    refine ⟨fun _ => changes.eq_ok_iff stored, ?_⟩
    rintro changed rfl
    obtain ⟨_, _, sealed, _, found, opens, left, isSeal⟩ := changes.of_ok
    cases stored.symm.trans found
    exact ⟨sealed, left, isSeal.isAuthenticated, isSeal.unlock, opens⟩
  case legacy =>
    rintro legacy rfl
    have unverified (password : String) (seed : Seed) : ¬ vault.Verifies password none seed := by
      intro verifies
      obtain ⟨asked, _⟩ := (Verifies.iff_of_legacy legacy).mp verifies
      cases asked
    constructor
    · intro current password confirmation answer after ran
      obtain ⟨accesses, changes⟩ := Wallet.changes_of_execute ran
      cases answer with
      | ok changed =>
          have verifies := ((changes.eq_ok_iff stored).mp rfl).2.1
          exact absurd verifies (unverified current changed.seed)
      | error cause =>
          rcases changes.of_error with kept | ⟨_, _, halfway⟩
          · exact ⟨⟨cause, rfl⟩, kept.trans stored⟩
          · obtain ⟨_, _, _, asked, _⟩ := halfway.asked
            cases asked
    · intro answer after ran
      cases Command.exportKey_exports stored ran with
      | refused _ kept => exact ⟨⟨_, rfl⟩, kept.trans stored⟩
      | exported typed =>
          obtain ⟨password, _, _, verifies, _⟩ := typed
          exact absurd verifies (unverified password _)

/-- The password of a seal is changed, with random bytes for the new seal. -/
theorem Vault.used_only_if_verified_sealed :
    let seed : Seed := ⟨Bytes.ofNat 32 42⟩
    let vault := lockWith seed "old password" (Bytes.ofNat 16 1) (Bytes.ofNat 16 2)
    let machine : Machine :=
      { disk := { start := [] }, vault := some vault, entropy := List.replicate 48 7 }
    machine.vault = some vault ∧ ∃ after sealed,
      execute ((Wallet.inMemory {} 3).changePassword "old password" "new password" "new password"
        none) machine = (.ok ⟨seed, .tagged⟩, after) ∧
      after.vault = some sealed ∧ sealed.isAuthenticated = true ∧
        sealed.unlock "new password" = .ok seed := by
  intro seed vault machine
  have stored : machine.vault = some vault := rfl
  have enough : 48 = machine.entropy.length := rfl
  have isSeal : vault.IsSeal (seed, "old password") := ⟨_, _, rfl⟩
  clear_value machine vault seed
  have tagged := (unlock_eq_ok_iff_tagUnder isSeal.isAuthenticated).mp isSeal.unlock
  have verifies : vault.Verifies "old password" none seed := ⟨isSeal.unlock, nofun, .inl tagged.1⟩
  have size : vault.upgradeSize = 0 := if_pos isSeal.isAuthenticated
  rcases ran : execute ((Wallet.inMemory {} 3).changePassword "old password" "new password"
    "new password" none) machine with ⟨answer, after⟩
  obtain ⟨changes, _⟩ := used_only_if_verified {} 3 none stored
  obtain ⟨exactly, reseals⟩ := changes _ _ _ answer after ran
  have succeeds := (exactly ⟨seed, .tagged⟩).mpr ⟨⟨_, rfl⟩, verifies, rfl, by omega⟩
  obtain ⟨sealed, left, authenticated, opens, _⟩ := reseals _ succeeds
  rw [succeeds]
  exact ⟨stored, after, sealed, rfl, left, authenticated, opens⟩

end SeedVault
