/-
What a request does to the stored vault. It is touched where that is intended and nowhere else:
by a command that succeeds, or by a change of the password that has given a tag to the vault
and then runs short of random bytes.
-/

import SeedVault.Program
import SeedVault.Proofs.Command.Create
import SeedVault.Proofs.Command.Outcome

namespace SeedVault

namespace Wallet

variable {policy : Password.Policy} {input current password confirmation : String}
  {overwrite : Bool} {expected : Option Address} {machine after : Machine} {accesses : List Access}

/-- A change of the password that succeeds seals the seed that the vault yields. -/
theorem Changes.of_ok {changed : UnlockedWallet}
    (changes : Changes policy current password confirmation expected machine (.ok changed)
      accesses after) :
    ∃ analysis vault sealed, policy.check password confirmation = .ok analysis ∧
      machine.vault = some vault ∧ vault.unlock current = .ok changed.seed ∧
      after.vault = some sealed ∧ sealed.IsSeal (changed.seed, password) := by
  cases changes with
  | changed checked unlocks _ stores =>
      obtain ⟨vault, stored, _⟩ := unlocks.writes_of_ok
      obtain ⟨sealed, left, isSeal⟩ := stores.left
      exact ⟨_, vault, sealed, checked, stored, (unlocks.left stored).1, left, isSeal⟩

/-- An import that succeeds seals the seed that the input denotes. -/
theorem Imports.of_ok {imported : UnlockedWallet}
    (imports : Imports policy input password confirmation overwrite machine (.ok imported)
      accesses after) :
    (overwrite = false → machine.vault = none) ∧ ∃ analysis sealed,
      policy.check password confirmation = .ok analysis ∧ Seed.resolve input = .ok imported.seed ∧
      after.vault = some sealed ∧ sealed.IsSeal (imported.seed, password) := by
  cases imports with
  | imported free checked resolved stores =>
      obtain ⟨sealed, left, isSeal⟩ := stores.left
      exact ⟨free, _, sealed, checked, resolved, left, isSeal⟩

/-- An import that fails leaves the vault as it is. -/
theorem Imports.of_error {cause : WalletError}
    (imports : Imports policy input password confirmation overwrite machine (.error cause)
      accesses after) : after.vault = machine.vault := by
  cases imports with
  | vaultExists | refused | unresolved => rfl
  | unsealed _ _ _ stores => exact stores.writes_of_error.unchanged

end Wallet

/-- A vault without a tag is opened at the terminal with the address of its seed, and then a
seal of the seed under the same password is stored. -/
structure Upgraded (machine : Machine) (expected : Option Address) (password : String)
    (seed : Seed) (after : Machine) : Prop where
  typed : ∃ asked, TypesSecret "Vault password:" machine password asked
  legacy : ∃ vault, machine.vault = some vault ∧ vault.isAuthenticated = false ∧
    vault.unlock password = .ok seed
  asked : expected = some seed.address
  left : ∃ sealed, after.vault = some sealed ∧ sealed.IsSeal (seed, password)

/-- Lines that are written afterwards do not touch the vault. -/
theorem Upgraded.write {machine after : Machine} {expected : Option Address} {password : String}
    {seed : Seed} (upgraded : Upgraded machine expected password seed after) (text : String) :
    Upgraded machine expected password seed (after.write text) :=
  ⟨upgraded.typed, upgraded.legacy, upgraded.asked, upgraded.left⟩

/-- The password of a vault without a tag is to be changed, with the address of its seed. There
are random bytes for a seal under the current password, and none for another one. -/
structure ChangedHalfway (policy : Password.Policy) (machine : Machine)
    (expected : Option Address) (current : String) (seed : Seed) (after : Machine) : Prop where
  typed : ∃ password confirmation asked analysis,
    TypesSecrets Command.changePrompts machine [current, password, confirmation] asked ∧
      policy.check password confirmation = .ok analysis
  legacy : ∃ vault, machine.vault = some vault ∧ vault.isAuthenticated = false ∧
    vault.unlock current = .ok seed
  asked : expected = some seed.address
  enough : 32 ≤ machine.entropy.length
  short : machine.entropy.length < 64
  left : SealsCurrent current seed after.vault

/-- The ways in which a request touches the stored vault. -/
inductive Request.Touches (policy : Password.Policy) (challengeWords : Nat) (machine : Machine) :
    Request → Except ProgramError Unit → Machine → Prop
  | created {creation : Creation} {after : Machine} :
      creation.Describes policy challengeWords machine after →
        Touches policy challengeWords machine .create (.ok ()) after
  | imported {overwrite : Bool} {line password confirmation : String} {rest : List UInt8}
      {asked after : Machine} {analysis : Password.Analysis} {seed : Seed} {sealed : Vault} :
      Types machine.input line rest →
        TypesSecrets ["New vault password:", "Confirm password:"]
          (machine.exchange ("Recovery phrase, seed hex or secret:" ++ " ") rest)
          [password, confirmation] asked →
        (overwrite = false → machine.vault = none) →
        policy.check password confirmation = .ok analysis → Seed.resolve line = .ok seed →
        after.vault = some sealed → sealed.IsSeal (seed, password) →
          Touches policy challengeWords machine (.importSeed overwrite) (.ok ()) after
  | forgotten {line : String} {rest : List UInt8} {after : Machine} :
      Types machine.input line rest → Text.trim line = "forget" → after.vault = none →
        Touches policy challengeWords machine .forget (.ok ()) after
  | unlocked {text : Option String} {expected : Option Address} {password : String} {seed : Seed}
      {after : Machine} :
      CommandLine.expectedAddress text = .ok expected →
        Upgraded machine expected password seed after →
          Touches policy challengeWords machine (.unlock text) (.ok ()) after
  | exported {text : Option String} {expected : Option Address} {password : String} {seed : Seed}
      {after : Machine} :
      CommandLine.expectedAddress text = .ok expected →
        Upgraded machine expected password seed after →
          Touches policy challengeWords machine (.exportKey text) (.ok ()) after
  | changed {text : Option String} {current password confirmation : String}
      {asked after : Machine} {analysis : Password.Analysis} {vault sealed : Vault} {seed : Seed} :
      TypesSecrets Command.changePrompts machine [current, password, confirmation] asked →
        policy.check password confirmation = .ok analysis → machine.vault = some vault →
        vault.unlock current = .ok seed →
        after.vault = some sealed → sealed.IsSeal (seed, password) →
          Touches policy challengeWords machine (.changePassword text) (.ok ()) after
  | halfway {text : Option String} {expected : Option Address} {current : String} {seed : Seed}
      {after : Machine} :
      CommandLine.expectedAddress text = .ok expected →
        ChangedHalfway policy machine expected current seed after →
          Touches policy challengeWords machine (.changePassword text)
            (.error (.command (.wallet (.lock .randomness)))) after

namespace Command

variable {policy : Password.Policy} {challengeWords : Nat} {expected : Option Address}
  {overwrite : Bool} {machine after : Machine} {answer : Except CommandError Unit}

/-- Opening the vault leaves it as it is, or upgrades it and succeeds. -/
theorem Opens.vault_cases {answer : Except CommandError UnlockedWallet}
    (opens : Opens expected machine answer after) :
    after.vault = machine.vault ∨ ∃ password unlocked,
      answer = .ok unlocked ∧ unlocked.integrity ≠ .unverified ∧
        Upgraded machine expected password unlocked.seed after := by
  cases opens with
  | unasked kept => exact .inl kept
  | refused typed unlocks =>
      exact .inl (unlocks.writes_of_error.unchanged.trans typed.vault_eq)
  | @opened password asked middle unlocked _ typed unlocks =>
      obtain ⟨_, _, _, left, _⟩ := unlocks.writes_of_ok
      by_cases kept : middle.vault = asked.vault
      · exact .inl (kept.trans typed.vault_eq)
      · obtain ⟨address, _, vault, stored, legacy, opened, seals⟩ := unlocks.resealed_of_ne kept
        rw [typed.vault_eq] at stored
        have verified : unlocked.integrity ≠ .unverified := fun unverified =>
          kept (left unverified).unchanged
        exact .inr ⟨password, unlocked, rfl, verified, ⟨asked, typed⟩,
          ⟨vault, stored, legacy, opened⟩, address, seals⟩

theorem execute_openWallet_bind_cases
    {next : UnlockedWallet → ExceptT CommandError (StateM Machine) Unit}
    (ran : execute (openWallet (.inMemory policy challengeWords) expected >>= next) machine =
      (answer, after)) :
    after.vault = machine.vault ∨ ∃ unlocked middle,
      execute (next unlocked) middle = (answer, after) ∧
        (middle.vault = machine.vault ∨ unlocked.integrity ≠ .unverified ∧
          ∃ password, Upgraded machine expected password unlocked.seed middle) := by
  rcases execute_bind_cases ran with ⟨_, rfl, stopped⟩ | ⟨unlocked, middle, passed, ran⟩
  · rcases (openWallet_opens stopped).vault_cases with kept | ⟨_, _, answered, _⟩
    · exact .inl kept
    · cases answered
  · refine .inr ⟨unlocked, middle, ran, ?_⟩
    rcases (openWallet_opens passed).vault_cases with kept | ⟨password, _, same, verified, upgraded⟩
    · exact .inl kept
    · cases same
      exact .inr ⟨verified, password, upgraded⟩

theorem unlock_cases
    (ran : execute (unlock (.inMemory policy challengeWords) expected) machine = (answer, after)) :
    after.vault = machine.vault ∨
      ∃ password seed, answer = .ok () ∧ Upgraded machine expected password seed after := by
  rcases execute_openWallet_bind_cases ran with kept | ⟨unlocked, middle, ran, opened⟩
  · exact .inl kept
  · rw [execute_say] at ran
    cases ran
    rcases opened with kept | ⟨_, password, upgraded⟩
    · exact .inl kept
    · exact .inr ⟨password, _, rfl, upgraded.write _⟩

theorem exportKey_cases
    (ran : execute (exportKey (.inMemory policy challengeWords) expected) machine =
      (answer, after)) :
    after.vault = machine.vault ∨
      ∃ password seed, answer = .ok () ∧ Upgraded machine expected password seed after := by
  rcases execute_openWallet_bind_cases ran with kept | ⟨unlocked, middle, ran, opened⟩
  · exact .inl kept
  · by_cases unverified : unlocked.integrity = .unverified
    · simp only [unverified, if_true, execute_bind, execute_throw] at ran
      cases ran
      rcases opened with kept | ⟨verified, _⟩
      · exact .inl kept
      · exact absurd unverified verified
    · simp only [unverified, if_false, execute_bind, execute_say] at ran
      cases ran
      rcases opened with kept | ⟨_, password, upgraded⟩
      · exact .inl kept
      · exact .inr ⟨password, _, rfl, ((upgraded.write _).write _).write _⟩

/-- What a change of the password does to the vault: nothing, or it succeeds and the seed is
sealed under the new password, or it fails halfway. -/
theorem changePassword_cases
    (ran : execute (changePassword (.inMemory policy challengeWords) expected) machine =
      (answer, after)) :
    after.vault = machine.vault ∨
      (answer = .ok () ∧ ∃ current password confirmation asked analysis vault seed sealed,
        TypesSecrets changePrompts machine [current, password, confirmation] asked ∧
        policy.check password confirmation = .ok analysis ∧ machine.vault = some vault ∧
        vault.unlock current = .ok seed ∧ after.vault = some sealed ∧
        sealed.IsSeal (seed, password)) ∨
      answer = .error (.wallet (.lock .randomness)) ∧
        ∃ current seed, ChangedHalfway policy machine expected current seed after := by
  cases changePassword_changes ran with
  | unasked kept => exact .inl kept
  | @refused current password confirmation asked after cause _ typed changes =>
      rcases changes.of_error with kept | ⟨vault, seed, halfway⟩
      · exact .inl (kept.trans typed.vault_eq)
      · obtain ⟨stored, legacy, opens, ⟨_, _, analysis, operation, checked⟩, enough, short⟩ :=
          id halfway
        cases operation
        obtain ⟨failed, left⟩ := changes.of_failsHalfway halfway
        cases failed
        rw [typed.vault_eq] at stored
        rw [typed.entropy_eq] at enough short
        exact .inr (.inr ⟨rfl, current, seed, ⟨password, confirmation, asked, analysis, typed,
          checked⟩, ⟨vault, stored, legacy, opens⟩, rfl, enough, short, left⟩)
  | @changed current password confirmation asked middle changed _ typed changes =>
      obtain ⟨analysis, vault, sealed, checked, stored, opens, left, isSeal⟩ := changes.of_ok
      rw [typed.vault_eq] at stored
      exact .inr (.inl ⟨rfl, current, password, confirmation, asked, analysis, vault,
        changed.seed, sealed, typed, checked, stored, opens, left, isSeal⟩)

theorem checkPhrase_vault (ran : execute checkPhrase machine = (answer, after)) :
    after.vault = machine.vault := by
  rcases execute_ask_bind_cases ran with ⟨_, _, kept⟩ | ⟨line, rest, _, ran⟩
  · exact kept
  · cases read : Phrase.ofText line with
    | ok phrase =>
        simp only [read, execute_say] at ran
        cases ran
        rfl
    | error cause =>
        simp only [read, execute_throw] at ran
        cases ran
        rfl

theorem checkAddress_vault {text : String}
    (ran : execute (checkAddress text) machine = (answer, after)) :
    after.vault = machine.vault := by
  rw [checkAddress] at ran
  cases read : Address.parse text with
  | ok address =>
      simp only [read, execute_say] at ran
      cases ran
      rfl
  | error cause =>
      simp only [read, execute_throw] at ran
      cases ran
      rfl

end Command

namespace Program

variable {policy : Password.Policy} {challengeWords : Nat} {machine after : Machine}
  {answer : Except ProgramError Unit}

/-- A request with an expected address either fails at once, because the text is no address, or
the command is run with the address. -/
theorem execute_expected_cases {text : Option String}
    {command : Option Address → ExceptT CommandError (StateM Machine) Unit}
    (ran : execute (check (fun (text, cause) => .expected text cause)
        (CommandLine.expectedAddress text) >>= fun expected => (command expected).adapt .command)
      machine = (answer, after)) :
    after = machine ∨ ∃ expected inner, CommandLine.expectedAddress text = .ok expected ∧
      answer = inner.mapError .command ∧
        execute (command expected) machine = (inner, after) := by
  rcases execute_bind_cases ran with ⟨_, _, stopped⟩ | ⟨expected, middle, passed, ran⟩
  · rw [check, execute_mk_pure, Prod.mk.injEq] at stopped
    exact .inl stopped.2.symm
  · rw [check, execute_mk_pure, Prod.mk.injEq, mapError_eq_ok_iff] at passed
    obtain ⟨known, rfl⟩ := passed
    obtain ⟨inner, answered, ran⟩ := execute_adapt_cases ran
    exact .inr ⟨expected, inner, known, answered, ran⟩

/-- Every request leaves the vault as it is or touches it in one of the ways that are intended. -/
theorem serve_cases {request : Request}
    (served : execute (serve (.inMemory policy challengeWords) request) machine = (answer, after)) :
    after.vault = machine.vault ∨ request.Touches policy challengeWords machine answer after := by
  cases request with
  | create =>
      obtain ⟨inner, rfl, ran⟩ := execute_adapt_cases served
      cases inner with
      | error cause => exact .inl (Command.create_reverts_vault machine cause after ran)
      | ok _ =>
          obtain ⟨creation, describes⟩ := Command.create_eq_ok_iff_describes.mp ran
          exact .inr (.created describes)
  | importSeed overwrite =>
      obtain ⟨inner, rfl, ran⟩ := execute_adapt_cases served
      cases Command.importSeed_imports ran with
      | unasked kept => exact .inl kept
      | rejected => exact .inl rfl
      | refused _ _ typed imports => exact .inl (imports.of_error.trans typed.vault_eq)
      | imported line _ typed imports =>
          obtain ⟨free, _, sealed, checked, resolved, left, isSeal⟩ := imports.of_ok
          rw [typed.vault_eq] at free
          exact .inr (.imported line typed free checked resolved left isSeal)
  | unlock text =>
      rcases execute_expected_cases served with rfl | ⟨expected, inner, known, rfl, ran⟩
      · exact .inl rfl
      · rcases Command.unlock_cases ran with kept | ⟨password, seed, rfl, upgraded⟩
        · exact .inl kept
        · exact .inr (.unlocked known upgraded)
  | exportKey text =>
      rcases execute_expected_cases served with rfl | ⟨expected, inner, known, rfl, ran⟩
      · exact .inl rfl
      · rcases Command.exportKey_cases ran with kept | ⟨password, seed, rfl, upgraded⟩
        · exact .inl kept
        · exact .inr (.exported known upgraded)
  | changePassword text =>
      rcases execute_expected_cases served with rfl | ⟨expected, inner, known, rfl, ran⟩
      · exact .inl rfl
      · rcases Command.changePassword_cases ran with kept | ⟨rfl, changed⟩ | ⟨rfl, halfway⟩
        · exact .inl kept
        · obtain ⟨_, _, _, _, _, _, _, _, typed, checked, stored, opens, left, isSeal⟩ := changed
          exact .inr (.changed typed checked stored opens left isSeal)
        · obtain ⟨_, _, halfway⟩ := halfway
          exact .inr (.halfway known halfway)
  | forget =>
      obtain ⟨inner, rfl, ran⟩ := execute_adapt_cases served
      cases Command.forget_forgets ran with
      | nothing => exact .inl rfl
      | unasked kept => exact .inl kept
      | kept _ _ kept => exact .inl kept
      | forgotten typed confirmed empty => exact .inr (.forgotten typed confirmed empty)
  | checkPhrase =>
      obtain ⟨inner, rfl, ran⟩ := execute_adapt_cases served
      exact .inl (Command.checkPhrase_vault ran)
  | checkAddress text =>
      obtain ⟨inner, rfl, ran⟩ := execute_adapt_cases served
      exact .inl (Command.checkAddress_vault ran)

/-- Only the intended requests touch the stored vault, whatever is typed, wherever the input ends
and whatever fails. Those that make, import or change a seal succeed; those that open a vault
without a tag upgrade it; and the vault is deleted only after the confirmation. A request that
fails leaves the vault as it is, but for a change of the password that fails halfway. -/
theorem serve_touches_as_intended {request : Request}
    (served : execute (serve (.inMemory policy challengeWords) request) machine =
      (answer, after)) :
    (after.vault = machine.vault ∨
      request.Touches policy challengeWords machine answer after) ∧
    ∀ cause, answer = .error cause → after.vault = machine.vault ∨
      cause = .command (.wallet (.lock .randomness)) ∧ ∃ text expected current seed,
        request = .changePassword text ∧ CommandLine.expectedAddress text = .ok expected ∧
          ChangedHalfway policy machine expected current seed after := by
  have touched := serve_cases served
  refine ⟨touched, ?_⟩
  intro cause failed
  rcases touched with kept | touches
  · exact .inl kept
  · cases touches with
    | created | imported | forgotten | unlocked | exported | changed => cases failed
    | @halfway text expected current seed _ known halfway =>
        cases failed
        exact .inr ⟨rfl, text, expected, current, seed, rfl, known, halfway⟩

/-- A confirmed deletion empties the store, and another answer leaves it as it is. -/
theorem serve_touches_as_intended_forget :
    let vault : Vault := ⟨Vector.replicate 32 0, Vector.replicate 16 0, Vector.replicate 16 0, none⟩
    let machine (line : String) : Machine :=
      { disk := { start := [] }, vault := some vault, input := inputOf [line] }
    (∃ answer after, execute (serve (.inMemory {} 3) .forget) (machine " forget ") =
        (answer, after) ∧
      after.vault = none ∧ Request.Touches {} 3 (machine " forget ") .forget answer after) ∧
    ∃ cause after, execute (serve (.inMemory {} 3) .forget) (machine "no") =
        (.error cause, after) ∧ after.vault = some vault := by
  intro vault machine
  constructor
  · have empty : (execute (serve (.inMemory {} 3) .forget) (machine " forget ")).2.vault = none := by
      decide +kernel
    have served : execute (serve (.inMemory {} 3) .forget) (machine " forget ") = (_, _) := rfl
    rcases (serve_touches_as_intended served).1 with kept | touches
    · cases empty.symm.trans kept
    · exact ⟨_, _, served, empty, touches⟩
  · have failed : (execute (serve (.inMemory {} 3) .forget) (machine "no")).1 =
        .error (.command .forgetNotConfirmed) := by
      decide +kernel
    have served : execute (serve (.inMemory {} 3) .forget) (machine "no") =
        (.error (.command .forgetNotConfirmed), _) := Prod.ext failed rfl
    rcases (serve_touches_as_intended served).2 _ rfl with kept | ⟨other, _⟩
    · exact ⟨_, _, served, kept⟩
    · cases other

end Program

end SeedVault
