/-
What opening the vault proves and what it changes. A vault with a tag is opened by its tag
and left alone. One without a tag is opened by every password; if the address that is given
with the password is the one of the seed, then the vault is given a tag.
-/

import SeedVault.Proofs.Wallet.Sealings

namespace SeedVault

/-- An answer is the given value exactly under a condition, and an error otherwise. -/
inductive AnswersIf {ε α : Type} (condition : Prop) (value : α) : Except ε α → Prop
  | succeeds : condition → AnswersIf condition value (.ok value)
  | fails (cause : ε) : ¬ condition → AnswersIf condition value (.error cause)

namespace AnswersIf

variable {ε α β : Type} {condition : Prop} {value : α} {answer : Except ε α}

theorem map (answers : AnswersIf condition value answer) (change : α → β) :
    AnswersIf condition (change value) (answer.map change) := by
  cases answers with
  | succeeds holds => exact .succeeds holds
  | fails cause absent => exact .fails cause absent

theorem eq_ok_iff (answers : AnswersIf condition value answer) {given : α} :
    answer = .ok given ↔ condition ∧ value = given := by
  cases answers with
  | succeeds holds => rw [Except.ok.injEq, and_iff_right holds]
  | fails cause absent => simp only [reduceCtorEq, absent, false_and]

/-- Under its condition the value is answered. -/
theorem eq_ok (answers : AnswersIf condition value answer) (holds : condition) :
    answer = .ok value :=
  answers.eq_ok_iff.mpr ⟨holds, rfl⟩

end AnswersIf

/-- Two draws of 16 bytes succeed, one after the other. -/
def Machine.DrawsTwice (machine : Machine) (salt iv : Bytes 16) (after : Machine) : Prop :=
  ∃ middle, machine.draw 16 = (some salt, middle) ∧ middle.draw 16 = (some iv, after)

theorem Machine.draw_eq_some_iff {size : Nat} {machine after : Machine} {bytes : Bytes size} :
    machine.draw size = (some bytes, after) ↔
      ∃ rest, machine.entropy = bytes.toList ++ rest ∧ after = { machine with entropy := rest } := by
  rw [draw]
  cases taken : takeBytes? size machine.entropy with
  | none =>
      have short := takeBytes?_eq_none_iff.mp taken
      simp only [Prod.mk.injEq, reduceCtorEq, false_and, false_iff, not_exists, not_and]
      intro rest enough
      rw [enough, List.length_append, Vector.length_toList] at short
      omega
  | some pair =>
      obtain ⟨first, left⟩ := pair
      have enough := takeBytes?_eq_some_iff.mp taken
      simp only [Prod.mk.injEq, Option.some.injEq]
      constructor
      · rintro ⟨rfl, rfl⟩
        exact ⟨left, enough, rfl⟩
      · rintro ⟨rest, split, rfl⟩
        have same := takeBytes?_eq_some_iff.mpr split
        rw [taken, Option.some.injEq, Prod.mk.injEq] at same
        obtain ⟨rfl, rfl⟩ := same
        exact ⟨rfl, rfl⟩

theorem Machine.drawsTwice_iff {machine after : Machine} {salt iv : Bytes 16} :
    machine.DrawsTwice salt iv after ↔
      ∃ rest, machine.entropy = salt.toList ++ (iv.toList ++ rest) ∧
        after = { machine with entropy := rest } := by
  simp only [DrawsTwice, draw_eq_some_iff]
  constructor
  · rintro ⟨_, ⟨left, first, rfl⟩, rest, second, rfl⟩
    exact ⟨rest, first.trans (congrArg _ second), rfl⟩
  · rintro ⟨rest, enough, rfl⟩
    exact ⟨_, ⟨_, enough, rfl⟩, rest, rfl, rfl⟩

theorem Machine.exists_drawsTwice_iff {machine : Machine} :
    (∃ salt iv drawn, machine.DrawsTwice salt iv drawn) ↔ 32 ≤ machine.entropy.length := by
  constructor
  · rintro ⟨salt, iv, drawn, twice⟩
    obtain ⟨rest, enough, _⟩ := drawsTwice_iff.mp twice
    rw [enough, List.length_append, List.length_append, Vector.length_toList,
      Vector.length_toList]
    omega
  · intro enough
    rcases Recorder.short_or_enough 16 machine.entropy with short | ⟨salt, rest, first⟩
    · omega
    · rcases Recorder.short_or_enough 16 rest with short | ⟨iv, left, second⟩
      · rw [first, List.length_append, Vector.length_toList] at enough
        omega
      · exact ⟨salt, iv, _, drawsTwice_iff.mpr ⟨left, second ▸ first, rfl⟩⟩

/-- How a vault with a tag is opened: exactly if the tag and the address, where one is given,
are right. Whatever the answer, nothing is drawn and nothing is changed. -/
structure Outcome.OpensByTag (outcome : Outcome) (machine : Machine) (vault : Vault)
    (password : String) (expected : Option Address) : Prop where
  undrawn : outcome.accesses = []
  unchanged : outcome.machine = machine
  answers : AnswersIf (vault.mac = some (vault.tagUnder password) ∧
      ∀ address ∈ expected, (vault.seedUnder password).address = address)
    (.unlocked ⟨vault.seedUnder password, .tagged⟩) outcome.answer

/-- A vault is given a tag: its seed is sealed again, and from then on the vault opens by
its tag, whether the address is given or not. -/
structure Outcome.Reseals (outcome : Outcome) (machine : Machine) (seed : Seed)
    (password : String) (salt iv : Bytes 16) (drawn : Machine) : Prop where
  draws : machine.DrawsTwice salt iv drawn
  accesses : outcome.accesses =
    [.drew salt.toList, .drew iv.toList, .wrote (Vault.lockWith seed password salt iv)]
  left : outcome.machine = { drawn with vault := some (Vault.lockWith seed password salt iv) }
  authenticated : (Vault.lockWith seed password salt iv).isAuthenticated = true
  reopens (policy : Password.Policy) (challengeWords : Nat) (expected : Option Address) :
    (∀ address ∈ expected, seed.address = address) →
      (Call.mk policy challengeWords (.unlock password expected)).run outcome.machine =
        ⟨.ok (.unlocked ⟨seed, .tagged⟩), [], outcome.machine⟩

/-- How a vault without a tag is opened with an address: exactly if its seed has that address
and can be sealed again, and then it is. -/
structure Outcome.OpensByAddress (outcome : Outcome) (machine : Machine) (seed : Seed)
    (password : String) (address : Address) : Prop where
  answers : AnswersIf (seed.address = address ∧ ∃ salt iv drawn, machine.DrawsTwice salt iv drawn)
    (.unlocked ⟨seed, .addressMatched⟩) outcome.answer
  reseals (reply : Reply) : outcome.answer = .ok reply →
    ∃ salt iv drawn, outcome.Reseals machine seed password salt iv drawn

namespace Wallet

variable {seed : Seed} {password : String} {expected : Option Address} {machine after : Machine}
  {vault : Vault} {answer : Except WalletError UnlockedWallet} {accesses : List Access}

/-- A wallet that is opened has the address that was given. -/
theorem Unlocks.address_eq {unlocked : UnlockedWallet} {address : Address}
    (unlocks : Unlocks password (some address) machine (.ok unlocked) accesses after) :
    unlocked.seed.address = address := by
  cases unlocks with
  | tagged _ _ _ matched => exact (matched address rfl).symm
  | unverified _ _ _ unasked => cases unasked
  | resealed _ _ _ asked => exact (Option.some.inj asked).symm

/-- A seal that is stored has drawn twice. -/
theorem Stores.drawsTwice (stores : Stores seed password machine (.ok ()) accesses after) :
    ∃ salt iv drawn, machine.DrawsTwice salt iv drawn ∧
      accesses =
        [.drew salt.toList, .drew iv.toList, .wrote (Vault.lockWith seed password salt iv)] ∧
      after = { drawn with vault := some (Vault.lockWith seed password salt iv) } := by
  cases stores with
  | stored enough =>
      exact ⟨_, _, _, Machine.drawsTwice_iff.mpr ⟨_, enough, rfl⟩, rfl, rfl⟩

/-- A seal fails only where two draws do not succeed. -/
theorem Stores.not_drawsTwice {cause : WalletError}
    (stores : Stores seed password machine (.error cause) accesses after) :
    ¬ ∃ salt iv drawn, machine.DrawsTwice salt iv drawn := by
  rw [Machine.exists_drawsTwice_iff, not_le]
  exact stores.cause_of_error.2

/-- A vault with a tag is left as it is. It is opened exactly if the tag and the address, where
one is given, are right. -/
theorem Unlocks.of_isAuthenticated
    (unlocks : Unlocks password expected machine answer accesses after)
    (stored : machine.vault = some vault) (authenticated : vault.isAuthenticated = true) :
    accesses = [] ∧ after = machine ∧
      AnswersIf (vault.mac = some (vault.tagUnder password) ∧
          ∀ address ∈ expected, (vault.seedUnder password).address = address)
        ⟨vault.seedUnder password, .tagged⟩ answer := by
  have opens (seed : Seed) : vault.unlock password = .ok seed ↔ _ :=
    vault.unlock_eq_ok_iff_tagUnder authenticated
  cases unlocks with
  | noVault empty => cases stored.symm.trans empty
  | locked found locked =>
      cases stored.symm.trans found
      refine ⟨rfl, rfl, .fails _ ?_⟩
      rintro ⟨tagged, _⟩
      cases locked.symm.trans ((opens _).mpr ⟨tagged, rfl⟩)
  | mismatch found opened asked different =>
      cases stored.symm.trans found
      obtain ⟨_, rfl⟩ := (opens _).mp opened
      refine ⟨rfl, rfl, .fails _ ?_⟩
      rintro ⟨_, matched⟩
      exact different (matched _ asked).symm
  | tagged found _ opened matched =>
      cases stored.symm.trans found
      obtain ⟨tagged, rfl⟩ := (opens _).mp opened
      exact ⟨rfl, rfl, .succeeds ⟨tagged, fun address asked => (matched address asked).symm⟩⟩
  | unverified found legacy | resealed found legacy | unsealed found legacy =>
      cases stored.symm.trans found
      cases authenticated.symm.trans legacy

/-- A vault without a tag is opened under every password if no address is given. -/
theorem Unlocks.of_unasked (unlocks : Unlocks password none machine answer accesses after)
    (stored : machine.vault = some vault) (legacy : vault.isAuthenticated = false) :
    answer = .ok ⟨vault.seedUnder password, .unverified⟩ ∧ accesses = [] ∧ after = machine := by
  have opens := Vault.unlock_of_mac_eq_none (Vault.mac_eq_none_of_legacy legacy) password
  cases unlocks with
  | noVault empty => cases stored.symm.trans empty
  | locked found locked =>
      cases stored.symm.trans found
      cases opens.symm.trans locked
  | mismatch _ _ asked | resealed _ _ _ asked | unsealed _ _ _ asked => cases asked
  | tagged found authenticated =>
      cases stored.symm.trans found
      cases legacy.symm.trans authenticated
  | unverified found _ opened =>
      cases stored.symm.trans found
      cases opens.symm.trans opened
      exact ⟨rfl, rfl, rfl⟩

/-- A vault without a tag is opened with an address exactly if its seed has that address and
can be sealed again, and then it is. -/
theorem Unlocks.of_asked {address : Address}
    (unlocks : Unlocks password (some address) machine answer accesses after)
    (stored : machine.vault = some vault) (legacy : vault.isAuthenticated = false) :
    AnswersIf ((vault.seedUnder password).address = address ∧
        ∃ salt iv drawn, machine.DrawsTwice salt iv drawn)
        ⟨vault.seedUnder password, .addressMatched⟩ answer ∧
      ∀ unlocked, answer = .ok unlocked →
        Stores (vault.seedUnder password) password machine (.ok ()) accesses after := by
  have opens := Vault.unlock_of_mac_eq_none (Vault.mac_eq_none_of_legacy legacy) password
  cases unlocks with
  | noVault empty => cases stored.symm.trans empty
  | locked found locked =>
      cases stored.symm.trans found
      cases opens.symm.trans locked
  | mismatch found opened asked different =>
      cases stored.symm.trans found
      cases opens.symm.trans opened
      cases asked
      refine ⟨.fails _ ?_, by rintro _ ⟨⟩⟩
      rintro ⟨matched, _⟩
      exact different matched.symm
  | tagged found authenticated =>
      cases stored.symm.trans found
      cases legacy.symm.trans authenticated
  | unverified _ _ _ unasked => cases unasked
  | resealed found _ opened asked stores =>
      cases stored.symm.trans found
      cases opens.symm.trans opened
      obtain ⟨salt, iv, drawn, twice, _⟩ := stores.drawsTwice
      exact ⟨.succeeds ⟨(Option.some.inj asked).symm, salt, iv, drawn, twice⟩, fun _ _ => stores⟩
  | unsealed found _ opened _ stores =>
      cases stored.symm.trans found
      cases opens.symm.trans opened
      refine ⟨.fails _ ?_, by rintro _ ⟨⟩⟩
      rintro ⟨_, drawn⟩
      exact stores.not_drawsTwice drawn

end Wallet

theorem Ends.of_unlock {policy : Password.Policy} {challengeWords : Nat} {machine after : Machine}
    {accesses : List Access} {password : String} {expected : Option Address}
    {answer : Except WalletError Reply}
    (ends : Ends policy challengeWords (.unlock password expected) machine answer accesses after) :
    ∃ inner : Except WalletError UnlockedWallet, answer = inner.map .unlocked ∧
      Wallet.Unlocks password expected machine inner accesses after := by
  cases ends with
  | unlock unlocks => exact ⟨_, rfl, unlocks⟩

section unlock

variable (policy : Password.Policy) (challengeWords : Nat) (password : String) {machine : Machine}
  {vault : Vault} (stored : machine.vault = some vault)
include stored

/-- How a call that opens a vault with a tag ends. -/
theorem Call.opensByTag (authenticated : vault.isAuthenticated = true)
    (expected : Option Address) :
    ((Call.mk policy challengeWords (.unlock password expected)).run machine).OpensByTag machine
      vault password expected := by
  have ends := Call.run_ends ⟨policy, challengeWords, .unlock password expected⟩ machine
  obtain ⟨inner, answered, unlocks⟩ := ends.of_unlock
  obtain ⟨undrawn, unchanged, answers⟩ := unlocks.of_isAuthenticated stored authenticated
  exact ⟨undrawn, unchanged, answered ▸ answers.map _⟩

/-- A seal is opened with its tag, by its password and the address of its seed. -/
theorem Call.run_unlock_of_isSeal {seed : Seed} (sealed : vault.IsSeal (seed, password))
    {expected : Option Address} (matched : ∀ address ∈ expected, seed.address = address) :
    (Call.mk policy challengeWords (.unlock password expected)).run machine =
      ⟨.ok (.unlocked ⟨seed, .tagged⟩), [], machine⟩ := by
  obtain ⟨undrawn, unchanged, answers⟩ :=
    opensByTag policy challengeWords password stored sealed.isAuthenticated expected
  obtain ⟨tagged, rfl⟩ :=
    (Vault.unlock_eq_ok_iff_tagUnder sealed.isAuthenticated).mp sealed.unlock
  have answered := answers.eq_ok ⟨tagged, matched⟩
  generalize (Call.mk policy challengeWords (.unlock password expected)).run machine = outcome at *
  obtain ⟨answer, accesses, after⟩ := outcome
  subst undrawn unchanged answered
  rfl

/-- How a call that opens a vault without a tag ends, if no address is given. -/
theorem Call.run_unlock_of_unasked (legacy : vault.isAuthenticated = false) :
    (Call.mk policy challengeWords (.unlock password none)).run machine =
      ⟨.ok (.unlocked ⟨vault.seedUnder password, .unverified⟩), [], machine⟩ := by
  have ends := Call.run_ends ⟨policy, challengeWords, .unlock password none⟩ machine
  obtain ⟨inner, answered, unlocks⟩ := ends.of_unlock
  obtain ⟨rfl, undrawn, unchanged⟩ := unlocks.of_unasked stored legacy
  generalize (Call.mk policy challengeWords (.unlock password none)).run machine = outcome at *
  obtain ⟨answer, accesses, after⟩ := outcome
  subst undrawn unchanged answered
  rfl

/-- How a call that opens a vault without a tag ends, if an address is given. -/
theorem Call.opensByAddress (legacy : vault.isAuthenticated = false) (address : Address) :
    ((Call.mk policy challengeWords (.unlock password (some address))).run machine).OpensByAddress
      machine (vault.seedUnder password) password address := by
  have ends := Call.run_ends ⟨policy, challengeWords, .unlock password (some address)⟩ machine
  obtain ⟨inner, answered, unlocks⟩ := ends.of_unlock
  obtain ⟨answers, resealed⟩ := unlocks.of_asked stored legacy
  refine ⟨answered ▸ answers.map _, ?_⟩
  intro reply replied
  have opened := answers.eq_ok ((answers.map Reply.unlocked).eq_ok_iff.mp (answered ▸ replied)).1
  obtain ⟨salt, iv, drawn, twice, accesses, left⟩ := (resealed _ opened).drawsTwice
  refine ⟨salt, iv, drawn, twice, accesses, left, rfl, ?_⟩
  intro policy challengeWords expected matched
  rw [left]
  exact run_unlock_of_isSeal policy challengeWords password rfl ⟨salt, iv, rfl⟩ matched

/-- What a call that opens the stored vault proves and what it changes. With an address it
answers only a wallet of that address. A vault with a tag is opened by its tag and stays as it
is. One without a tag is opened by every password if no address is given; if one is given, then
only with the address of its seed, and then it is given a tag. So a seal whose tag was taken
away is restored. -/
theorem Call.unlock_exact (expected : Option Address) :
    let call : Call := ⟨policy, challengeWords, .unlock password expected⟩
    let outcome := call.run machine
    execute (call.wallet.perform call.operation) machine = (outcome.answer, outcome.machine) ∧
    (∀ address unlocked, expected = some address →
      outcome.answer = .ok (.unlocked unlocked) →
        unlocked.address = address ∧
          address.publicKey = sha256 (unlocked.seed.bytes.toList ++ [1])) ∧
    (vault.isAuthenticated = true → outcome.OpensByTag machine vault password expected) ∧
    (vault.isAuthenticated = false → ∃ seed, vault.unlock password = .ok seed ∧
      (expected = none → outcome = ⟨.ok (.unlocked ⟨seed, .unverified⟩), [], machine⟩) ∧
      ∀ address, expected = some address →
        outcome.OpensByAddress machine seed password address) ∧
    ∀ seed salt iv, vault = (Vault.lockWith seed password salt iv).withoutMac →
      expected = some seed.address → (∃ salt iv drawn, machine.DrawsTwice salt iv drawn) →
        outcome.answer = .ok (.unlocked ⟨seed, .addressMatched⟩) ∧
          ∃ restored, outcome.machine.vault = some restored ∧
            restored.isAuthenticated = true ∧ restored.unlock password = .ok seed := by
  intro call outcome
  refine ⟨call.execute_eq_run machine, ?address, ?tagged, ?legacy, ?stripped⟩
  case address =>
    rintro address unlocked rfl answered
    obtain ⟨inner, wrapped, unlocks⟩ := (call.run_ends machine).of_unlock
    cases inner with
    | error cause => cases answered.symm.trans wrapped
    | ok opened =>
        cases answered.symm.trans wrapped
        have derived := unlocks.address_eq
        exact ⟨derived, congrArg Address.publicKey derived.symm⟩
  case tagged =>
    intro authenticated
    exact opensByTag policy challengeWords password stored authenticated expected
  case legacy =>
    intro legacy
    refine ⟨_, Vault.unlock_of_mac_eq_none (Vault.mac_eq_none_of_legacy legacy) password, ?_, ?_⟩
    · rintro rfl
      exact run_unlock_of_unasked policy challengeWords password stored legacy
    · rintro address rfl
      exact opensByAddress policy challengeWords password stored legacy address
  case stripped =>
    rintro seed salt iv stripped rfl twice
    have legacy : vault.isAuthenticated = false := congrArg Vault.isAuthenticated stripped
    have yields : vault.seedUnder password = seed :=
      stripped ▸ Vault.seedUnder_lockWith seed password salt iv
    have opens := opensByAddress policy challengeWords password stored legacy seed.address
    rw [yields] at opens
    have answered := opens.answers.eq_ok ⟨rfl, twice⟩
    obtain ⟨fresh, counter, drawn, reseals⟩ := opens.reseals _ answered
    exact ⟨answered, _, congrArg Machine.vault reseals.left, reseals.authenticated,
      Vault.unlock_lockWith seed password fresh counter⟩

end unlock

/-- A seal without its tag is opened with the address of its seed, and gets a tag again. -/
theorem Call.unlock_exact_stripped :
    let seed : Seed := ⟨Bytes.ofNat 32 42⟩
    let vault := (Vault.lockWith seed "password" (Bytes.ofNat 16 1) (Bytes.ofNat 16 2)).withoutMac
    let machine : Machine :=
      { disk := { start := [] }, vault := some vault, entropy := List.replicate 48 7 }
    let call : Call := ⟨{}, 3, .unlock "password" (some seed.address)⟩
    machine.vault = some vault ∧
      (call.run machine).answer = .ok (.unlocked ⟨seed, .addressMatched⟩) ∧
        ∃ restored, (call.run machine).machine.vault = some restored ∧
          restored.isAuthenticated = true ∧ restored.unlock "password" = .ok seed := by
  intro seed vault machine call
  have stored : machine.vault = some vault := rfl
  have isStripped : vault = (Vault.lockWith seed "password" (Bytes.ofNat 16 1)
    (Bytes.ofNat 16 2)).withoutMac := rfl
  have twice : ∃ salt iv drawn, machine.DrawsTwice salt iv drawn :=
    ⟨Vector.replicate 16 7, Vector.replicate 16 7, _, Machine.drawsTwice_iff.mpr ⟨_, rfl, rfl⟩⟩
  -- The password is not stretched here: of the vault only its form matters.
  clear_value machine vault seed
  obtain ⟨_, _, _, _, stripped⟩ := unlock_exact {} 3 "password" stored (some seed.address)
  exact ⟨stored, stripped seed _ _ isStripped rfl twice⟩

end SeedVault
