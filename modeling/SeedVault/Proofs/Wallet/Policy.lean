/-
The passwords under which a wallet seals. A new password is checked before anything is sealed
under it. The one password that is not checked is that of a vault without a tag, when it is
given one: then a short password is kept.
-/

import SeedVault.Proofs.Wallet.Failure

namespace SeedVault

/-- A new password is long enough and is confirmed. -/
theorem Password.Policy.check_eq_ok_iff {policy : Policy} {password confirmation : String}
    {analysis : Analysis} :
    policy.check password confirmation = .ok analysis ↔
      policy.minLength ≤ password.length ∧ password = confirmation ∧
        analyse password = analysis := by
  by_cases short : password.length < policy.minLength
  · simp [check, checkLength, short]
  · by_cases same : password = confirmation
    · subst same
      simp [check, checkLength, short, Nat.le_of_not_lt short]
    · simp [check, checkLength, short, same]

/-- The seeds and passwords that some accesses seal, out of those that are to be sealed. -/
def sealedBy (accesses : List Access) (sealings : List (Seed × String)) : List (Seed × String) :=
  sealings.take (accesses.filterMap Access.written?).length

/-- The seeds and passwords that a call seals, in the order in which it writes. The passwords
are those that it was given. The vaults do not tell them, because a password that is too short
seals the same as one with NULs at its end. -/
def Call.sealed (call : Call) (machine : Machine) : List (Seed × String) :=
  sealedBy (call.run machine).accesses (call.operation.sealings machine.vault)

namespace Writes

variable {done : List (Seed × String)} {before after : Option Vault} {accesses : List Access}

theorem sealedBy_eq (writes : Writes done before accesses after) (rest : List (Seed × String)) :
    sealedBy accesses (done ++ rest) = done := by
  rw [sealedBy, writes.areSeals.length_eq, List.take_left]

theorem sealedBy_self (writes : Writes done before accesses after) :
    sealedBy accesses done = done := by
  have all := writes.sealedBy_eq []
  rwa [List.append_nil] at all

theorem sealedBy_eq_nil (writes : Writes [] before accesses after)
    (sealings : List (Seed × String)) : sealedBy accesses sealings = [] :=
  writes.sealedBy_eq sealings

end Writes

/-- A call that does not forget writes seals of what it seals. -/
theorem Call.writes_sealed {call : Call} (remembered : call.operation ≠ .forget)
    (machine : Machine) :
    Writes (call.sealed machine) machine.vault (call.run machine).accesses
      (call.run machine).machine.vault := by
  obtain ⟨done, rest, sealings, writes, _⟩ := Call.run_performs remembered machine
  rw [sealed, sealings, writes.sealedBy_eq]
  exact writes

/-- Every vault that a call writes is the seal of what it seals. -/
theorem Call.areSeals_sealed (call : Call) (machine : Machine) :
    List.Forall₂ Vault.IsSeal ((call.run machine).accesses.filterMap Access.written?)
      (call.sealed machine) := by
  by_cases forgets : call.operation = .forget
  · have ends := call.run_ends machine
    rw [forgets] at ends
    obtain ⟨_, cleared, _⟩ := ends.of_forget
    have nothing : (call.run machine).accesses.filterMap Access.written? = [] := by
      simp [cleared, Access.written?]
    simp [sealed, sealedBy, nothing]
  · exact (Call.writes_sealed forgets machine).areSeals

/-- A call that leaves a vault without a tag has sealed nothing. -/
theorem Call.sealed_of_legacy {call : Call} {machine : Machine} {vault : Vault}
    (left : (call.run machine).machine.vault = some vault)
    (legacy : vault.isAuthenticated = false) : call.sealed machine = [] := by
  by_cases forgets : call.operation = .forget
  · have ends := call.run_ends machine
    rw [forgets] at ends
    rw [ends.of_forget.2.2] at left
    cases left
  · have last := (Call.writes_sealed forgets machine).left
    cases sealing : (call.sealed machine).getLast? with
    | none => exact List.getLast?_eq_none_iff.mp sealing
    | some pair =>
        rw [sealing] at last
        obtain ⟨found, same, sealed⟩ := last
        cases left.symm.trans same
        cases legacy.symm.trans sealed.isAuthenticated

/-- A vault without a tag is given one when it is opened. The password yields a seed whose
address is the expected one, and there are random bytes for the seal. -/
structure Upgrades (machine : Machine) (password : String) (expected : Option Address)
    (seed : Seed) : Prop where
  legacy : ∃ vault, machine.vault = some vault ∧ vault.isAuthenticated = false ∧
    vault.unlock password = .ok seed
  asked : expected = some seed.address
  enough : 32 ≤ machine.entropy.length

/-- The operations that give a tag to a vault without one: it is opened, or its password is
changed to another one that is good. -/
inductive Operation.Upgrades (policy : Password.Policy) (machine : Machine) (seed : Seed)
    (password : String) : Operation → Prop
  | unlock {expected : Option Address} :
      SeedVault.Upgrades machine password expected seed →
        Upgrades policy machine seed password (.unlock password expected)
  | changePassword {chosen confirmation : String} {expected : Option Address}
      {analysis : Password.Analysis} :
      policy.check chosen confirmation = .ok analysis →
        SeedVault.Upgrades machine password expected seed →
          Upgrades policy machine seed password
            (.changePassword password chosen confirmation expected)

theorem Operation.Upgrades.legacy {policy : Password.Policy} {machine : Machine} {seed : Seed}
    {password : String} {operation : Operation}
    (upgrades : operation.Upgrades policy machine seed password) :
    ∃ vault, machine.vault = some vault ∧ vault.isAuthenticated = false ∧
      vault.unlock password = .ok seed := by
  cases upgrades with
  | unlock upgrades => exact upgrades.legacy
  | changePassword _ upgrades => exact upgrades.legacy

/-- What an operation may seal, and after which check. -/
inductive Operation.Seals (policy : Password.Policy) (machine : Machine) :
    Operation → List (Seed × String) → Prop
  | nothing {operation : Operation} : Seals policy machine operation []
  | finished {pending : PendingWallet} {answers : List String} :
      Seals policy machine (.finishCreate pending answers)
        [(Seed.ofPhrase pending.phrase, pending.password)]
  | imported {input password confirmation : String} {overwrite : Bool}
      {analysis : Password.Analysis} {seed : Seed} :
      policy.check password confirmation = .ok analysis → Seed.resolve input = .ok seed →
        Seals policy machine (.importSeed input password confirmation overwrite)
          [(seed, password)]
  | upgraded {operation : Operation} {seed : Seed} {password : String} :
      operation.Upgrades policy machine seed password →
        Seals policy machine operation [(seed, password)]
  | changed {current password confirmation : String} {expected : Option Address}
      {analysis : Password.Analysis} {vault : Vault} {seed : Seed} :
      policy.check password confirmation = .ok analysis → machine.vault = some vault →
        vault.isAuthenticated = true → vault.unlock current = .ok seed →
          Seals policy machine (.changePassword current password confirmation expected)
            [(seed, password)]
  | upgradedAndChanged {current password confirmation : String} {expected : Option Address}
      {analysis : Password.Analysis} {seed : Seed} :
      policy.check password confirmation = .ok analysis →
        SeedVault.Upgrades machine current expected seed →
          Seals policy machine (.changePassword current password confirmation expected)
            [(seed, current), (seed, password)]

namespace Wallet

variable {policy : Password.Policy} {current password confirmation : String}
  {expected : Option Address} {machine after : Machine} {accesses : List Access} {seed : Seed}
  {answer : Except WalletError UnlockedWallet}

/-- A vault that is opened and verified has a tag, or is upgraded. -/
theorem Unlocks.upgrade_cases {unlocked : UnlockedWallet} {vault : Vault}
    (unlocks : Unlocks password expected machine (.ok unlocked) accesses after)
    (verified : unlocked.integrity ≠ .unverified) (stored : machine.vault = some vault) :
    vault.unlock password = .ok unlocked.seed ∧
      (vault.isAuthenticated = true ∧ vault.upgrade password = [] ∨
        Upgrades machine password expected unlocked.seed ∧
          vault.upgrade password = [(unlocked.seed, password)]) := by
  cases unlocks with
  | tagged found authenticated opened =>
      cases stored.symm.trans found
      exact ⟨opened, .inl ⟨authenticated, by simp [Vault.upgrade, authenticated]⟩⟩
  | unverified => exact absurd rfl verified
  | resealed found legacy opened asked stores =>
      cases stored.symm.trans found
      have yielded := (Vault.unlock_eq_ok_iff.mp opened).2
      exact ⟨opened, .inr ⟨⟨⟨vault, stored, legacy, opened⟩, asked, stores.length_of_ok⟩,
        by simp [Vault.upgrade, legacy, yielded]⟩⟩

/-- An upgrade is always made when the vault is opened. -/
theorem Unlocks.writes_of_upgrades
    (unlocks : Unlocks password expected machine answer accesses after)
    (upgrades : Upgrades machine password expected seed) :
    answer = .ok ⟨seed, .addressMatched⟩ ∧
      Writes [(seed, password)] machine.vault accesses after.vault := by
  obtain ⟨⟨vault, stored, legacy, opens⟩, rfl, enough⟩ := upgrades
  rcases unlocks.of_address stored legacy opens with ⟨rfl, _⟩ | ⟨_, short⟩
  · obtain ⟨found, same, yielded, _, writes⟩ := unlocks.writes_of_ok
    cases stored.symm.trans same
    have written := writes (by simp)
    rw [Vault.upgrade, if_neg (by simp [legacy]), yielded] at written
    exact ⟨rfl, written⟩
  · omega

theorem Unlocks.seals (unlocks : Unlocks password expected machine answer accesses after) :
    (Operation.unlock password expected).Seals policy machine
      (sealedBy accesses ((Operation.unlock password expected).sealings machine.vault)) := by
  cases answer with
  | error cause =>
      rw [unlocks.writes_of_error.sealedBy_eq_nil]
      exact .nothing
  | ok unlocked =>
      obtain ⟨vault, stored, _, left, writes⟩ := unlocks.writes_of_ok
      by_cases unverified : unlocked.integrity = .unverified
      · rw [(left unverified).sealedBy_eq_nil]
        exact .nothing
      · rw [stored, Operation.sealings, (writes unverified).sealedBy_self]
        obtain ⟨_, ⟨_, none⟩ | ⟨upgrades, one⟩⟩ := unlocks.upgrade_cases unverified stored
        · rw [none]
          exact .nothing
        · rw [one]
          exact .upgraded (.unlock upgrades)

/-- A change of the password seals under the new password, which was checked. Before that it
may upgrade the vault. -/
theorem Changes.seals
    (changes : Changes policy current password confirmation expected machine answer accesses
      after) :
    (Operation.changePassword current password confirmation expected).Seals policy machine
      (sealedBy accesses ((Operation.changePassword current password confirmation
        expected).sealings machine.vault)) := by
  cases changes with
  | refused => exact .nothing
  | locked _ unlocks =>
      rw [unlocks.writes_of_error.sealedBy_eq_nil]
      exact .nothing
  | unverified _ unlocks unverified =>
      obtain ⟨_, _, _, left, _⟩ := unlocks.writes_of_ok
      rw [(left unverified).sealedBy_eq_nil]
      exact .nothing
  | unsealed checked unlocks verified stores =>
      obtain ⟨vault, stored, _, _, writes⟩ := unlocks.writes_of_ok
      have written := (writes verified).append stores.writes_of_error
      rw [List.append_nil] at written
      rw [stored, Operation.sealings, written.sealedBy_eq]
      obtain ⟨_, ⟨_, none⟩ | ⟨upgrades, one⟩⟩ := unlocks.upgrade_cases verified stored
      · rw [none]
        exact .nothing
      · rw [one]
        exact .upgraded (.changePassword checked upgrades)
  | changed checked unlocks verified stores =>
      obtain ⟨vault, stored, yielded, _, writes⟩ := unlocks.writes_of_ok
      have written := (writes verified).append stores.writes_of_ok
      rw [stored, Operation.sealings, yielded, written.sealedBy_self]
      obtain ⟨opened, ⟨authenticated, none⟩ | ⟨upgrades, one⟩⟩ :=
        unlocks.upgrade_cases verified stored
      · rw [none]
        exact .changed checked stored authenticated opened
      · rw [one]
        exact .upgradedAndChanged checked upgrades

/-- A change of the password that upgrades the vault has sealed under the current password. -/
theorem Changes.mem_sealedBy {analysis : Password.Analysis}
    (changes : Changes policy current password confirmation expected machine answer accesses after)
    (checked : policy.check password confirmation = .ok analysis)
    (upgrades : Upgrades machine current expected seed) :
    (seed, current) ∈ sealedBy accesses
      ((Operation.changePassword current password confirmation expected).sealings
        machine.vault) := by
  obtain ⟨vault, stored, legacy, opens⟩ := upgrades.legacy
  have yields : vault.seedUnder current = seed := (Vault.unlock_eq_ok_iff.mp opens).2
  have sealings :
      (Operation.changePassword current password confirmation expected).sealings machine.vault =
        [(seed, current)] ++ [(seed, password)] := by
    simp [stored, Operation.sealings, Vault.upgrade, legacy, yields]
  rw [sealings]
  cases changes with
  | refused refused => cases checked.symm.trans refused
  | locked _ unlocks => cases (unlocks.writes_of_upgrades upgrades).1
  | unverified _ unlocks unverified =>
      obtain ⟨answered, _⟩ := unlocks.writes_of_upgrades upgrades
      cases answered
      cases unverified
  | unsealed _ unlocks _ stores =>
      obtain ⟨_, writes⟩ := unlocks.writes_of_upgrades upgrades
      have written := writes.append stores.writes_of_error
      rw [List.append_nil] at written
      rw [written.sealedBy_eq]
      exact List.mem_singleton_self _
  | changed _ unlocks _ stores =>
      obtain ⟨answered, writes⟩ := unlocks.writes_of_upgrades upgrades
      cases answered
      rw [(writes.append stores.writes_of_ok).sealedBy_self]
      exact List.mem_cons_self

end Wallet

namespace Ends

variable {policy : Password.Policy} {challengeWords : Nat} {operation : Operation}
  {machine after : Machine} {answer : Except WalletError Reply} {accesses : List Access}

/-- Whatever a call seals, it seals after the check of its operation. -/
theorem seals (ends : Ends policy challengeWords operation machine answer accesses after) :
    operation.Seals policy machine (sealedBy accesses (operation.sealings machine.vault)) := by
  cases ends with
  | beginCreate begins =>
      rw [begins.writes.sealedBy_eq_nil]
      exact .nothing
  | forget => exact .nothing
  | finishCreate finishes =>
      cases finishes with
      | unconfirmed => exact .nothing
      | unsealed _ stores =>
          rw [stores.writes_of_error.sealedBy_eq_nil]
          exact .nothing
      | finished _ stores =>
          rw [Operation.sealings, stores.writes_of_ok.sealedBy_self]
          exact .finished
  | importSeed imports =>
      cases imports with
      | vaultExists | refused | unresolved => exact .nothing
      | unsealed _ _ _ stores =>
          rw [stores.writes_of_error.sealedBy_eq_nil]
          exact .nothing
      | imported _ checked resolved stores =>
          rw [Operation.sealings, resolved, stores.writes_of_ok.sealedBy_self]
          exact .imported checked resolved
  | unlock unlocks => exact unlocks.seals
  | changePassword changes => exact changes.seals

/-- An upgrade seals under the password of the vault, whether or not that password is good. -/
theorem mem_sealedBy (ends : Ends policy challengeWords operation machine answer accesses after)
    {seed : Seed} {password : String}
    (upgrades : operation.Upgrades policy machine seed password) :
    (seed, password) ∈ sealedBy accesses (operation.sealings machine.vault) := by
  cases upgrades with
  | unlock upgrades =>
      cases ends with
      | unlock unlocks =>
          obtain ⟨vault, stored, legacy, opens⟩ := upgrades.legacy
          have yields : vault.seedUnder password = seed := (Vault.unlock_eq_ok_iff.mp opens).2
          have written := (unlocks.writes_of_upgrades upgrades).2.sealedBy_self
          simp [stored, Operation.sealings, Vault.upgrade, legacy, yields, written]
  | changePassword checked upgrades =>
      cases ends with
      | changePassword changes => exact changes.mem_sealedBy checked upgrades

/-- A pending wallet that is handed out has a password that was checked. -/
theorem pending_checked
    (ends : Ends policy challengeWords operation machine answer accesses after)
    {pending : PendingWallet} (answered : Reply.pending? answer = some pending) :
    policy.minLength ≤ pending.password.length := by
  cases ends with
  | beginCreate begins =>
      cases begins with
      | begun _ checked _ =>
          cases answered
          exact (Password.Policy.check_eq_ok_iff.mp checked).1
      | vaultExists | refused | noPhrase | noChallenge => cases answered
  | @finishCreate _ _ _ _ inner | @importSeed _ _ _ _ _ _ inner | @unlock _ _ _ _ inner
  | @changePassword _ _ _ _ _ _ inner => cases inner <;> cases answered
  | forget => cases answered

end Ends

theorem Call.mem_sealed {call : Call} {machine : Machine} {seed : Seed} {password : String}
    (upgrades : call.operation.Upgrades call.policy machine seed password) :
    (seed, password) ∈ call.sealed machine :=
  (call.run_ends machine).mem_sealedBy upgrades

/-- A call that a wallet with the policy can make: a new wallet is finished only after its
pending wallet was handed out. -/
structure Session.Allows (session : Session) (policy : Password.Policy) (call : Call) : Prop where
  policy : call.policy = policy
  begun : ∀ pending answers, call.operation = .finishCreate pending answers →
    pending ∈ session.pendings

/-- The runs of a wallet with a policy from a machine, with the seeds and passwords that were
sealed so far. -/
inductive Session.Reached (policy : Password.Policy) (machine : Machine) :
    List (Seed × String) → Session → Prop
  | start : Reached policy machine [] ⟨machine, [], [], none⟩
  | entropy {sealed : List (Seed × String)} {session : Session} (tape : List UInt8) :
      Reached policy machine sealed session →
        Reached policy machine sealed (session.step (.entropy tape))
  | call {sealed : List (Seed × String)} {session : Session} {call : Call} :
      Reached policy machine sealed session → session.Allows policy call →
        Reached policy machine (sealed ++ call.sealed session.machine)
          (session.step (.call call))

namespace Session

/-- What holds of every run of a wallet with a policy. -/
structure Checked (policy : Password.Policy) (machine : Machine) (sealed : List (Seed × String))
    (session : Session) : Prop where
  areSeals : List.Forall₂ Vault.IsSeal session.written sealed
  begun : ∀ pending ∈ session.pendings, policy.minLength ≤ pending.password.length
  /-- A vault without a tag is the one from the start, and then nothing is sealed yet. -/
  untouched : ∀ vault, session.machine.vault = some vault → vault.isAuthenticated = false →
    machine.vault = some vault ∧ sealed = []
  tail : ∀ pair ∈ sealed.tail, policy.minLength ≤ pair.2.length
  head : ∀ pair ∈ sealed.head?, policy.minLength ≤ pair.2.length ∨
    ∃ vault, machine.vault = some vault ∧ vault.isAuthenticated = false ∧
      vault.unlock pair.2 = .ok pair.1

variable {policy : Password.Policy} {machine : Machine} {sealed : List (Seed × String)}
  {session : Session} {call : Call}

theorem Checked.seals (checked : session.Checked policy machine sealed)
    (allows : session.Allows policy call) :
    (∀ pair ∈ call.sealed session.machine, policy.minLength ≤ pair.2.length ∨
      call.operation.Upgrades policy session.machine pair.1 pair.2) ∧
    ∀ pair ∈ (call.sealed session.machine).tail, policy.minLength ≤ pair.2.length := by
  have ends := call.run_ends session.machine
  rw [allows.policy] at ends
  have seals := ends.seals
  have begun := fun pending answers finishes =>
    checked.begun pending (allows.begun pending answers finishes)
  change call.operation.Seals policy session.machine (call.sealed session.machine) at seals
  generalize call.operation = operation, call.sealed session.machine = pairs at seals begun ⊢
  have good {password confirmation : String} {analysis : Password.Analysis}
      (accepted : policy.check password confirmation = .ok analysis) :
      policy.minLength ≤ password.length :=
    (Password.Policy.check_eq_ok_iff.mp accepted).1
  cases seals with
  | nothing => simp
  | finished => simp [begun _ _ rfl]
  | imported accepted => simp [good accepted]
  | upgraded upgrades => simp [upgrades]
  | changed accepted => simp [good accepted]
  | upgradedAndChanged accepted upgrades =>
      have upgrade := Operation.Upgrades.changePassword accepted upgrades
      simp [good accepted, upgrade]

theorem Checked.step_entropy (checked : session.Checked policy machine sealed)
    (tape : List UInt8) : (session.step (.entropy tape)).Checked policy machine sealed :=
  ⟨checked.areSeals, checked.begun, checked.untouched, checked.tail, checked.head⟩

theorem Checked.step_call (checked : session.Checked policy machine sealed)
    (allows : session.Allows policy call) :
    (session.step (.call call)).Checked policy machine (sealed ++ call.sealed session.machine) where
  areSeals := List.rel_append checked.areSeals (call.areSeals_sealed session.machine)
  begun := by
    intro pending member
    rcases List.mem_append.mp member with earlier | now
    · exact checked.begun pending earlier
    · have ends := call.run_ends session.machine
      rw [allows.policy] at ends
      exact ends.pending_checked (Option.mem_toList.mp now)
  untouched := by
    intro vault left legacy
    have stored := call.vault_of_legacy left legacy
    obtain ⟨start, nothing⟩ := checked.untouched vault stored legacy
    rw [nothing, Call.sealed_of_legacy left legacy]
    exact ⟨start, rfl⟩
  tail := by
    intro pair member
    cases sealed with
    | nil => exact (checked.seals allows).2 pair member
    | cons first rest =>
        rcases List.mem_append.mp member with earlier | now
        · exact checked.tail pair earlier
        · rcases (checked.seals allows).1 pair now with good | upgrades
          · exact good
          · obtain ⟨vault, stored, legacy, _⟩ := upgrades.legacy
            cases (checked.untouched vault stored legacy).2
  head := by
    intro pair member
    cases sealed with
    | nil =>
        rcases (checked.seals allows).1 pair (List.mem_of_mem_head? member) with good | upgrades
        · exact .inl good
        · obtain ⟨vault, stored, legacy, opens⟩ := upgrades.legacy
          exact .inr ⟨vault, (checked.untouched vault stored legacy).1, legacy, opens⟩
    | cons first rest => exact checked.head pair member

theorem Reached.checked (reached : session.Reached policy machine sealed) :
    session.Checked policy machine sealed := by
  induction reached with
  | start =>
      refine ⟨.nil, by simp, ?_, by simp, by simp⟩
      intro vault stored _
      exact ⟨stored, rfl⟩
  | entropy tape _ ih => exact ih.step_entropy tape
  | call _ allows ih => exact ih.step_call allows

/-- In every run of a wallet with a policy, the vaults that are written are the seals of what is
sealed, and only the first password under which anything is sealed may be too short. That one
opened a vault without a tag that was there from the start. A call seals under a password that
is too short exactly if it gives a tag to a vault that this password opens. -/
theorem seals_checked_or_upgraded (reached : session.Reached policy machine sealed) :
    List.Forall₂ Vault.IsSeal session.written sealed ∧
    (∀ pair ∈ sealed.tail, policy.minLength ≤ pair.2.length) ∧
    (∀ pair ∈ sealed.head?, policy.minLength ≤ pair.2.length ∨
      ∃ vault, machine.vault = some vault ∧ vault.isAuthenticated = false ∧
        vault.unlock pair.2 = .ok pair.1) ∧
    ∀ call, session.Allows policy call → ∀ seed password, password.length < policy.minLength →
      ((seed, password) ∈ call.sealed session.machine ↔
        call.operation.Upgrades policy session.machine seed password) := by
  have checked := reached.checked
  refine ⟨checked.areSeals, checked.tail, checked.head, ?_⟩
  intro call allows seed password short
  constructor
  · intro member
    rcases (checked.seals allows).1 _ member with good | upgrades
    · exact absurd short (Nat.not_lt.mpr good)
    · exact upgrades
  · intro upgrades
    rw [← allows.policy] at upgrades
    exact Call.mem_sealed upgrades

/-- A machine with a vault without a tag, and with random bytes for one seal. -/
def untagged : Machine :=
  { disk := { start := [] }
    vault := some ⟨Vector.replicate 32 0, Vector.replicate 16 0, Vector.replicate 16 0, none⟩
    entropy := List.replicate 32 7 }

/-- Opening a vault without a tag, with the address of the seed that it yields. -/
def opening (seed : Seed) : Call :=
  ⟨{}, 3, .unlock "short" (some seed.address)⟩

theorem opening_upgrades :
    ∃ seed, (opening seed).operation.Upgrades {} untagged seed "short" :=
  ⟨_, .unlock ⟨⟨_, rfl, rfl, Vault.unlock_of_mac_eq_none rfl _⟩, rfl, by decide⟩⟩

theorem opening_allowed (seed : Seed) (session : Session) :
    session.Allows {} (opening seed) :=
  ⟨rfl, by simp [opening]⟩

/-- A password of five characters is kept, and a seal under it is written. -/
theorem seals_checked_or_upgraded_short :
    ∃ seed, (seed, "short") ∈ (opening seed).sealed untagged ∧
      "short".length < ({} : Password.Policy).minLength ∧
      ∃ vault ∈ ((Session.mk untagged [] [] none).step (.call (opening seed))).written,
        vault.IsSeal (seed, "short") := by
  obtain ⟨seed, upgrades⟩ := opening_upgrades
  have allowed := opening_allowed seed ⟨untagged, [], [], none⟩
  have short : "short".length < ({} : Password.Policy).minLength := by decide
  have begins : Reached {} untagged [] ⟨untagged, [], [], none⟩ := .start
  obtain ⟨_, _, _, seals⟩ := seals_checked_or_upgraded begins
  have member := (seals (opening seed) allowed seed "short" short).mpr upgrades
  obtain ⟨areSeals, _, _, _⟩ := seals_checked_or_upgraded (.call begins allowed)
  obtain ⟨place, inRange, found⟩ := List.getElem_of_mem (List.mem_append_right [] member)
  have written := areSeals.get (by rw [areSeals.length_eq]; exact inRange) inRange
  rw [List.get_eq_getElem, List.get_eq_getElem, found] at written
  exact ⟨seed, member, short, _, List.getElem_mem _, written⟩

/-- A wallet does not always seal under a password that its policy accepts. -/
theorem not_seals_checked :
    ¬ ∀ policy machine sealed (session : Session), session.Reached policy machine sealed →
      ∀ pair ∈ sealed, policy.minLength ≤ pair.2.length := by
  intro good
  obtain ⟨seed, upgrades⟩ := opening_upgrades
  have member : (seed, "short") ∈ (opening seed).sealed untagged := Call.mem_sealed upgrades
  have reached := Reached.call .start (opening_allowed seed ⟨untagged, [], [], none⟩)
  have long := good _ _ _ _ reached (seed, "short") (List.mem_append_right [] member)
  have short : ¬ ({} : Password.Policy).minLength ≤ "short".length := by decide
  exact short long

end Session

end SeedVault
