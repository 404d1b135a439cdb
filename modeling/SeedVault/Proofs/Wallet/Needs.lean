/-
What random bytes are taken for. A list of needs is met one after another from the front of a
tape, until a draw or the store fails.
-/

import SeedVault.Proofs.Vault.Sealing
import SeedVault.Proofs.Wallet.Call

namespace SeedVault

/-- There were no random bytes. -/
inductive WalletError.OfRandomness : WalletError → Prop
  | seed : OfRandomness (.seed .randomness)
  | lock : OfRandomness (.lock .randomness)

/-- Why a program fails, if it does. -/
def failure? {α : Type} : Except WalletError α → Option WalletError
  | .ok _ => none
  | .error cause => some cause

theorem failure?_eq_some_iff {α : Type} {answer : Except WalletError α} {cause : WalletError} :
    failure? answer = some cause ↔ answer = .error cause := by
  cases answer <;> simp [failure?]

@[simp] theorem failure?_map {α β : Type} (change : α → β) (answer : Except WalletError α) :
    failure? (answer.map change) = failure? answer := by
  cases answer <;> rfl

/-- Something that has to be done. A phrase takes 16 random bytes, a challenge 32, and a seal 16
for its salt and then 16 for its counter block. The seal is stored or handed out. -/
inductive Need
  | phrase
  | challenge
  | lock (seed : Seed) (password : String) (isStored : Bool)
  | removal

/-- An entry of the ledger: what random bytes were taken for, or that a draw was refused, or that
the vault was to be removed. -/
inductive Entry
  | phrase (entropy : Bytes 16)
  | challenge (key : Bytes 32)
  /-- A salt for a seal that got no counter block. -/
  | salt (salt : Bytes 16)
  | vault (vault : Vault) (isStored : Bool)
  | refused (size : Nat)
  | removed

namespace Entry

/-- The random bytes that were taken. Those of a seal are its salt and its counter block. -/
def bytes : Entry → List UInt8
  | .phrase entropy => entropy.toList
  | .challenge key => key.toList
  | .salt drawn => drawn.toList
  | .vault locked _ => locked.salt.toList ++ locked.iv.toList
  | .refused _ => []
  | .removed => []

/-- What is seen of an entry from outside. -/
def accesses : Entry → List Access
  | .phrase entropy => [.drew entropy.toList]
  | .challenge key => [.drew key.toList]
  | .salt drawn => [.drew drawn.toList]
  | .vault locked true => [.drew locked.salt.toList, .drew locked.iv.toList, .wrote locked]
  | .vault locked false => [.drew locked.salt.toList, .drew locked.iv.toList]
  | .refused size => [.refused size]
  | .removed => [.cleared]

/-- The seal that was handed out. -/
def handed? : Entry → Option Vault
  | .vault locked false => some locked
  | _ => none

end Entry

/-- How needs are met from a tape, one after another until one fails. A refused draw takes
nothing. -/
inductive Spends : List Need → List UInt8 → List Entry → List UInt8 → Option WalletError → Prop
  | done {tape : List UInt8} : Spends [] tape [] tape none
  | phrase {needs : List Need} {tape left : List UInt8} {entries : List Entry}
      {failure : Option WalletError} (entropy : Bytes 16) :
      Spends needs tape entries left failure →
        Spends (.phrase :: needs) (entropy.toList ++ tape) (.phrase entropy :: entries) left failure
  | noPhrase {needs : List Need} {tape : List UInt8} :
      tape.length < 16 →
        Spends (.phrase :: needs) tape [.refused 16] tape (some (.seed .randomness))
  | challenge {needs : List Need} {tape left : List UInt8} {entries : List Entry}
      {failure : Option WalletError} (key : Bytes 32) :
      Spends needs tape entries left failure →
        Spends (.challenge :: needs) (key.toList ++ tape) (.challenge key :: entries) left failure
  | noChallenge {needs : List Need} {tape : List UInt8} :
      tape.length < 32 →
        Spends (.challenge :: needs) tape [.refused 32] tape (some (.seed .randomness))
  | lock {needs : List Need} {tape left : List UInt8} {entries : List Entry}
      {failure : Option WalletError} {seed : Seed} {password : String} {isStored : Bool}
      (salt iv : Bytes 16) :
      Spends needs tape entries left failure →
        Spends (.lock seed password isStored :: needs) (salt.toList ++ (iv.toList ++ tape))
          (.vault (Vault.lockWith seed password salt iv) isStored :: entries) left failure
  | noSalt {needs : List Need} {tape : List UInt8} {seed : Seed} {password : String}
      {isStored : Bool} :
      tape.length < 16 →
        Spends (.lock seed password isStored :: needs) tape [.refused 16] tape
          (some (.lock .randomness))
  | noCounter {needs : List Need} {tape : List UInt8} {seed : Seed} {password : String}
      {isStored : Bool} (salt : Bytes 16) :
      tape.length < 16 →
        Spends (.lock seed password isStored :: needs) (salt.toList ++ tape)
          [.salt salt, .refused 16] tape (some (.lock .randomness))
  /-- The store fails to keep the seal. -/
  | notStored {needs : List Need} {tape : List UInt8} {seed : Seed} {password : String}
      (salt iv : Bytes 16) (cause : StoreError) :
      Spends (.lock seed password true :: needs) (salt.toList ++ (iv.toList ++ tape))
        [.vault (Vault.lockWith seed password salt iv) true] tape (some (.store cause))
  | removed {needs : List Need} {tape left : List UInt8} {entries : List Entry}
      {failure : Option WalletError} :
      Spends needs tape entries left failure →
        Spends (.removal :: needs) tape (.removed :: entries) left failure
  | notRemoved {needs : List Need} {tape : List UInt8} (cause : StoreError) :
      Spends (.removal :: needs) tape [.removed] tape (some (.store cause))

namespace Spends

variable {needs more : List Need} {tape middle left : List UInt8} {entries others : List Entry}
  {failure : Option WalletError}

/-- What is taken is the front of the tape. -/
theorem tape_eq (spends : Spends needs tape entries left failure) :
    tape = entries.flatMap Entry.bytes ++ left := by
  induction spends with
  | done | noPhrase | noChallenge | noSalt | noCounter | notStored | notRemoved =>
      simp [Entry.bytes]
  | phrase _ _ ih | challenge _ _ ih | removed _ ih =>
      rw [List.flatMap_cons, List.append_assoc, ← ih]
      rfl
  | lock salt iv _ ih =>
      rw [List.flatMap_cons, List.append_assoc, ← ih, ← List.append_assoc]
      rfl

/-- Where all needs are met, further ones may follow. -/
theorem append (spends : Spends needs tape entries middle none)
    (further : Spends more middle others left failure) :
    Spends (needs ++ more) tape (entries ++ others) left failure := by
  generalize met : (none : Option WalletError) = ending at spends
  induction spends with
  | done => exact further
  | phrase entropy _ ih => exact .phrase entropy (ih further met)
  | challenge key _ ih => exact .challenge key (ih further met)
  | lock salt iv _ ih => exact .lock salt iv (ih further met)
  | removed _ ih => exact .removed (ih further met)
  | noPhrase | noChallenge | noSalt | noCounter | notStored | notRemoved => cases met

/-- Where a need fails, further ones make no difference. -/
theorem append_needs {cause : WalletError} (spends : Spends needs tape entries left (some cause))
    (more : List Need) : Spends (needs ++ more) tape entries left (some cause) := by
  generalize failed : some cause = ending at spends
  induction spends with
  | done => cases failed
  | phrase entropy _ ih => exact .phrase entropy (ih failed)
  | noPhrase short => exact .noPhrase short
  | challenge key _ ih => exact .challenge key (ih failed)
  | noChallenge short => exact .noChallenge short
  | lock salt iv _ ih => exact .lock salt iv (ih failed)
  | noSalt short => exact .noSalt short
  | noCounter salt short => exact .noCounter salt short
  | notStored salt iv cause => exact .notStored salt iv cause
  | removed _ ih => exact .removed (ih failed)
  | notRemoved cause => exact .notRemoved cause

/-- Without needs nothing is done. -/
theorem of_nil (spends : Spends [] tape entries left failure) :
    entries = [] ∧ left = tape ∧ failure = none := by
  cases spends
  exact ⟨rfl, rfl, rfl⟩

/-- A draw is refused exactly if the cause is that there were no random bytes. -/
theorem refused_iff (spends : Spends needs tape entries left failure) :
    (∃ size, .refused size ∈ entries.flatMap Entry.accesses) ↔
      ∃ cause, failure = some cause ∧ cause.OfRandomness := by
  induction spends with
  | done => simp
  | noPhrase | noChallenge =>
      exact iff_of_true ⟨_, List.mem_singleton_self _⟩ ⟨_, rfl, .seed⟩
  | noSalt => exact iff_of_true ⟨_, List.mem_singleton_self _⟩ ⟨_, rfl, .lock⟩
  | noCounter =>
      exact iff_of_true ⟨_, List.mem_cons_of_mem _ (List.mem_singleton_self _)⟩ ⟨_, rfl, .lock⟩
  | notStored | notRemoved =>
      apply iff_of_false
      · simp [Entry.accesses]
      · rintro ⟨_, ⟨⟩, ⟨⟩⟩
  | phrase _ _ ih | challenge _ _ ih | removed _ ih =>
      rw [← ih]
      simp [Entry.accesses]
  | @lock _ _ _ _ _ _ _ isStored _ _ _ ih =>
      rw [← ih]
      cases isStored <;> simp [Entry.accesses]

/-- What fails is a draw or the store. -/
theorem cause_of_error {cause : WalletError}
    (spends : Spends needs tape entries left (some cause)) :
    cause.OfRandomness ∨ ∃ problem, cause = .store problem := by
  generalize failed : some cause = ending at spends
  induction spends with
  | done => cases failed
  | noPhrase | noChallenge =>
      cases failed
      exact .inl .seed
  | noSalt | noCounter =>
      cases failed
      exact .inl .lock
  | notStored _ _ problem | notRemoved problem =>
      cases failed
      exact .inr ⟨problem, rfl⟩
  | phrase _ _ ih | challenge _ _ ih | lock _ _ _ ih | removed _ ih => exact ih failed

/-- Seals that are stored are not handed out. -/
theorem handed_eq_nil (spends : Spends needs tape entries left failure)
    (stored : ∀ seed password, .lock seed password false ∉ needs) :
    entries.filterMap Entry.handed? = [] := by
  induction spends with
  | done | noPhrase | noChallenge | noSalt | noCounter | notStored | notRemoved => rfl
  | phrase _ _ ih | challenge _ _ ih | removed _ ih =>
      exact ih fun seed password member => stored seed password (List.mem_cons_of_mem _ member)
  | @lock _ _ _ _ _ seed password isStored _ _ _ ih =>
      cases isStored with
      | false => exact absurd List.mem_cons_self (stored seed password)
      | true =>
          exact ih fun seed password member => stored seed password (List.mem_cons_of_mem _ member)

end Spends

/-- How something with given needs goes: the needs are met one after another, or it fails before
the first of them. -/
inductive Goes (needs : List Need) (tape : List UInt8) :
    List Entry → List UInt8 → Option WalletError → Prop
  | spends {entries : List Entry} {left : List UInt8} {failure : Option WalletError} :
      Spends needs tape entries left failure → Goes needs tape entries left failure
  | stopped {cause : WalletError} :
      ¬ cause.OfRandomness → Goes needs tape [] tape (some cause)

namespace Goes

variable {needs : List Need} {tape left : List UInt8} {entries : List Entry}
  {failure : Option WalletError}

theorem append_needs {cause : WalletError} (goes : Goes needs tape entries left (some cause))
    (more : List Need) : Goes (needs ++ more) tape entries left (some cause) := by
  cases goes with
  | spends spends => exact .spends (spends.append_needs more)
  | stopped other => exact .stopped other

theorem tape_eq (goes : Goes needs tape entries left failure) :
    tape = entries.flatMap Entry.bytes ++ left := by
  cases goes with
  | spends spends => exact spends.tape_eq
  | stopped => rfl

/-- Something that fails, and neither for want of random bytes nor because of the store, has done
nothing. -/
theorem early {cause : WalletError} (goes : Goes needs tape entries left (some cause))
    (drawn : ¬ cause.OfRandomness) (kept : ∀ problem, cause ≠ .store problem) :
    entries = [] ∧ left = tape := by
  cases goes with
  | stopped => exact ⟨rfl, rfl⟩
  | spends spends =>
      rcases spends.cause_of_error with ofRandomness | ⟨problem, same⟩
      · exact absurd ofRandomness drawn
      · exact absurd same (kept problem)

theorem refused_iff (goes : Goes needs tape entries left failure) :
    (∃ size, .refused size ∈ entries.flatMap Entry.accesses) ↔
      ∃ cause, failure = some cause ∧ cause.OfRandomness := by
  cases goes with
  | spends spends => exact spends.refused_iff
  | stopped other =>
      apply iff_of_false
      · simp
      · rintro ⟨_, ⟨⟩, ofRandomness⟩
        exact other ofRandomness

theorem handed_eq_nil (goes : Goes needs tape entries left failure)
    (stored : ∀ seed password, .lock seed password false ∉ needs) :
    entries.filterMap Entry.handed? = [] := by
  cases goes with
  | spends spends => exact spends.handed_eq_nil stored
  | stopped => rfl

end Goes

end SeedVault
