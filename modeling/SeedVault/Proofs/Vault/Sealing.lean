/-
Opening undoes sealing. A vault opens under a password exactly if sealing the seed again
with its salt and its counter block gives the same vault.
-/

import SeedVault.Proofs.Bytes
import SeedVault.Vault.Lock
import Mathlib.Logic.Function.Basic

namespace SeedVault

/-- The keystream does not depend on what it masks, so masking twice cancels. -/
theorem Keystream.mask_mask {size : Nat} (key : Bytes 32) (initial : Bytes 16)
    (message : Bytes size) : mask key initial (mask key initial message) = message :=
  Bytes.xor_xor_cancel message (bytes size key initial)

-- The inverse law holds of any keystream. These two blocks are what AES makes of theirs,
-- and the step from one counter block to the next carries into the last byte but one.
example :
    Keystream.mask
      (Bytes.ofNat 32 0x603deb1015ca71be2b73aef0857d77811f352c073b6108d72d9810a30914dff4)
      (Bytes.ofNat 16 0xf0f1f2f3f4f5f6f7f8f9fafbfcfdfeff)
      (Bytes.ofNat 32 0x6bc1bee22e409f96e93d7e117393172aae2d8a571e03ac9c9eb76fac45af8e51) =
    Bytes.ofNat 32 0x601ec313775789a5b7a7f504bbf3d228f443e3ca4d62b59aca84e990cacaf5c5 := by
  decide +kernel

namespace Vault

/-- The seed that a vault yields under a password, be it the right one or not. -/
def seedUnder (vault : Vault) (password : String) : Seed :=
  ⟨Keystream.mask (Keys.ofPassword password vault.salt).cipher vault.iv vault.ciphertext⟩

/-- The tag that a password gives to the contents of a vault. -/
def tagUnder (vault : Vault) (password : String) : Bytes 32 :=
  (Keys.ofPassword password vault.salt).mac vault.salt vault.iv vault.ciphertext

/-- Opening compares the tag, if there is one, and then unmasks the seed. -/
theorem unlock_eq (vault : Vault) (password : String) :
    vault.unlock password =
      if ∀ tag ∈ vault.mac, vault.tagUnder password = tag then .ok (vault.seedUnder password)
      else .error .wrongPassword := by
  have tagged : (vault.mac.all (Bytes.same (vault.tagUnder password)) = true) =
      ∀ tag ∈ vault.mac, vault.tagUnder password = tag := by
    rw [Option.all_eq_true]
    simp only [Bytes.same_iff_eq, Option.mem_def]
  rw [unlock]
  simp only [← tagged]
  rfl

theorem unlock_eq_ok_iff {vault : Vault} {password : String} {seed : Seed} :
    vault.unlock password = .ok seed ↔
      (∀ tag ∈ vault.mac, vault.tagUnder password = tag) ∧ vault.seedUnder password = seed := by
  rw [unlock_eq]
  split
  · rename_i tagged
    rw [Except.ok.injEq, and_iff_right tagged]
  · rename_i untagged
    simp only [reduceCtorEq, untagged, false_and]

theorem unlock_eq_error_iff {vault : Vault} {password : String} {problem : LockError} :
    vault.unlock password = .error problem ↔
      problem = .wrongPassword ∧ ∃ tag ∈ vault.mac, vault.tagUnder password ≠ tag := by
  rw [unlock_eq]
  split
  · rename_i tagged
    simp only [reduceCtorEq, false_iff, not_and, not_exists]
    intro _ tag present
    exact not_not.mpr (tagged tag present)
  · rename_i untagged
    simp only [not_forall, exists_prop] at untagged
    simp only [Except.error.injEq, untagged, and_true]
    exact eq_comm

/-- A vault with a tag opens exactly if its tag is the one that the password gives. -/
theorem unlock_eq_ok_iff_tagUnder {vault : Vault}
    (authenticated : vault.isAuthenticated = true) {password : String} {seed : Seed} :
    vault.unlock password = .ok seed ↔
      vault.mac = some (vault.tagUnder password) ∧ vault.seedUnder password = seed := by
  obtain ⟨tag, present⟩ := Option.isSome_iff_exists.mp authenticated
  rw [unlock_eq_ok_iff, present]
  simp only [Option.mem_def, Option.some.injEq, forall_eq', eq_comm]

/-- A vault without a tag opens under every password. -/
theorem unlock_of_mac_eq_none {vault : Vault} (legacy : vault.mac = none) (password : String) :
    vault.unlock password = .ok (vault.seedUnder password) := by
  rw [unlock_eq_ok_iff]
  refine ⟨?_, rfl⟩
  intro tag present
  rw [legacy] at present
  cases present

section lockWith

variable (seed : Seed) (password : String) (salt iv : Bytes 16)

@[simp] theorem lockWith_salt : (lockWith seed password salt iv).salt = salt := rfl

@[simp] theorem lockWith_iv : (lockWith seed password salt iv).iv = iv := rfl

theorem lockWith_isAuthenticated : (lockWith seed password salt iv).isAuthenticated = true := rfl

/-- The tag of a sealed vault is the one that its password gives. -/
theorem lockWith_mac : (lockWith seed password salt iv).mac =
    some ((lockWith seed password salt iv).tagUnder password) := rfl

theorem seedUnder_lockWith : (lockWith seed password salt iv).seedUnder password = seed :=
  congrArg Seed.mk (Keystream.mask_mask _ iv seed.bytes)

/-- The seed comes back under the password it was sealed under. -/
theorem unlock_lockWith : (lockWith seed password salt iv).unlock password = .ok seed := by
  rw [unlock_eq_ok_iff]
  refine ⟨?_, seedUnder_lockWith seed password salt iv⟩
  intro tag present
  rw [lockWith_mac] at present
  exact Option.some.inj present

end lockWith

/-- Sealing again what a vault yields gives the vault with the tag of the password. -/
theorem lockWith_seedUnder (vault : Vault) (password : String) :
    lockWith (vault.seedUnder password) password vault.salt vault.iv =
      { vault with mac := some (vault.tagUnder password) } := by
  rw [lockWith]
  dsimp only [seedUnder]
  rw [Keystream.mask_mask]
  rfl

theorem mac_eq_none_of_legacy {vault : Vault} (legacy : vault.isAuthenticated = false) :
    vault.mac = none :=
  Option.isNone_iff_eq_none.mp (Option.isSome_eq_false_iff.mp legacy)

/-- An authenticated vault yields exactly the seed of which it is the seal. -/
theorem unlock_eq_ok_iff_lockWith {vault : Vault} (authenticated : vault.isAuthenticated = true)
    (password : String) (seed : Seed) :
    vault.unlock password = .ok seed ↔ lockWith seed password vault.salt vault.iv = vault := by
  constructor
  · intro opened
    obtain ⟨tagged, rfl⟩ := unlock_eq_ok_iff.mp opened
    obtain ⟨tag, present⟩ := Option.isSome_iff_exists.mp authenticated
    rw [lockWith_seedUnder, tagged tag present, ← present]
  · intro sealed
    rw [← sealed]
    exact unlock_lockWith seed password vault.salt vault.iv

/-- A vault without a tag yields exactly the seed whose seal it is, but for the tag. -/
theorem unlock_eq_ok_iff_withoutMac {vault : Vault} (legacy : vault.isAuthenticated = false)
    (password : String) (seed : Seed) :
    vault.unlock password = .ok seed ↔
      vault = (lockWith seed password vault.salt vault.iv).withoutMac := by
  have untagged := mac_eq_none_of_legacy legacy
  rw [unlock_of_mac_eq_none untagged, Except.ok.injEq]
  constructor
  · rintro rfl
    rw [lockWith_seedUnder, withoutMac, ← untagged]
  · intro stripped
    rw [stripped]
    exact seedUnder_lockWith seed password vault.salt vault.iv

/-- For one password, salt and counter block, sealing pairs off seeds and ciphertexts. -/
theorem lockWith_ciphertext_bijective (password : String) (salt iv : Bytes 16) :
    Function.Bijective fun seed => (lockWith seed password salt iv).ciphertext := by
  constructor
  · intro left right same
    have unmasked := congrArg (fun ciphertext => seedUnder ⟨ciphertext, salt, iv, none⟩ password) same
    calc left = (lockWith left password salt iv).seedUnder password :=
          (seedUnder_lockWith left password salt iv).symm
      _ = (lockWith right password salt iv).seedUnder password := unmasked
      _ = right := seedUnder_lockWith right password salt iv
  · intro ciphertext
    have resealed := lockWith_seedUnder ⟨ciphertext, salt, iv, none⟩ password
    exact ⟨_, congrArg Vault.ciphertext resealed⟩

/-- Opening is the exact inverse of sealing, with the tag and without it. -/
theorem unlock_inverts_lockWith (password : String) :
    (∀ vault : Vault, vault.isAuthenticated = true → ∀ seed,
      (vault.unlock password = .ok seed ↔ lockWith seed password vault.salt vault.iv = vault)) ∧
    (∀ vault : Vault, vault.isAuthenticated = false →
      (∃ seed, vault.unlock password = .ok seed) ∧ ∀ seed,
        (vault.unlock password = .ok seed ↔
          vault = (lockWith seed password vault.salt vault.iv).withoutMac)) ∧
    (∀ seed salt iv,
      (lockWith seed password salt iv).unlock password = .ok seed ∧
        (lockWith seed password salt iv).withoutMac.unlock password = .ok seed) ∧
    ∀ salt iv, Function.Bijective fun seed => (lockWith seed password salt iv).ciphertext := by
  refine ⟨?_, ?_, ?_, lockWith_ciphertext_bijective password⟩
  · intro vault authenticated seed
    exact unlock_eq_ok_iff_lockWith authenticated password seed
  · intro vault legacy
    have untagged := mac_eq_none_of_legacy legacy
    exact ⟨⟨_, unlock_of_mac_eq_none untagged password⟩, unlock_eq_ok_iff_withoutMac legacy password⟩
  · intro seed salt iv
    refine ⟨unlock_lockWith seed password salt iv, ?_⟩
    exact (unlock_eq_ok_iff_withoutMac rfl password seed).mpr rfl

/-- A sealed vault and its stripped copy both meet the conditions of the law. -/
theorem unlock_inverts_lockWith_sealed :
    let vault := lockWith ⟨Bytes.ofNat 32 42⟩ "pw" (Bytes.ofNat 16 1) (Bytes.ofNat 16 (2 ^ 128 - 1))
    vault.isAuthenticated = true ∧ vault.withoutMac.isAuthenticated = false ∧
      vault.unlock "pw" = .ok ⟨Bytes.ofNat 32 42⟩ ∧
      vault.withoutMac.unlock "pw" = .ok ⟨Bytes.ofNat 32 42⟩ := by
  intro vault
  have law := unlock_inverts_lockWith "pw"
  exact ⟨rfl, rfl, (law.1 vault rfl _).mpr rfl, ((law.2.1 vault.withoutMac rfl).2 _).mpr rfl⟩

end Vault

end SeedVault
