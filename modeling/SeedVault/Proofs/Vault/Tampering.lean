/-
Vaults that are changed after they were sealed. The tag covers all fields but itself, so a
changed vault opens under the password of the seal only if it has another salt, and with it
other keys, or if it was given the tag of its new contents, or if these have the old tag.
-/

import SeedVault.Proofs.Vault.Sealing
import Mathlib.Data.Fintype.Pigeonhole
import Mathlib.Tactic.Tauto

namespace SeedVault

/-- Two different messages have one tag under a key. -/
structure Hmac.Collide (key : Bytes 32) (message other : List UInt8) : Prop where
  different : message ≠ other
  sameTag : hmacSha256 key.toList message = hmacSha256 key.toList other

namespace Vault

/-- The bytes of a vault that its tag is for. -/
def covered (vault : Vault) : List UInt8 :=
  vault.salt.toList ++ vault.iv.toList ++ vault.ciphertext.toList

theorem length_covered (vault : Vault) : vault.covered.length = 64 := by
  rw [covered, List.length_append, List.length_append, Vector.length_toList,
    Vector.length_toList, Vector.length_toList]

/-- The covered bytes determine every field but the tag, since each has a fixed length. -/
theorem covered_eq_iff {vault other : Vault} :
    vault.covered = other.covered ↔
      vault.salt = other.salt ∧ vault.iv = other.iv ∧ vault.ciphertext = other.ciphertext := by
  constructor
  · intro same
    rw [covered, covered, List.append_assoc, List.append_assoc] at same
    obtain ⟨sameSalt, rest⟩ := Bytes.append_inj same
    obtain ⟨sameIv, last⟩ := Bytes.append_inj rest
    exact ⟨sameSalt, sameIv, Bytes.toList_injective last⟩
  · rintro ⟨sameSalt, sameIv, sameCiphertext⟩
    rw [covered, covered, sameSalt, sameIv, sameCiphertext]

theorem covered_ne_iff {vault other : Vault} (sameSalt : other.salt = vault.salt) :
    other.covered ≠ vault.covered ↔
      other.iv ≠ vault.iv ∨ other.ciphertext ≠ vault.ciphertext := by
  rw [ne_eq, covered_eq_iff, and_iff_right sameSalt, not_and_or]

/-- The covered bytes and the tag are all that there is. -/
theorem eq_iff_covered_eq {vault other : Vault} :
    vault = other ↔ vault.covered = other.covered ∧ vault.mac = other.mac := by
  rw [covered_eq_iff]
  cases vault
  cases other
  simp only [mk.injEq]
  tauto

theorem tagUnder_eq_hmac (vault : Vault) (password : String) :
    vault.tagUnder password =
      hmacSha256 (Keys.ofPassword password vault.salt).tag.toList vault.covered := rfl

/-- A vault with a tag opens exactly if the tag is the one that the password gives. -/
theorem opens_iff_mac_eq {vault : Vault} (authenticated : vault.isAuthenticated = true)
    (password : String) :
    (∃ seed, vault.unlock password = .ok seed) ↔ vault.mac = some (vault.tagUnder password) := by
  simp only [unlock_eq_ok_iff_tagUnder authenticated, exists_and_left, exists_eq', and_true]

/-- How a changed vault passes for a sealed one under the password of the seal. -/
inductive Forges (vault other : Vault) (password : String) : Prop
  /-- It has another salt, and the tag that the keys from that salt give to it. -/
  | salt : other.salt ≠ vault.salt → other.mac = some (other.tagUnder password) →
      Forges vault other password
  /-- It has the tag that the old keys give to the new contents. -/
  | tag : other.salt = vault.salt → other.covered ≠ vault.covered →
      other.mac = some (other.tagUnder password) → other.mac ≠ vault.mac →
        Forges vault other password
  /-- The new contents have the old tag. -/
  | collision : other.salt = vault.salt → other.mac = vault.mac →
      Hmac.Collide (Keys.ofPassword password vault.salt).tag vault.covered other.covered →
        Forges vault other password

section changed

variable {vault other : Vault} {password : String}
  (tagged : vault.mac = some (vault.tagUnder password))
include tagged

/-- Contents that have the tag of a seal collide with those of the seal, unless they are the
same. -/
theorem collide_of_mac_eq (different : other.covered ≠ vault.covered)
    (sameSalt : other.salt = vault.salt) (sameMac : other.mac = vault.mac)
    (opens : other.mac = some (other.tagUnder password)) :
    Hmac.Collide (Keys.ofPassword password vault.salt).tag vault.covered other.covered := by
  refine ⟨different.symm, ?_⟩
  have sameTag : vault.tagUnder password = other.tagUnder password :=
    Option.some.inj (tagged.symm.trans (sameMac.symm.trans opens))
  rw [tagUnder_eq_hmac, tagUnder_eq_hmac, sameSalt] at sameTag
  exact sameTag

/-- A vault that is a seal but for its tag is refused. -/
theorem covered_ne_of_opens (changed : other ≠ vault)
    (opens : other.mac = some (other.tagUnder password)) : other.covered ≠ vault.covered := by
  intro same
  have sameTag : other.tagUnder password = vault.tagUnder password := by
    rw [tagUnder_eq_hmac, tagUnder_eq_hmac, same, (covered_eq_iff.mp same).1]
  rw [sameTag, ← tagged] at opens
  exact changed (eq_iff_covered_eq.mpr ⟨same, opens⟩)

/-- A changed vault opens in one of the given ways only. -/
theorem opens_iff_forges (authenticated : other.isAuthenticated = true)
    (changed : other ≠ vault) :
    (∃ seed, other.unlock password = .ok seed) ↔ vault.Forges other password := by
  rw [opens_iff_mac_eq authenticated]
  constructor
  · intro opens
    have different := covered_ne_of_opens tagged changed opens
    by_cases sameSalt : other.salt = vault.salt
    · by_cases sameMac : other.mac = vault.mac
      · exact .collision sameSalt sameMac
          (collide_of_mac_eq tagged different sameSalt sameMac opens)
      · exact .tag sameSalt different opens sameMac
    · exact .salt sameSalt opens
  · intro forges
    cases forges with
    | salt _ opens => exact opens
    | tag _ _ opens => exact opens
    | collision sameSalt sameMac collide =>
        rw [sameMac, tagged, tagUnder_eq_hmac, tagUnder_eq_hmac, collide.sameTag, sameSalt]

end changed

/-- What changing a sealed vault takes. With another tag it is refused. With its salt and its
tag, but another counter block or ciphertext, it opens only if the 64 bytes that the tag covers
collide with the old ones. Any vault with a tag opens exactly if all bytes of the tag are those
of the HMAC of its other fields, under the key for tags that the password and its salt yield,
and the password is called wrong if not. So every byte of a seal is covered by the tag, is part
of it, or changes the keys. -/
theorem tampering_is_evident (seed : Seed) (password : String) (salt iv : Bytes 16) :
    let vault := lockWith seed password salt iv
    (∀ tag, vault.mac ≠ some tag →
      { vault with mac := some tag }.unlock password = .error .wrongPassword) ∧
    (∀ other : Vault, other.salt = salt → other.mac = vault.mac →
      (other.iv ≠ iv ∨ other.ciphertext ≠ vault.ciphertext) →
        (∃ opened, other.unlock password = .ok opened) →
          vault.covered.length = 64 ∧ other.covered.length = 64 ∧
            Hmac.Collide (Keys.ofPassword password salt).tag vault.covered other.covered) ∧
    (∀ (other : Vault) (attempt : String) (tag : Bytes 32), other.mac = some tag →
      let expected := hmacSha256 (Keys.ofPassword attempt other.salt).tag.toList
        (other.salt.toList ++ other.iv.toList ++ other.ciphertext.toList)
      ((∃ opened, other.unlock attempt = .ok opened) ↔
        ∀ place : Fin 32, tag[place] = expected[place]) ∧
      (other.unlock attempt = .error .wrongPassword ↔
        ∃ place : Fin 32, tag[place] ≠ expected[place])) ∧
    ∀ other : Vault, other.isAuthenticated = true → other ≠ vault →
      ((∃ opened, other.unlock password = .ok opened) ↔ vault.Forges other password) := by
  intro vault
  have tagged : vault.mac = some (vault.tagUnder password) := rfl
  -- The password is not stretched here: of the seal only its fields and its tag matter.
  have isSalt : vault.salt = salt := rfl
  have isIv : vault.iv = iv := rfl
  clear_value vault
  subst isSalt isIv
  refine ⟨?tag, ?contents, ?general, fun _ => opens_iff_forges tagged⟩
  case tag =>
    intro tag different
    rw [unlock_eq_error_iff]
    refine ⟨rfl, tag, rfl, ?_⟩
    intro same
    exact different (tagged.trans (congrArg some same))
  case contents =>
    intro other sameSalt sameMac changed opens
    have authenticated : other.isAuthenticated = true := by
      rw [isAuthenticated, sameMac, tagged, Option.isSome_some]
    rw [opens_iff_mac_eq authenticated] at opens
    have different : other.covered ≠ vault.covered := (covered_ne_iff sameSalt).mpr changed
    exact ⟨vault.length_covered, other.length_covered,
      collide_of_mac_eq tagged different sameSalt sameMac opens⟩
  case general =>
    intro other attempt tag present expected
    have isExpected : other.tagUnder attempt = expected := rfl
    clear_value expected
    have opens := opens_iff_mac_eq (congrArg Option.isSome present) attempt
    have refused : other.unlock attempt = .error .wrongPassword ↔ tag ≠ expected := by
      simp only [unlock_eq_error_iff, present, isExpected, Option.mem_def, Option.some.injEq,
        exists_eq_left', true_and]
      exact ne_comm
    rw [present, isExpected, Option.some.injEq, Bytes.eq_iff_get] at opens
    rw [ne_eq, Bytes.eq_iff_get, not_forall] at refused
    exact ⟨opens, refused⟩

/-- Of more numbers than there are byte strings, two are mapped to one byte string. -/
theorem exists_same_bytes {size : Nat} (bytes : Nat → Bytes size) :
    ∃ left right, left < 256 ^ (size + 1) ∧ right < 256 ^ (size + 1) ∧ left ≠ right ∧
      bytes left = bytes right := by
  let number (place : Fin (256 ^ (size + 1))) : Fin (256 ^ size) :=
    ⟨(bytes place).toNat, Bytes.toNat_lt _⟩
  have fewer : Fintype.card (Fin (256 ^ size)) < Fintype.card (Fin (256 ^ (size + 1))) := by
    rw [Fintype.card_fin, Fintype.card_fin]
    exact Nat.pow_lt_pow_right (by decide) (Nat.lt_succ_self size)
  obtain ⟨left, right, different, same⟩ := Fintype.exists_ne_map_eq_of_card_lt number fewer
  exact ⟨left, right, left.isLt, right.isLt, Fin.val_ne_of_ne different,
    Bytes.toNat_injective (congrArg Fin.val same)⟩

/-- A vault whose counter block and ciphertext spell a number, with the tag of a password. -/
def numbered (password : String) (salt : Bytes 16) (number : Nat) : Vault :=
  let contents : Vault :=
    ⟨Bytes.ofNat 32 number, salt, Bytes.ofNat 16 (number / 256 ^ 32), none⟩
  { contents with mac := some (contents.tagUnder password) }

theorem numbered_salt (password : String) (salt : Bytes 16) (number : Nat) :
    (numbered password salt number).salt = salt := rfl

theorem numbered_mac (password : String) (salt : Bytes 16) (number : Nat) :
    (numbered password salt number).mac =
      some ((numbered password salt number).tagUnder password) := rfl

theorem numbered_eq_lockWith (password : String) (salt : Bytes 16) (number : Nat) :
    numbered password salt number =
      lockWith ((numbered password salt number).seedUnder password) password salt
        (Bytes.ofNat 16 (number / 256 ^ 32)) :=
  (lockWith_seedUnder (numbered password salt number) password).symm

theorem eq_of_covered_numbered_eq {password : String} {salt : Bytes 16} {left right : Nat}
    (leftFits : left < 256 ^ 33) (rightFits : right < 256 ^ 33)
    (same : (numbered password salt left).covered = (numbered password salt right).covered) :
    left = right := by
  have fits {number : Nat} (bound : number < 256 ^ 33) : number / 256 ^ 32 < 256 ^ 16 := by
    apply Nat.div_lt_of_lt_mul
    rw [← Nat.pow_add]
    exact bound.trans (Nat.pow_lt_pow_right (by decide) (by decide))
  obtain ⟨_, sameIv, sameCiphertext⟩ := covered_eq_iff.mp same
  have high := congrArg Bytes.toNat sameIv
  have low := congrArg Bytes.toNat sameCiphertext
  simp only [numbered, Bytes.toNat_ofNat, Nat.mod_eq_of_lt (fits leftFits),
    Nat.mod_eq_of_lt (fits rightFits)] at high low
  calc left = 256 ^ 32 * (left / 256 ^ 32) + left % 256 ^ 32 := (Nat.div_add_mod ..).symm
    _ = 256 ^ 32 * (right / 256 ^ 32) + right % 256 ^ 32 := by rw [high, low]
    _ = right := Nat.div_add_mod ..

/-- A seal is refused if the last byte of its tag is changed. A seal and a changed vault that
passes for it, with the same salt and the same tag, collide. -/
theorem tampering_is_evident_collision :
    (let vault := lockWith ⟨Vector.replicate 32 0⟩ "pw" (Bytes.ofNat 16 1) (Bytes.ofNat 16 2)
      let tag := (vault.tagUnder "pw").set 31 ((vault.tagUnder "pw")[31] + 1)
      vault.mac ≠ some tag ∧
        { vault with mac := some tag }.unlock "pw" = .error .wrongPassword) ∧
    ∃ seed iv other,
      let vault := lockWith seed "pw" (Bytes.ofNat 16 1) iv
      other ≠ vault ∧ other.salt = Bytes.ofNat 16 1 ∧ other.mac = vault.mac ∧
        (∃ opened, other.unlock "pw" = .ok opened) ∧ vault.Forges other "pw" ∧
          Hmac.Collide (Keys.ofPassword "pw" (Bytes.ofNat 16 1)).tag vault.covered
            other.covered := by
  constructor
  · intro vault tag
    have changed : vault.mac ≠ some tag := by
      intro same
      have sameTag : vault.tagUnder "pw" = tag := Option.some.inj same
      have sameByte := congrArg (fun bytes : Bytes 32 => bytes[31]) sameTag
      simp only [tag, Vector.getElem_set_self] at sameByte
      generalize (vault.tagUnder "pw")[31] = byte at sameByte
      grind
    exact ⟨changed, (tampering_is_evident _ "pw" _ _).1 tag changed⟩
  · obtain ⟨left, right, leftFits, rightFits, different, sameTag⟩ :=
      exists_same_bytes fun number => (numbered "pw" (Bytes.ofNat 16 1) number).tagUnder "pw"
    let sealed := numbered "pw" (Bytes.ofNat 16 1) left
    let other := numbered "pw" (Bytes.ofNat 16 1) right
    have differs : other.covered ≠ sealed.covered := fun same =>
      different (eq_of_covered_numbered_eq rightFits leftFits same).symm
    have changed : other ≠ sealed := fun same => differs (eq_iff_covered_eq.mp same).1
    have sameMac : other.mac = sealed.mac := congrArg some sameTag.symm
    have opens : ∃ opened, other.unlock "pw" = .ok opened :=
      (opens_iff_mac_eq rfl "pw").mpr (numbered_mac "pw" _ right)
    have otherSalt : other.salt = Bytes.ofNat 16 1 := numbered_salt "pw" _ right
    have sameSalt : other.salt = sealed.salt := otherSalt.trans (numbered_salt "pw" _ left).symm
    have changedField : other.iv ≠ sealed.iv ∨ other.ciphertext ≠ sealed.ciphertext :=
      (covered_ne_iff sameSalt).mp differs
    obtain ⟨_, contents, _, classified⟩ := tampering_is_evident (sealed.seedUnder "pw") "pw"
      (Bytes.ofNat 16 1) (Bytes.ofNat 16 (left / 256 ^ 32))
    refine ⟨sealed.seedUnder "pw", Bytes.ofNat 16 (left / 256 ^ 32), other, ?_⟩
    rw [← numbered_eq_lockWith] at contents classified ⊢
    exact ⟨changed, otherSalt, sameMac, opens, (classified other rfl changed).mp opens,
      (contents other otherSalt sameMac changedField opens).2.2⟩

end Vault

end SeedVault
