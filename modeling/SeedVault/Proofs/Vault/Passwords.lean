/-
Passwords other than the one under which a vault was sealed. Such a password is noticed
unless it leads to the same tag. Passwords that become one block of the keyed tag always do,
and those that differ only in zero characters at an end are of this kind.
-/

import SeedVault.Password.Policy
import SeedVault.Proofs.Hash.KeyBlock
import SeedVault.Proofs.Text.Utf8
import SeedVault.Proofs.Vault.Sealing

namespace SeedVault

namespace Text

/-- A text with zero characters after it. -/
def withNuls (text : String) (count : Nat) : String :=
  text ++ String.ofList (List.replicate count '\x00')

/-- A zero character is written as a zero byte. -/
theorem utf8_withNuls (text : String) (count : Nat) :
    utf8 (withNuls text count) = utf8 text ++ List.replicate count 0 := by
  rw [withNuls, utf8_append]
  congr 1
  rw [utf8, String.toList_ofList, flatMap_utf8EncodeChar_of_lt, List.map_replicate]
  · rfl
  · intro char member
    rw [List.eq_of_mem_replicate member]
    decide

theorem sameButZeros_utf8_iff {left right : String} :
    Hmac.SameButZeros (utf8 left) (utf8 right) ↔
      ∃ count, left = withNuls right count ∨ right = withNuls left count := by
  simp only [Hmac.SameButZeros, ← utf8_withNuls]
  constructor
  · rintro ⟨count, same | same⟩
    · exact ⟨count, .inl (utf8_injective same)⟩
    · exact ⟨count, .inr (utf8_injective same)⟩
  · rintro ⟨count, same | same⟩
    · exact ⟨count, .inl (congrArg utf8 same)⟩
    · exact ⟨count, .inr (congrArg utf8 same)⟩

end Text

namespace Vault

/-- Two passwords become one block of the keyed tag that stretches them. -/
def SameBlock (password other : String) : Prop :=
  Hmac.keyBlock UInt32 (Text.utf8 password) = Hmac.keyBlock UInt32 (Text.utf8 other)

theorem sameBlock_iff (password other : String) :
    SameBlock password other ↔
      Hmac.SameButZeros (Hmac.shortened UInt32 (Text.utf8 password))
        (Hmac.shortened UInt32 (Text.utf8 other)) :=
  Hmac.keyBlock_eq_iff _ _

/-- Of the passwords of at most 64 bytes, those become one block that are the same but for
zero characters at the end of one of them. -/
theorem sameBlock_iff_withNuls {password other : String} (fits : (Text.utf8 password).length ≤ 64)
    (otherFits : (Text.utf8 other).length ≤ 64) :
    SameBlock password other ↔
      ∃ count, password = Text.withNuls other count ∨ other = Text.withNuls password count := by
  rw [sameBlock_iff, Hmac.shortened_of_le fits, Hmac.shortened_of_le otherFits,
    Text.sameButZeros_utf8_iff]

/-- Passwords that become one block yield the same keys. -/
theorem Keys.ofPassword_eq_of_sameBlock {password other : String}
    (same : SameBlock password other) (salt : Bytes 16) :
    ofPassword password salt = ofPassword other salt := by
  have stretched : stretchSha256 (Text.utf8 password) salt.toList stretchRounds =
      stretchSha256 (Text.utf8 other) salt.toList stretchRounds := by
    rw [stretchSha256, stretchSha256, Hmac.Key.ofSecret_eq_of_keyBlock_eq same]
  rw [ofPassword, ofPassword, stretched]

/-- What makes another password pass for the one under which a vault was sealed: one block,
or else a collision of the stretching, of the keys for tags, or of the tags themselves. -/
inductive Confuses (vault : Vault) (password other : String) : Prop
  | block : SameBlock password other → Confuses vault password other
  | stretching : ¬ SameBlock password other →
      (Keys.ofPassword password vault.salt).cipher = (Keys.ofPassword other vault.salt).cipher →
        Confuses vault password other
  | tagKey :
      (Keys.ofPassword password vault.salt).cipher ≠ (Keys.ofPassword other vault.salt).cipher →
        (Keys.ofPassword password vault.salt).tag = (Keys.ofPassword other vault.salt).tag →
          Confuses vault password other
  | tag : (Keys.ofPassword password vault.salt).tag ≠ (Keys.ofPassword other vault.salt).tag →
      vault.tagUnder password = vault.tagUnder other → Confuses vault password other

/-- The key for tags is made from the key that masks the seed. -/
theorem Keys.tag_eq_of_cipher_eq {password other : String} {salt : Bytes 16}
    (same : (ofPassword password salt).cipher = (ofPassword other salt).cipher) :
    (ofPassword password salt).tag = (ofPassword other salt).tag :=
  congrArg (fun cipher : Bytes 32 => hmacSha256 cipher.toList (Text.utf8 tagLabel)) same

theorem tagUnder_eq_of_tag_eq {vault : Vault} {password other : String}
    (same : (Keys.ofPassword password vault.salt).tag = (Keys.ofPassword other vault.salt).tag) :
    vault.tagUnder password = vault.tagUnder other := by
  rw [tagUnder, tagUnder, Keys.mac, Keys.mac, same]

/-- Two passwords give one tag exactly if one of them passes for the other. -/
theorem tagUnder_eq_iff_confuses (vault : Vault) (password other : String) :
    vault.tagUnder password = vault.tagUnder other ↔ vault.Confuses password other := by
  constructor
  · intro sameTag
    by_cases sameTagKey :
        (Keys.ofPassword password vault.salt).tag = (Keys.ofPassword other vault.salt).tag
    · by_cases sameCipher :
          (Keys.ofPassword password vault.salt).cipher = (Keys.ofPassword other vault.salt).cipher
      · by_cases sameBlock : SameBlock password other
        · exact .block sameBlock
        · exact .stretching sameBlock sameCipher
      · exact .tagKey sameCipher sameTagKey
    · exact .tag sameTagKey sameTag
  · intro confuses
    cases confuses with
    | block sameBlock => rw [tagUnder, tagUnder, Keys.ofPassword_eq_of_sameBlock sameBlock]
    | stretching _ sameCipher => exact tagUnder_eq_of_tag_eq (Keys.tag_eq_of_cipher_eq sameCipher)
    | tagKey _ sameTagKey => exact tagUnder_eq_of_tag_eq sameTagKey
    | tag _ sameTag => exact sameTag

section

variable (seed : Seed) (password other : String) (salt iv : Bytes 16)

/-- Opening a seal under another password fails exactly if that password gives another tag. -/
theorem unlock_lockWith_eq_error_iff :
    (lockWith seed password salt iv).unlock other = .error .wrongPassword ↔
      ¬ (lockWith seed password salt iv).Confuses password other := by
  rw [← tagUnder_eq_iff_confuses, unlock_eq_error_iff, lockWith_mac]
  simp [eq_comm]

/-- A password that becomes the same block opens the seal and yields its seed. -/
theorem unlock_lockWith_of_sameBlock (same : SameBlock password other) :
    (lockWith seed password salt iv).unlock other = .ok seed := by
  have sameSeal : lockWith seed password salt iv = lockWith seed other salt iv := by
    rw [lockWith, lockWith, Keys.ofPassword_eq_of_sameBlock same]
  rw [sameSeal]
  exact unlock_lockWith seed other salt iv

end

/-- Which passwords open a seal besides its own. Another password is refused unless it gives
the same tag. One that becomes the same block as the right one yields the seed, and up to 64
bytes these are the passwords that differ from the right one in zero characters at the end. -/
theorem other_password_refused_iff (seed : Seed) (password other : String) (salt iv : Bytes 16) :
    let vault := lockWith seed password salt iv
    (vault.unlock other = .error .wrongPassword ↔ ¬ vault.Confuses password other) ∧
    (SameBlock password other → vault.unlock other = .ok seed) ∧
    (SameBlock password other ↔
      Hmac.SameButZeros (Hmac.shortened UInt32 (Text.utf8 password))
        (Hmac.shortened UInt32 (Text.utf8 other))) ∧
    ((Text.utf8 password).length ≤ 64 → (Text.utf8 other).length ≤ 64 →
      (SameBlock password other ↔
        ∃ count, password = Text.withNuls other count ∨ other = Text.withNuls password count)) :=
  ⟨unlock_lockWith_eq_error_iff seed password other salt iv,
    unlock_lockWith_of_sameBlock seed password other salt iv,
    sameBlock_iff password other, sameBlock_iff_withNuls⟩

/-- A zero character after the right password makes no difference. -/
theorem other_password_refused_iff_nul :
    let seed : Seed := ⟨Vector.replicate 32 0⟩
    let vault := lockWith seed "password" (Vector.replicate 16 1) (Vector.replicate 16 2)
    (Text.utf8 "password").length ≤ 64 ∧ (Text.utf8 "password\x00").length ≤ 64 ∧
      SameBlock "password" "password\x00" ∧ vault.unlock "password\x00" = .ok seed := by
  intro seed vault
  obtain ⟨_, opens, _, withNuls⟩ := other_password_refused_iff seed "password" "password\x00"
    (Vector.replicate 16 1) (Vector.replicate 16 2)
  have same := (withNuls (by decide) (by decide)).mpr ⟨1, .inr (by decide)⟩
  exact ⟨by decide, by decide, same, opens same⟩

/-- Not every other password is refused, even if both meet the default policy. -/
theorem other_password_opens :
    ¬ ∀ (seed : Seed) (password other : String) (salt iv : Bytes 16), password ≠ other →
      (∃ analysis, Password.Policy.check {} password password = .ok analysis) →
        (∃ analysis, Password.Policy.check {} other other = .ok analysis) →
          (lockWith seed password salt iv).unlock other = .error .wrongPassword := by
  intro refuses
  have same : SameBlock "password" "password\x00" := by
    rw [sameBlock_iff_withNuls (by decide) (by decide)]
    exact ⟨1, .inr (by decide)⟩
  have refused := refuses ⟨Vector.replicate 32 0⟩ "password" "password\x00"
    (Vector.replicate 16 1) (Vector.replicate 16 2) (by decide) ⟨_, rfl⟩ ⟨_, rfl⟩
  rw [unlock_lockWith_of_sameBlock _ _ _ _ _ same] at refused
  cases refused

end Vault

end SeedVault
