/-
Fields of digits: those of a written vault, and a seed in digits. They are read exactly if they are
two digits for each byte, and else the first thing that is wrong is told.
-/

import SeedVault.Proofs.Hex.Faults
import SeedVault.Proofs.Seed
import SeedVault.Proofs.Vault.Readers

namespace SeedVault

namespace Seed

variable {text : String} {seed : Seed} {cause : SeedError}

theorem isHex_iff_areDigits : isHex text = true ↔ Hex.AreDigits 64 text := by
  rw [isHex_iff, IsDigits]
  simp only [Hex.exists_hexDigit?_iff]
  constructor
  · rintro ⟨length, digits⟩
    exact ⟨length, digits⟩
  · intro fits
    exact ⟨fits.length, fits.digits⟩

theorem ofHex_eq_ok_iff_decode : ofHex text = .ok seed ↔ Hex.decode 32 text = .ok seed.bytes := by
  rw [ofHex_eq_ok_iff, Hex.decode_eq_ok_iff_denotes]

/-- There is nothing left to complain about in 64 digits. -/
theorem exists_ofHex_iff : (∃ seed, ofHex text = .ok seed) ↔ isHex text = true := by
  rw [isHex_iff_areDigits, ← @Hex.exists_decode_iff 32]
  constructor
  · rintro ⟨seed, read⟩
    exact ⟨seed.bytes, ofHex_eq_ok_iff_decode.mp read⟩
  · rintro ⟨bytes, decoded⟩
    exact ⟨⟨bytes⟩, ofHex_eq_ok_iff_decode.mpr decoded⟩

/-- Whatever a text is, the one complaint about it is that it is not 64 digits. -/
theorem ofHex_eq_error_iff :
    ofHex text = .error cause ↔ isHex text = false ∧ cause = .text .notHex := by
  cases digits : isHex text with
  | true =>
      obtain ⟨seed, read⟩ := exists_ofHex_iff.mpr digits
      simp [read]
  | false => simp [ofHex, digits, eq_comm]

end Seed

namespace Vault

namespace TextError

variable {field : Field} {found position : Nat} {code : UInt8}

theorem message_length : (TextError.field field (.length found)).message =
    s!"Malformed vault: {field.name} must be {2 * field.size} hex characters, got {found}" := by
  have unfolded : (TextError.field field (.length found)).message =
      "Malformed vault: " ++ (field.name ++ " must be " ++ toString (2 * field.size) ++
        " hex characters, got " ++ toString found) := rfl
  rw [unfolded]
  simp only [toString, String.append_assoc]

theorem message_digit : (TextError.field field (.digit code position)).message =
    s!"Malformed vault: {field.name} is not hex: " ++
      s!"Invalid character {Text.quoteChar (Char.ofUInt8 code)} at position {position}" := by
  have unfolded : (TextError.field field (.digit code position)).message =
      "Malformed vault: " ++ (field.name ++ " is not hex: " ++
        ("Invalid character " ++ Text.quoteChar (Char.ofUInt8 code) ++ " at position " ++
          toString position)) := rfl
  rw [unfolded]
  -- `simp` would compute the quoted character
  generalize Text.quoteChar (Char.ofUInt8 code) = shown
  simp only [toString, String.append_assoc]

end TextError

/-- Fields are read exactly, whatever their size. A text is read if and only if it is two digits of
either case for each byte, as the bytes that are written so in lower case, and what is written for
some bytes is read as them. A text of another length is refused for its length in bytes, and every
other one for its first byte that is no digit, which is named with its index; reading the digits
pair by pair comes to the same. A seed is read exactly from 64 digits, where the digits cannot be
at fault any more, and what is written for a seed is read as that seed. -/
theorem fields_read_exactly :
    (∀ (size : Nat) (field : Field) (text : String),
      ((∃ bytes, decodeField size field text = .ok bytes) ↔ Hex.AreDigits (2 * size) text) ∧
      (∀ bytes, decodeField size field text = .ok bytes ↔
        Hex.encode bytes.toList = text.toLower) ∧
      (∀ bytes : Bytes size, decodeField size field (Hex.encode bytes.toList) = .ok bytes) ∧
      (∀ problem, decodeField size field text = .error problem ↔
        ∃ fault, problem = .field field fault ∧ Hex.Faulty size text fault) ∧
      (decodeField size field text).map Vector.toList =
        (Hex.decodeInPairs size text).mapError (.field field)) ∧
    (∀ field found, (TextError.field field (.length found)).message =
      s!"Malformed vault: {field.name} must be {2 * field.size} hex characters, got {found}") ∧
    (∀ field code position, (TextError.field field (.digit code position)).message =
      s!"Malformed vault: {field.name} is not hex: " ++
        s!"Invalid character {Text.quoteChar (Char.ofUInt8 code)} at position {position}") ∧
    (∀ text, Seed.isHex text = true ↔ Hex.AreDigits 64 text) ∧
    (∀ text, (∃ seed, Seed.ofHex text = .ok seed) ↔ Seed.isHex text = true) ∧
    (∀ text seed, Seed.ofHex text = .ok seed ↔ seed.toHex = text.toLower) ∧
    (∀ text cause, Seed.ofHex text = .error cause ↔
      Seed.isHex text = false ∧ cause = .text .notHex) ∧
    ∀ seed : Seed, Seed.ofHex seed.toHex = .ok seed := by
  refine ⟨?fields, ?lengths, ?digits, fun _ => Seed.isHex_iff_areDigits,
    fun _ => Seed.exists_ofHex_iff, ?seeds, fun _ _ => Seed.ofHex_eq_error_iff, ?written⟩
  case fields =>
    intro size field text
    simp only [decodeField, mapError_eq_ok_iff, mapError_eq_error_iff]
    refine ⟨Hex.exists_decode_iff, fun _ => Hex.decode_eq_ok_iff_toLower, Hex.decode_encode,
      ?_, ?_⟩
    · intro problem
      simp only [Hex.decode_eq_error_iff]
    · rw [Hex.decodeInPairs_eq_decode]
      cases Hex.decode size text <;> rfl
  case lengths =>
    intro field found
    exact TextError.message_length
  case digits =>
    intro field code position
    exact TextError.message_digit
  case seeds =>
    intro text seed
    rw [Seed.ofHex_eq_ok_iff_decode]
    exact Hex.decode_eq_ok_iff_toLower
  case written =>
    intro seed
    rw [Seed.ofHex_eq_ok_iff_decode]
    exact Hex.decode_encode seed.bytes

end Vault

end SeedVault
