/-
Counts in the environment. A text is a count exactly if it is made of decimal digits, which a
plus sign may stand in front of, and if the number fits into 64 bits.
-/

import SeedVault.Config
import SeedVault.Proofs.Radix

namespace SeedVault

namespace Text

variable {digit : Nat} {digits : List Nat} {chars : List Char}

theorem hexDigit?_digitChar (small : digit < 10) : hexDigit? digit.digitChar = some digit := by
  have each : ∀ digit : Fin 10, hexDigit? digit.val.digitChar = some digit.val := by decide
  exact each ⟨digit, small⟩

theorem isDigit_digitChar (small : digit < 10) : digit.digitChar.isDigit = true := by
  have each : ∀ digit : Fin 10, digit.val.digitChar.isDigit = true := by decide
  exact each ⟨digit, small⟩

theorem digitChar_of_isDigit {char : Char} (isDigit : char.isDigit = true) :
    char.toNat - 48 < 10 ∧ (char.toNat - 48).digitChar = char := by
  rw [Char.isDigit, Bool.and_eq_true, decide_eq_true_iff, decide_eq_true_iff] at isDigit
  have low : 48 ≤ char.toNat := UInt32.le_iff_toNat_le.mp isDigit.1
  have high : char.toNat ≤ 57 := UInt32.le_iff_toNat_le.mp isDigit.2
  refine ⟨by omega, ?_⟩
  rw [← Char.toNat_inj, Nat.toNat_digitChar_of_lt_ten (by omega)]
  omega

/-- The number that digits are read as is the one that they spell. -/
theorem number_map_digitChar (small : ∀ digit ∈ digits, digit < 10) :
    number 10 (digits.map Nat.digitChar) = Radix.value 10 digits := by
  have same : digits.map (fun digit => (hexDigit? digit.digitChar).getD 0) = digits := by
    conv => rhs; rw [← List.map_id digits]
    apply List.map_congr_left
    intro digit member
    rw [hexDigit?_digitChar (small digit member)]
    rfl
  conv => rhs; rw [← same, Radix.value, List.foldl_map]
  rw [number, List.foldl_map]

/-- Characters are digits exactly if they are the characters of some digits. -/
theorem all_isDigit_iff : chars.all Char.isDigit = true ↔
    ∃ digits : List Nat, (∀ digit ∈ digits, digit < 10) ∧ chars = digits.map Nat.digitChar := by
  rw [List.all_eq_true]
  constructor
  · intro areDigits
    refine ⟨chars.map fun char => char.toNat - 48, ?_, ?_⟩
    · intro digit member
      obtain ⟨char, present, rfl⟩ := List.mem_map.mp member
      exact (digitChar_of_isDigit (areDigits char present)).1
    · conv => lhs; rw [← List.map_id chars]
      rw [List.map_map]
      apply List.map_congr_left
      intro char member
      exact (digitChar_of_isDigit (areDigits char member)).2.symm
  · rintro ⟨digits, small, rfl⟩ char member
    obtain ⟨digit, present, rfl⟩ := List.mem_map.mp member
    exact isDigit_digitChar (small digit present)

end Text

namespace Config

/-- A text is a number of decimal digits, perhaps after a plus sign, and fits into 64 bits. -/
def IsCount (text : String) (count : Nat) : Prop :=
  ∃ digits : List Nat, digits ≠ [] ∧ (∀ digit ∈ digits, digit < 10) ∧
    (text.toList = digits.map Nat.digitChar ∨ text.toList = '+' :: digits.map Nat.digitChar) ∧
    count = Nat.ofDigits 10 digits.reverse ∧ count < 2 ^ 64

/-- What follows a plus sign, or the whole text if there is none. -/
def unsigned : List Char → List Char
  | '+' :: rest => rest
  | chars => chars

theorem unsigned_eq_iff {chars : List Char} {digits : List Nat} (filled : digits ≠ [])
    (small : ∀ digit ∈ digits, digit < 10) :
    unsigned chars = digits.map Nat.digitChar ↔
      chars = digits.map Nat.digitChar ∨ chars = '+' :: digits.map Nat.digitChar := by
  constructor
  · intro found
    unfold unsigned at found
    split at found
    · exact .inr (congrArg ('+' :: ·) found)
    · exact .inl found
  · rintro (rfl | rfl)
    · cases digits with
      | nil => exact absurd rfl filled
      | cons digit digits =>
          have isDigit := Text.isDigit_digitChar (small digit List.mem_cons_self)
          have other : digit.digitChar ≠ '+' := by
            intro same
            rw [same] at isDigit
            cases isDigit
          rw [List.map_cons, unsigned]
          intro rest same
          exact other (List.cons.inj same).1
    · rfl

theorem countOfText?_eq_some_iff {text : String} {count : Nat} :
    countOfText? text = some count ↔ IsCount text count := by
  have reads : countOfText? text =
      if unsigned text.toList ≠ [] ∧ (unsigned text.toList).all Char.isDigit ∧
          Text.number 10 (unsigned text.toList) ≤ greatestCount then
        some (Text.number 10 (unsigned text.toList)) else none := rfl
  rw [reads, Option.ite_none_right_eq_some, Option.some.injEq]
  constructor
  · rintro ⟨⟨filled, areDigits, fits⟩, rfl⟩
    obtain ⟨digits, small, same⟩ := Text.all_isDigit_iff.mp areDigits
    have some : digits ≠ [] := by
      rintro rfl
      exact filled same
    rw [same, Text.number_map_digitChar small, greatestCount] at fits
    rw [same, Text.number_map_digitChar small]
    exact ⟨digits, some, small, (unsigned_eq_iff some small).mp same,
      Radix.value_eq_ofDigits 10 digits, by omega⟩
  · rintro ⟨digits, some, small, spelled, rfl, fits⟩
    rw [(unsigned_eq_iff some small).mpr spelled, Text.number_map_digitChar small,
      Radix.value_eq_ofDigits, greatestCount]
    exact ⟨⟨by simpa using some, Text.all_isDigit_iff.mpr ⟨digits, small, rfl⟩, by omega⟩, rfl⟩

end Config

end SeedVault
