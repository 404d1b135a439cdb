/-
Numbers in a base, with a fixed count of digits and the most significant digit first.
-/

import Mathlib.Data.Nat.Digits.Defs

namespace SeedVault.Radix

/-- The last `count` digits of a number. -/
def digits (base count number : Nat) : List Nat :=
  List.ofFn fun place : Fin count => number / base ^ (count - 1 - place.val) % base

/-- The number that digits spell, the first one counting most. -/
def value (base : Nat) (digits : List Nat) : Nat :=
  digits.foldl (fun number digit => number * base + digit) 0

theorem value_append (base : Nat) (init : List Nat) (last : Nat) :
    value base (init ++ [last]) = value base init * base + last := by
  simp only [value, List.foldl_append, List.foldl_cons, List.foldl_nil]

/-- The value is the library's little-endian value of the reversed digits. -/
theorem value_eq_ofDigits (base : Nat) (list : List Nat) :
    value base list = Nat.ofDigits base list.reverse := by
  rw [Nat.ofDigits_eq_foldr, List.foldr_reverse]
  simp only [value, Nat.cast_id, Nat.mul_comm base, Nat.add_comm]

theorem digits_succ (base count number : Nat) :
    digits base (count + 1) number = digits base count (number / base) ++ [number % base] := by
  rw [digits, List.ofFn_succ_last]
  congr 1
  · apply congrArg List.ofFn
    funext place
    have exponent : count + 1 - 1 - place.castSucc.val = count - 1 - place.val + 1 := by
      have := place.isLt
      simp only [Fin.val_castSucc]
      omega
    rw [exponent, Nat.pow_succ', Nat.div_div_eq_div_mul]
  · simp

theorem length_digits (base count number : Nat) : (digits base count number).length = count := by
  simp [digits]

theorem digits_lt {base : Nat} (positive : 0 < base) (count number : Nat) :
    ∀ digit ∈ digits base count number, digit < base := by
  intro digit member
  obtain ⟨place, rfl⟩ := (List.mem_ofFn).mp member
  exact Nat.mod_lt _ positive

/-- A long list of digits is cut where the lower digits begin. -/
theorem digits_add (base high low number : Nat) :
    digits base (high + low) number =
      digits base high (number / base ^ low) ++ digits base low number := by
  induction low generalizing number with
  | zero => simp [digits]
  | succ low ih =>
      rw [← Nat.add_assoc, digits_succ, ih, digits_succ, Nat.div_div_eq_div_mul, ← Nat.pow_succ',
        List.append_assoc]

/-- Higher digits do not matter. -/
theorem digits_mod (base count number : Nat) :
    digits base count (number % base ^ count) = digits base count number := by
  induction count generalizing number with
  | zero => simp [digits]
  | succ count ih =>
      rw [digits_succ, digits_succ, Nat.pow_succ', Nat.mod_mul_right_div_self, ih,
        Nat.mod_mul_right_mod]

/-- Digits in a power of a base are groups of digits in that base. -/
theorem digits_flatMap (base width count number : Nat) :
    (digits (base ^ width) count number).flatMap (digits base width) =
      digits base (count * width) number := by
  induction count generalizing number with
  | zero => simp [digits]
  | succ count ih =>
      rw [digits_succ, List.flatMap_append, ih, List.flatMap_singleton, digits_mod, Nat.succ_mul,
        digits_add]

/-- The last digits spell the number up to a power of the base. -/
theorem value_digits (base count number : Nat) :
    value base (digits base count number) = number % base ^ count := by
  induction count generalizing number with
  | zero => simp [digits, value, Nat.mod_one]
  | succ count ih =>
      rw [digits_succ, value_append, ih, Nat.pow_succ', Nat.mod_mul, Nat.mul_comm, Nat.add_comm]

theorem value_lt {base : Nat} (large : 1 < base) {list : List Nat}
    (fits : ∀ digit ∈ list, digit < base) : value base list < base ^ list.length := by
  rw [value_eq_ofDigits, ← List.length_reverse]
  exact Nat.ofDigits_lt_base_pow_length large (by simpa using fits)

/-- Two lists of digits of one length that spell one number are equal. -/
theorem value_injective {base : Nat} (large : 1 < base) {left right : List Nat}
    (sameLength : left.length = right.length) (leftFits : ∀ digit ∈ left, digit < base)
    (rightFits : ∀ digit ∈ right, digit < base) (sameValue : value base left = value base right) :
    left = right := by
  rw [value_eq_ofDigits, value_eq_ofDigits] at sameValue
  have reversed := Nat.ofDigits_inj_of_len_eq large (by simpa using sameLength)
    (by simpa using leftFits) (by simpa using rightFits) sameValue
  exact List.reverse_inj.mp reversed

/-- Small numbers are told apart by their digits. -/
theorem digits_injective {base count left right : Nat} (leftFits : left < base ^ count)
    (rightFits : right < base ^ count) (same : digits base count left = digits base count right) :
    left = right := by
  have sameValue := congrArg (value base) same
  rwa [value_digits, value_digits, Nat.mod_eq_of_lt leftFits, Nat.mod_eq_of_lt rightFits]
    at sameValue

/-- Digits are found again in the number they spell. -/
theorem digits_value {base : Nat} (large : 1 < base) {list : List Nat}
    (fits : ∀ digit ∈ list, digit < base) :
    digits base list.length (value base list) = list := by
  apply value_injective large (length_digits _ _ _) (digits_lt (by omega) _ _) fits
  rw [value_digits, Nat.mod_eq_of_lt (value_lt large fits)]

end SeedVault.Radix
