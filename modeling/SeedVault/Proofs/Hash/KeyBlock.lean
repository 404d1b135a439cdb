/-
Secrets as blocks of a keyed tag. A secret is hashed if it is longer than a block and then
filled up with zeros, so different secrets may become one block and thereby one key.
-/

import SeedVault.Hash.Hmac

namespace SeedVault.Hmac

open Sha2

/-- Two byte strings are the same but for zeros at the end of one of them. -/
def SameButZeros (left right : List UInt8) : Prop :=
  ∃ count, left = right ++ List.replicate count 0 ∨ right = left ++ List.replicate count 0

/-- Byte strings that are filled up to one length are equal exactly if they were the same but
for zeros. -/
theorem append_zeros_eq_iff {size : Nat} {left right : List UInt8} (leftFits : left.length ≤ size)
    (rightFits : right.length ≤ size) :
    left ++ List.replicate (size - left.length) 0 =
        right ++ List.replicate (size - right.length) 0 ↔ SameButZeros left right := by
  constructor
  · intro same
    rcases Nat.le_total left.length right.length with shorter | shorter
    · refine ⟨right.length - left.length, .inr ?_⟩
      have front := congrArg (List.take right.length) same
      rw [List.take_left, List.take_append, List.take_of_length_le shorter, List.take_replicate,
        Nat.min_eq_left (by omega)] at front
      exact front.symm
    · refine ⟨left.length - right.length, .inl ?_⟩
      have front := congrArg (List.take left.length) same
      rw [List.take_left, List.take_append, List.take_of_length_le shorter, List.take_replicate,
        Nat.min_eq_left (by omega)] at front
      exact front
  · rintro ⟨count, rfl | rfl⟩
    all_goals
      rw [List.append_assoc, List.replicate_append_replicate, List.length_append,
        List.length_replicate]
      rw [List.length_append, List.length_replicate] at *
      congr 2
      omega

variable {Word : Type} [family : Family Word]

/-- What is filled up with zeros: the secret itself, or its hash if it is longer than a
block. -/
def shortened (Word : Type) [Family Word] (secret : List UInt8) : List UInt8 :=
  if secret.length > blockSize Word then (hash Word secret).toList else secret

theorem shortened_of_le {secret : List UInt8} (fits : secret.length ≤ blockSize Word) :
    shortened Word secret = secret :=
  if_neg (Nat.not_lt.mpr fits)

theorem length_shortened_le (secret : List UInt8) :
    (shortened Word secret).length ≤ blockSize Word := by
  unfold shortened
  split
  · rw [Vector.length_toList, blockSize]
    omega
  · rename_i fits
    exact Nat.not_lt.mp fits

/-- Two secrets become one block exactly if what is filled up is the same but for zeros. -/
theorem keyBlock_eq_iff (left right : List UInt8) :
    keyBlock Word left = keyBlock Word right ↔
      SameButZeros (shortened Word left) (shortened Word right) :=
  append_zeros_eq_iff (length_shortened_le left) (length_shortened_le right)

/-- A key is made from the block of its secret. -/
theorem Key.ofSecret_eq_of_keyBlock_eq {left right : List UInt8}
    (same : keyBlock Word left = keyBlock Word right) : ofSecret Word left = ofSecret Word right := by
  rw [ofSecret, ofSecret, same]

end SeedVault.Hmac
