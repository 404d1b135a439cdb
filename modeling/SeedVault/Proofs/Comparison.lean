/-
Comparing secrets. Every byte is looked at and the differences are gathered in one byte, so the
comparison takes as long wherever they are. No difference cancels another one, and so it decides
equality: of byte strings, of seeds, and of the keys of two seeds.
-/

import SeedVault.Account
import SeedVault.Proofs.Bytes

namespace SeedVault

namespace Bytes

variable {size : Nat} {left right : Bytes size}

/-- The differences of two byte strings at all places, or-ed together. -/
def differences (left right : Bytes size) : UInt8 :=
  (Vector.zipWith (· ^^^ ·) left right).foldl (· ||| ·) 0

theorem same_eq_differences (left right : Bytes size) :
    left.same right = (left.differences right == 0) := rfl

/-- A bit that is set once stays set, whatever is or-ed to it later. -/
theorem testBit_foldl_or (bytes : List UInt8) (start : UInt8) (bit : Nat) :
    (bytes.foldl (· ||| ·) start).toNat.testBit bit =
      (start.toNat.testBit bit || bytes.any fun byte => byte.toNat.testBit bit) := by
  induction bytes generalizing start with
  | nil => simp
  | cons byte bytes ih =>
      rw [List.foldl_cons, ih, UInt8.toNat_or, Nat.testBit_or, Bool.or_assoc, List.any_cons]

/-- A bit of the gathered differences is set exactly if the byte strings differ in it somewhere. -/
theorem testBit_differences_iff {bit : Nat} :
    (left.differences right).toNat.testBit bit = true ↔
      ∃ place : Fin size,
        (left.get place).toNat.testBit bit ≠ (right.get place).toNat.testBit bit := by
  have differs (place : Fin size) :
      ((Vector.zipWith (· ^^^ ·) left right)[place.val]).toNat.testBit bit = true ↔
        (left.get place).toNat.testBit bit ≠ (right.get place).toNat.testBit bit := by
    rw [Vector.getElem_zipWith, UInt8.toNat_xor, Nat.testBit_xor, bne_iff_ne]
    rfl
  rw [differences, ← Vector.foldl_toList, testBit_foldl_or]
  simp only [UInt8.toNat_zero, Nat.zero_testBit, Bool.false_or, List.any_eq_true,
    Vector.mem_toList_iff, Vector.mem_iff_getElem]
  constructor
  · rintro ⟨_, ⟨place, inside, rfl⟩, isSet⟩
    exact ⟨⟨place, inside⟩, (differs ⟨place, inside⟩).mp isSet⟩
  · rintro ⟨place, different⟩
    exact ⟨_, ⟨place, place.isLt, rfl⟩, (differs place).mpr different⟩

end Bytes

theorem Seed.same_iff_eq {left right : Seed} :
    left.same right = true ↔ left.bytes = right.bytes :=
  Bytes.same_iff_eq left.bytes right.bytes

namespace KeyPair

/-- Key pairs are found to be the same exactly if all their parts are. -/
theorem same_iff_eq {left right : KeyPair} : left.same right = true ↔ left = right := by
  cases left
  cases right
  simp only [same, Bool.and_eq_true, beq_iff_eq, Bytes.same_iff_eq, mk.injEq, and_assoc]

/-- The private key begins with the seed. -/
theorem derive_injective {seed other : Seed} (sameKeys : derive seed = derive other) :
    seed.bytes = other.bytes := by
  have begins := congrArg (fun keys => keys.privateKey.toList) sameKeys
  simp only [derive, Vector.toList_append] at begins
  exact (Bytes.append_inj begins).1

end KeyPair

/-- The comparison of secrets decides equality. Its gathered differences have a bit exactly if the
byte strings differ in it at some place, and so it finds them to be the same exactly if they are
equal, whatever their length. Seeds are the same exactly if their bytes are, and their keys are the
same exactly then. -/
theorem Bytes.comparison_decides_equality :
    (∀ (size : Nat) (left right : Bytes size),
      left.same right = (left.differences right == 0) ∧
      (∀ bit, (left.differences right).toNat.testBit bit = true ↔
        ∃ place : Fin size,
          (left.get place).toNat.testBit bit ≠ (right.get place).toNat.testBit bit) ∧
      (left.same right = true ↔ left = right)) ∧
    (∀ left right : Seed, left.same right = true ↔ left.bytes = right.bytes) ∧
    (∀ left right : KeyPair, left.same right = true ↔ left = right) ∧
    ∀ seed other : Seed, (KeyPair.derive seed).same (KeyPair.derive other) = true ↔
      seed.bytes = other.bytes := by
  refine ⟨?bytes, fun _ _ => Seed.same_iff_eq, fun _ _ => KeyPair.same_iff_eq, ?keys⟩
  case bytes =>
    intro size left right
    exact ⟨same_eq_differences left right, fun _ => testBit_differences_iff,
      same_iff_eq left right⟩
  case keys =>
    intro seed other
    rw [KeyPair.same_iff_eq]
    constructor
    · exact KeyPair.derive_injective
    · intro sameBytes
      obtain ⟨bytes⟩ := seed
      obtain ⟨others⟩ := other
      subst sameBytes
      rfl

end SeedVault
