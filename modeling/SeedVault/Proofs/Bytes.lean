/-
Byte strings as lists, as numbers and as masks. A byte string is one list of its length
and one number below a power of 256, and masking twice gives back what was masked.
-/

import SeedVault.Bytes
import SeedVault.Proofs.Radix
import SeedVault.Random.Entropy

namespace SeedVault

namespace Bytes

theorem toList_injective {size : Nat} {left right : Bytes size}
    (sameList : left.toList = right.toList) : left = right :=
  Vector.toList_inj.mp sameList

/-- Two byte strings of one length that begin the same tape are equal. -/
theorem append_inj {size : Nat} {left right : Bytes size} {rest other : List UInt8}
    (same : left.toList ++ rest = right.toList ++ other) : left = right ∧ rest = other := by
  have parts := List.append_inj same (by rw [Vector.length_toList, Vector.length_toList])
  exact ⟨toList_injective parts.1, parts.2⟩

/-- A tape that begins with two byte strings is at least as long as both. -/
theorem add_le_length {size next : Nat} {first : Bytes size} {second : Bytes next}
    {tape rest : List UInt8} (begins : tape = first.toList ++ (second.toList ++ rest)) :
    size + next ≤ tape.length := by
  rw [begins, List.length_append, List.length_append, Vector.length_toList, Vector.length_toList]
  omega

/-- A list is a byte string exactly if it has the right length. -/
theorem ofList?_eq_some_iff {size : Nat} {list : List UInt8} {bytes : Bytes size} :
    ofList? list = some bytes ↔ bytes.toList = list := by
  unfold ofList?
  split
  · rename_i fits
    rw [Option.some_inj]
    constructor
    · rintro rfl
      rfl
    · intro same
      apply toList_injective
      rw [same]
      rfl
  · rename_i misfit
    constructor
    · intro absurdity
      cases absurdity
    · intro same
      exact absurd (same ▸ bytes.length_toList) misfit

theorem ofList?_eq_none_iff {size : Nat} {list : List UInt8} :
    (ofList? list : Option (Bytes size)) = none ↔ list.length ≠ size := by
  unfold ofList?
  split <;> simp_all

theorem valueOf_eq_value (bytes : List UInt8) :
    valueOf bytes = Radix.value 256 (bytes.map UInt8.toNat) := by
  rw [Radix.value, List.foldl_map]
  rfl

theorem toNat_fits (bytes : List UInt8) : ∀ digit ∈ bytes.map UInt8.toNat, digit < 256 := by
  intro digit member
  obtain ⟨byte, _, rfl⟩ := List.mem_map.mp member
  exact byte.toNat_lt

theorem toNat_lt {size : Nat} (bytes : Bytes size) : bytes.toNat < 256 ^ size := by
  have bounded := Radix.value_lt (by decide) (toNat_fits bytes.toList)
  rwa [← valueOf_eq_value, List.length_map, Vector.length_toList] at bounded

/-- The bytes of a number are its digits in base 256. -/
theorem map_toNat_ofNat (size value : Nat) :
    (ofNat size value).toList.map UInt8.toNat = Radix.digits 256 size value := by
  rw [ofNat, Vector.toList_ofFn, List.map_ofFn, Radix.digits]
  apply congrArg List.ofFn
  funext place
  simp only [Function.comp_apply, Nat.toUInt8, UInt8.toNat_ofNat', Nat.shiftRight_eq_div_pow,
    Nat.pow_mul]

theorem toNat_ofNat (size value : Nat) : (ofNat size value).toNat = value % 256 ^ size := by
  rw [toNat, valueOf_eq_value, map_toNat_ofNat, Radix.value_digits]

/-- Two byte strings of one length that spell one number are equal. -/
theorem toNat_injective {size : Nat} {left right : Bytes size}
    (sameValue : left.toNat = right.toNat) : left = right := by
  rw [toNat, toNat, valueOf_eq_value, valueOf_eq_value] at sameValue
  have sameDigits := Radix.value_injective (by decide) (by simp) (toNat_fits left.toList)
    (toNat_fits right.toList) sameValue
  apply toList_injective
  exact (List.map_inj_right fun _ _ => UInt8.toNat_inj.mp).mp sameDigits

theorem ofNat_toNat {size : Nat} (bytes : Bytes size) : ofNat size bytes.toNat = bytes := by
  apply toNat_injective
  rw [toNat_ofNat, Nat.mod_eq_of_lt bytes.toNat_lt]

theorem xor_xor_cancel {size : Nat} (left right : Bytes size) :
    (left.xor right).xor right = left := by
  apply Vector.ext
  intro index inRange
  simp only [xor, Vector.getElem_zipWith, UInt8.xor_assoc, UInt8.xor_self, UInt8.xor_zero]

/-- Byte strings are equal exactly if they are at every place. -/
theorem eq_iff_get {size : Nat} {left right : Bytes size} :
    left = right ↔ ∀ place : Fin size, left.get place = right.get place := by
  rw [Vector.ext_iff, Fin.forall_iff]
  rfl

/-- A disjunction of bytes is zero only if all of them are. -/
theorem foldl_or_eq_zero_iff (bytes : List UInt8) (start : UInt8) :
    bytes.foldl (· ||| ·) start = 0 ↔ start = 0 ∧ ∀ byte ∈ bytes, byte = 0 := by
  induction bytes generalizing start with
  | nil => simp
  | cons byte rest ih =>
      rw [List.foldl_cons, ih, List.forall_mem_cons, ← and_assoc, UInt8.or_eq_zero_iff]

/-- The or-ed differences vanish exactly between equal byte strings. -/
theorem same_iff_eq {size : Nat} (left right : Bytes size) :
    left.same right = true ↔ left = right := by
  rw [same, beq_iff_eq, ← Vector.foldl_toList, foldl_or_eq_zero_iff]
  constructor
  · rintro ⟨_, zeros⟩
    apply Vector.ext
    intro index inRange
    have difference := zeros (left[index] ^^^ right[index]) (by
      rw [Vector.mem_toList_iff, Vector.mem_iff_getElem]
      exact ⟨index, inRange, by rw [Vector.getElem_zipWith]⟩)
    exact UInt8.xor_eq_zero_iff.mp difference
  · rintro rfl
    refine ⟨rfl, ?_⟩
    intro byte member
    rw [Vector.mem_toList_iff, Vector.mem_iff_getElem] at member
    obtain ⟨index, inRange, rfl⟩ := member
    rw [Vector.getElem_zipWith, UInt8.xor_self]

end Bytes

/-- A draw takes the front of the tape. -/
theorem takeBytes?_eq_some_iff {size : Nat} {tape rest : List UInt8} {bytes : Bytes size} :
    takeBytes? size tape = some (bytes, rest) ↔ tape = bytes.toList ++ rest := by
  rw [takeBytes?, Option.map_eq_some_iff]
  constructor
  · rintro ⟨taken, present, same⟩
    cases same
    rw [Bytes.ofList?_eq_some_iff.mp present, List.take_append_drop]
  · rintro rfl
    refine ⟨bytes, Bytes.ofList?_eq_some_iff.mpr ?_, ?_⟩
    · simp
    · simp

/-- A draw fails exactly if the tape is too short. -/
theorem takeBytes?_eq_none_iff {size : Nat} {tape : List UInt8} :
    takeBytes? size tape = none ↔ tape.length < size := by
  rw [takeBytes?, Option.map_eq_none_iff, Bytes.ofList?_eq_none_iff, List.length_take]
  omega

end SeedVault
