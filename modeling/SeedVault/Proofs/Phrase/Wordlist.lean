/-
The English word list has no word twice, and its words are made of small letters. So a
word and its place determine each other, and joined words can be told apart again.
-/

import SeedVault.Phrase.Wordlist
import SeedVault.Proofs.Text.Utf8
import SeedVault.Proofs.Text.Words
import Mathlib.Data.List.Nodup

namespace SeedVault.Wordlist

/-- The bytes of a word. -/
def codes (word : String) : List UInt8 := word.toByteArray.data.toList

/-- Whether words are made of small letters, each word coming after the one before it. -/
def isOrdered : (last : List UInt8) → List String → Bool
  | _, [] => true
  | last, word :: rest =>
    decide (last < codes word) && (codes word).all (fun code => 97 ≤ code && code ≤ 122) &&
      isOrdered (codes word) rest

/-- The kernel compares each word of the list with the next one. -/
theorem english_isOrdered : isOrdered [] english.toList = true := by decide +kernel

theorem codes_eq_utf8 (word : String) : codes word = Text.utf8 word := by
  rw [codes, Text.utf8]
  conv => lhs; rw [← String.ofList_toList (s := word), String.toByteArray_ofList]
  rw [List.utf8Encode, List.data_toByteArray]

/-- Ordered words come after all words before them. -/
theorem pairwise_of_isOrdered {last : List UInt8} {list : List String}
    (ordered : isOrdered last list = true) :
    (∀ word ∈ list, last < codes word) ∧ list.Pairwise (fun left right => codes left < codes right) := by
  induction list generalizing last with
  | nil => simp
  | cons word rest ih =>
      simp only [isOrdered, Bool.and_eq_true, decide_eq_true_eq] at ordered
      obtain ⟨⟨later, _⟩, restOrdered⟩ := ordered
      obtain ⟨above, pairwise⟩ := ih restOrdered
      refine ⟨?_, List.pairwise_cons.mpr ⟨above, pairwise⟩⟩
      intro other member
      rcases List.mem_cons.mp member with rfl | member
      · exact later
      · exact List.lt_trans later (above other member)

theorem letters_of_isOrdered {last : List UInt8} {list : List String}
    (ordered : isOrdered last list = true) :
    ∀ word ∈ list, ∀ code ∈ codes word, 97 ≤ code ∧ code ≤ 122 := by
  induction list generalizing last with
  | nil => simp
  | cons word rest ih =>
      simp only [isOrdered, Bool.and_eq_true, List.all_eq_true, decide_eq_true_eq] at ordered
      intro other member
      rcases List.mem_cons.mp member with rfl | member
      · exact ordered.1.2
      · exact ih ordered.2 other member

/-- No two places of the list hold the same word. -/
theorem english_nodup : english.toList.Nodup := by
  apply (pairwise_of_isOrdered english_isOrdered).2.imp
  intro left right before same
  rw [same] at before
  exact List.lt_irrefl _ before

/-- In a list without repetitions an item is found at its place and nowhere else. -/
theorem finIdxOf?_eq_some_iff {count : Nat} {list : Vector String count}
    (distinct : list.toList.Nodup) {text : String} {index : Fin count} :
    list.finIdxOf? text = some index ↔ list[index] = text := by
  rcases list with ⟨list, rfl⟩
  rw [Vector.finIdxOf?, Option.map_eq_some_iff]
  constructor
  · rintro ⟨found, present, rfl⟩
    exact (Array.finIdxOf?_eq_some_iff.mp present).1
  · intro same
    refine ⟨index, Array.finIdxOf?_eq_some_iff.mpr ⟨same, ?_⟩, rfl⟩
    intro earlier before sameText
    have samePlace : earlier = index := distinct.injective_get (sameText.trans same.symm)
    rw [samePlace] at before
    exact Nat.lt_irrefl _ before

/-- An item is found exactly if it is in the list. -/
theorem isSome_finIdxOf?_iff {count : Nat} {list : Vector String count} {text : String} :
    (list.finIdxOf? text).isSome = true ↔ text ∈ list.toList := by
  rcases list with ⟨list, rfl⟩
  rw [Vector.finIdxOf?, Option.isSome_map, Array.isSome_finIdxOf?, Array.contains_iff_mem]
  exact Array.mem_def

theorem index?_eq_some_iff {text : String} {index : Fin 2048} :
    index? text = some index ↔ word index = text :=
  finIdxOf?_eq_some_iff english_nodup

theorem index?_word (index : Fin 2048) : index? (word index) = some index :=
  index?_eq_some_iff.mpr rfl

/-- A text has a place in the list exactly if it is one of its words. -/
theorem isSome_index?_iff {text : String} : (index? text).isSome = true ↔ text ∈ english.toList :=
  isSome_finIdxOf?_iff

/-- A character whose bytes are small letters is one. -/
theorem toNat_of_letters {char : Char}
    (letters : ∀ code ∈ String.utf8EncodeChar char, 97 ≤ code ∧ code ≤ 122) :
    97 ≤ char.toNat ∧ char.toNat ≤ 122 := by
  have small : char.toNat < 128 := Text.toNat_lt_of_utf8EncodeChar fun code member =>
    UInt8.lt_of_le_of_lt (letters code member).2 (by decide)
  rw [Text.utf8EncodeChar_of_lt small] at letters
  have range := letters _ List.mem_cons_self
  rw [UInt8.le_iff_toNat_le, UInt8.le_iff_toNat_le, UInt8.toNat_ofNat'] at range
  change 97 ≤ char.toNat % 256 ∧ char.toNat % 256 ≤ 122 at range
  omega

theorem word_mem (index : Fin 2048) : word index ∈ english.toList :=
  isSome_index?_iff.mp (by rw [index?_word]; rfl)

/-- The words are made of small letters. -/
theorem letters_word (index : Fin 2048) :
    ∀ char ∈ (word index).toList, 97 ≤ char.toNat ∧ char.toNat ≤ 122 := by
  intro char present
  have letters := letters_of_isOrdered english_isOrdered _ (word_mem index)
  rw [codes_eq_utf8, Text.utf8] at letters
  exact toNat_of_letters fun code inside =>
    letters code (List.mem_flatMap.mpr ⟨char, present, inside⟩)

/-- No byte of a word is one of white space. -/
theorem isWord_word (index : Fin 2048) : Text.IsWord (word index).toList := by
  constructor
  · intro empty
    have later := (pairwise_of_isOrdered english_isOrdered).1 _ (word_mem index)
    rw [codes_eq_utf8, Text.utf8, empty] at later
    exact List.not_lt_nil _ later
  · intro char present
    have range := letters_word index char present
    rw [Bool.eq_false_iff]
    intro blank
    simp only [Text.isBlank, Bool.or_eq_true, Bool.and_eq_true, decide_eq_true_eq, beq_iff_eq]
      at blank
    omega

end SeedVault.Wordlist
