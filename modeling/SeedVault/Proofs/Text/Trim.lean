/-
Trimming a text. White space at the ends of a text does not change its words: trimming drops
all of a text without words, and it leaves the word of a text with only one.
-/

import SeedVault.Proofs.Text.Words
import Mathlib.Data.List.TakeWhile

namespace SeedVault.Text

/-- White space may follow a text. -/
theorem Spaced.append {words : List (List Char)} {text blanks : List Char}
    (spaced : Spaced words text) (blank : ∀ char ∈ blanks, isBlank char = true) :
    Spaced words (text ++ blanks) := by
  induction spaced with
  | nothing =>
      rw [List.nil_append]
      induction blanks with
      | nil => exact .nothing
      | cons char rest ih =>
          rw [List.forall_mem_cons] at blank
          exact .blank char blank.1 (ih blank.2)
  | blank char isBlank _ ih => exact .blank char isBlank ih
  | @word _ text word isWord ends _ ih =>
      rw [List.append_assoc]
      refine .word word isWord ?_ ih
      cases text with
      | nil =>
          cases blanks with
          | nil => rfl
          | cons char rest => exact blank char List.mem_cons_self
      | cons char rest => exact ends

/-- A text without words is white space. -/
theorem Spaced.isBlank_of_nil {text : List Char} (spaced : Spaced [] text) :
    ∀ char ∈ text, isBlank char = true := by
  generalize none : ([] : List (List Char)) = words at spaced
  induction spaced with
  | nothing => exact fun _ member => absurd member List.not_mem_nil
  | blank char blank _ ih => exact List.forall_mem_cons.mpr ⟨blank, ih none⟩
  | word => cases none

/-- A text with one word is that word between white space. -/
theorem Spaced.exists_of_singleton {word text : List Char} (spaced : Spaced [word] text) :
    ∃ before after, text = before ++ word ++ after ∧ IsWord word ∧
      (∀ char ∈ before, isBlank char = true) ∧ ∀ char ∈ after, isBlank char = true := by
  generalize only : [word] = words at spaced
  induction spaced with
  | nothing => cases only
  | blank char blank _ ih =>
      obtain ⟨before, after, rfl, isWord, blankBefore, blankAfter⟩ := ih only
      exact ⟨char :: before, after, rfl, isWord, List.forall_mem_cons.mpr ⟨blank, blankBefore⟩,
        blankAfter⟩
  | @word _ after _ isWord _ rest _ =>
      obtain ⟨rfl, rfl⟩ := List.cons_eq_cons.mp only
      exact ⟨[], after, rfl, isWord, fun _ member => absurd member List.not_mem_nil,
        rest.isBlank_of_nil⟩

/-- Trimming cuts off white space and nothing else. -/
theorem exists_trimChars (text : List Char) :
    ∃ before after, text = before ++ trimChars text ++ after ∧
      (∀ char ∈ before, isBlank char = true) ∧ ∀ char ∈ after, isBlank char = true := by
  refine ⟨text.takeWhile isBlank, ((text.dropWhile isBlank).reverse.takeWhile isBlank).reverse,
    ?_, fun _ member => List.mem_takeWhile_imp member, ?_⟩
  · rw [List.append_assoc, trimChars, ← List.reverse_append, List.takeWhile_append_dropWhile,
      List.reverse_reverse, List.takeWhile_append_dropWhile]
  · intro char member
    exact List.mem_takeWhile_imp (List.mem_reverse.mp member)

theorem spaced_prepend {words : List (List Char)} {before text : List Char}
    (blank : ∀ char ∈ before, isBlank char = true) (spaced : Spaced words text) :
    Spaced words (before ++ text) := by
  induction before with
  | nil => exact spaced
  | cons char rest ih =>
      rw [List.forall_mem_cons] at blank
      exact .blank char blank.1 (ih blank.2)

/-- The words of a trimmed text are those of the text. -/
theorem words_trim (text : String) : words (trim text) = words text := by
  obtain ⟨before, after, parts, blankBefore, blankAfter⟩ := exists_trimChars text.toList
  have trimmed := (words_eq_iff (trim text) _).mp rfl
  rw [trim, String.toList_ofList] at trimmed
  symm
  rw [words_eq_iff, parts]
  exact (spaced_prepend blankBefore trimmed).append blankAfter

/-- Nothing is left of white space. -/
theorem trim_of_words_nil {text : String} (none : words text = []) : trim text = "" := by
  have blank := ((words_eq_iff text []).mp none).isBlank_of_nil
  rw [trim, trimChars, List.dropWhile_eq_nil_iff.mpr blank]
  rfl

theorem dropWhile_isBlank_word {word : List Char} (isWord : IsWord word) (after : List Char) :
    (word ++ after).dropWhile isBlank = word ++ after := by
  cases word with
  | nil => exact absurd rfl isWord.1
  | cons char rest =>
      rw [List.cons_append, List.dropWhile_cons_of_neg]
      rw [isWord.2 char List.mem_cons_self]
      exact Bool.false_ne_true

theorem IsWord.reverse {word : List Char} (isWord : IsWord word) : IsWord word.reverse :=
  ⟨by simpa using isWord.1, fun char member => isWord.2 char (List.mem_reverse.mp member)⟩

/-- The word is left of a text with one word. -/
theorem trim_of_words_singleton {text word : String} (only : words text = [word]) :
    trim text = word := by
  obtain ⟨before, after, parts, isWord, blankBefore, blankAfter⟩ :=
    ((words_eq_iff text [word]).mp only).exists_of_singleton
  have front : (before ++ word.toList ++ after).dropWhile isBlank = word.toList ++ after := by
    rw [List.append_assoc, List.dropWhile_append_of_pos blankBefore, dropWhile_isBlank_word isWord]
  have back : (after.reverse ++ word.toList.reverse).dropWhile isBlank = word.toList.reverse := by
    have alone := dropWhile_isBlank_word isWord.reverse []
    rw [List.append_nil] at alone
    rw [List.dropWhile_append_of_pos fun char member => blankAfter char (List.mem_reverse.mp member),
      alone]
  rw [trim, trimChars, parts, front, List.reverse_append, back, List.reverse_reverse,
    String.ofList_toList]

end SeedVault.Text
