/-
The words of a text. Splitting at white space finds exactly the words that the text is
made of, however much white space stands around and between them.
-/

import SeedVault.Text.Blank

namespace SeedVault.Text

/-- A word is not empty and has no white space in it. -/
def IsWord (word : List Char) : Prop :=
  word ≠ [] ∧ ∀ char ∈ word, isBlank char = false

/-- A text is made of some words, with white space around and between them. -/
inductive Spaced : List (List Char) → List Char → Prop
  | nothing : Spaced [] []
  | blank {words : List (List Char)} {text : List Char} (char : Char) :
      isBlank char = true → Spaced words text → Spaced words (char :: text)
  | word {words : List (List Char)} {text : List Char} (word : List Char) :
      IsWord word → text.head?.all isBlank = true → Spaced words text →
        Spaced (word :: words) (word ++ text)

theorem splitBlank_blank {char : Char} (blank : isBlank char = true) (text : List Char) :
    splitBlank (char :: text) = splitBlank text := by
  rw [splitBlank, if_pos blank]

/-- A word that is followed by white space or by nothing is split off. -/
theorem splitBlank_word {word text : List Char} (isWord : IsWord word)
    (ends : text.head?.all isBlank = true) :
    splitBlank (word ++ text) = word :: splitBlank text := by
  induction word with
  | nil => exact absurd rfl isWord.1
  | cons char rest ih =>
      have solid : ¬ isBlank char = true := by
        rw [isWord.2 char List.mem_cons_self]
        decide
      rw [List.cons_append, splitBlank, if_neg solid]
      cases rest with
      | nil => rw [List.nil_append, if_pos ends]
      | cons next rest =>
          have restIsWord : IsWord (next :: rest) :=
            ⟨List.cons_ne_nil _ _, fun other member => isWord.2 other (List.mem_cons_of_mem _ member)⟩
          have nextSolid := restIsWord.2 next List.mem_cons_self
          rw [if_neg (by simp [nextSolid]), ih restIsWord]
          rfl

/-- A character in front of a word belongs to it. -/
theorem Spaced.extend {words : List (List Char)} {text : List Char} {char : Char}
    (spaced : Spaced words text) (solid : isBlank char = false)
    (joined : ¬ text.head?.all isBlank = true) : Spaced (extendFirst char words) (char :: text) := by
  cases spaced with
  | nothing => exact absurd rfl joined
  | blank first firstBlank spaced => exact absurd firstBlank joined
  | word word isWord ends spaced =>
      refine Spaced.word (char :: word) ⟨List.cons_ne_nil _ _, ?_⟩ ends spaced
      intro other member
      rcases List.mem_cons.mp member with rfl | member
      · exact solid
      · exact isWord.2 other member

theorem spaced_splitBlank (text : List Char) : Spaced (splitBlank text) text := by
  induction text with
  | nil => exact Spaced.nothing
  | cons char rest ih =>
      rw [splitBlank]
      split
      · rename_i blank
        exact Spaced.blank char blank ih
      · rename_i solid
        have solid' : isBlank char = false := Bool.eq_false_iff.mpr solid
        split
        · rename_i ends
          refine Spaced.word [char] ⟨List.cons_ne_nil _ _, ?_⟩ ends ih
          intro other member
          rw [List.mem_singleton.mp member]
          exact solid'
        · rename_i joined
          exact ih.extend solid' joined

/-- Splitting finds exactly the words of which a text is made. -/
theorem splitBlank_eq_iff (text : List Char) (words : List (List Char)) :
    splitBlank text = words ↔ Spaced words text := by
  constructor
  · rintro rfl
    exact spaced_splitBlank text
  · intro spaced
    induction spaced with
    | nothing => rfl
    | blank char blank _ ih => rw [splitBlank_blank blank, ih]
    | word word isWord ends _ ih => rw [splitBlank_word isWord ends, ih]

/-- The words of a text, as texts. -/
theorem words_eq_iff (text : String) (list : List String) :
    words text = list ↔ Spaced (list.map String.toList) text.toList := by
  rw [← splitBlank_eq_iff, words]
  constructor
  · rintro rfl
    simp [Function.comp_def]
  · intro split
    simp [split, Function.comp_def]

/-- Words joined by single spaces are spaced. -/
theorem spaced_intercalate {list : List (List Char)} (areWords : ∀ word ∈ list, IsWord word) :
    Spaced list ([' '].intercalate list) := by
  induction list with
  | nil => exact Spaced.nothing
  | cons word rest ih =>
      have isWord := areWords word List.mem_cons_self
      have restSpaced := ih fun other member => areWords other (List.mem_cons_of_mem _ member)
      cases rest with
      | nil =>
          have alone := Spaced.word word isWord rfl Spaced.nothing
          rw [List.intercalate_singleton]
          rwa [List.append_nil] at alone
      | cons next rest =>
          rw [List.intercalate_cons_cons, List.append_assoc]
          exact Spaced.word word isWord rfl (Spaced.blank ' ' rfl restSpaced)

/-- Joining words by single spaces and splitting again gives the words back. -/
theorem words_intercalate {list : List String} (areWords : ∀ word ∈ list, IsWord word.toList) :
    words (" ".intercalate list) = list := by
  rw [words_eq_iff, String.toList_intercalate]
  apply spaced_intercalate
  intro word member
  obtain ⟨text, present, rfl⟩ := List.mem_map.mp member
  exact areWords text present

end SeedVault.Text
