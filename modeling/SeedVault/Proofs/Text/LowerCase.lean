/-
Lower case, compared with a text of small letters. Of the characters beyond ASCII only two become
something with an ASCII letter in it, so the comparison comes out as with all of Unicode.
-/

import SeedVault.Proofs.Text.Ascii
import SeedVault.Proofs.Text.Trim
import SeedVault.Text.LowerCase
import Mathlib.Data.List.Forall2

namespace SeedVault.Text

/-- What a character can become in lower case, as far as an ASCII text can tell. -/
inductive Lowers : Char → List Char → Prop
  | ascii {char : Char} : char.toNat < 128 → Lowers char [char.toLower]
  | kelvin : Lowers '\u212a' ['k']
  | dotted : Lowers '\u0130' ['i', '\u0307']
  | other {char : Char} {image : List Char} :
      128 ≤ char.toNat → char ≠ '\u212a' → char ≠ '\u0130' →
        image ≠ [] → (∀ letter ∈ image, 128 ≤ letter.toNat) → Lowers char image

/-- A function puts texts in lower case. What becomes of a character may depend on those around
it. -/
def IsLowerCase (lowerCase : String → String) : Prop :=
  ∀ text, ∃ images, List.Forall₂ Lowers text.toList images ∧
    (lowerCase text).toList = images.flatten

/-- Only the capitals of ASCII have a small letter, 32 places after them. -/
theorem toLower_cases (char : Char) :
    char.toLower = char ∨
      65 ≤ char.toNat ∧ char.toNat ≤ 90 ∧ char.toLower.toNat = char.toNat + 32 := by
  by_cases capital : char.val ≥ 'A'.val ∧ char.val ≤ 'Z'.val
  · have range : 65 ≤ char.toNat ∧ char.toNat ≤ 90 := capital
    have lowered : char.toLower.val = char.val + 32 := congrArg Char.val (dif_pos capital)
    refine .inr ⟨range.1, range.2, ?_⟩
    change char.toLower.val.toNat = char.toNat + 32
    rw [lowered, UInt32.toNat_add]
    change (char.toNat + 32) % 2 ^ 32 = char.toNat + 32
    omega
  · exact .inl (dif_neg capital)

theorem toLower_of_le {char : Char} (large : 128 ≤ char.toNat) : char.toLower = char := by
  rcases toLower_cases char with same | ⟨_, small, _⟩
  · exact same
  · omega

theorem lowers_lowerChar (char : Char) : Lowers char (lowerChar char) := by
  rw [lowerChar]
  split
  · rename_i kelvin
    rw [kelvin]
    exact .kelvin
  split
  · rename_i dotted
    rw [dotted]
    exact .dotted
  rename_i notKelvin notDotted
  rcases Nat.lt_or_ge char.toNat 128 with small | large
  · exact .ascii small
  · refine .other large notKelvin notDotted (List.cons_ne_nil _ _) ?_
    rw [toLower_of_le large]
    exact List.forall_mem_singleton.mpr large

theorem isLowerCase_lower : IsLowerCase lower := by
  intro text
  refine ⟨text.toList.map lowerChar, ?_, ?_⟩
  · rw [List.forall₂_map_right_iff, List.forall₂_same]
    exact fun char _ => lowers_lowerChar char
  · rw [lower, String.toList_ofList, List.flatMap_def]

/-- All that a character can become is the same, or nothing of it is an ASCII text. -/
theorem Lowers.eq_or_not_isAscii {char : Char} {image : List Char} (lowers : Lowers char image) :
    image = lowerChar char ∨ ¬ IsAscii image ∧ ¬ IsAscii (lowerChar char) := by
  cases lowers with
  | ascii small =>
      left
      rw [lowerChar, if_neg, if_neg]
      · rintro rfl
        exact absurd small (by decide)
      · rintro rfl
        exact absurd small (by decide)
  | kelvin => exact .inl rfl
  | dotted => exact .inl rfl
  | other large notKelvin notDotted filled letters =>
      right
      constructor
      · intro ascii
        obtain ⟨letter, member⟩ := List.exists_mem_of_ne_nil _ filled
        exact Nat.not_lt.mpr (letters letter member) (ascii letter member)
      · rw [lowerChar, if_neg notKelvin, if_neg notDotted, toLower_of_le large]
        exact fun ascii => Nat.not_lt.mpr large (ascii char List.mem_cons_self)

theorem flatten_eq_or_not_isAscii {chars : List Char} {images : List (List Char)}
    (lowers : List.Forall₂ Lowers chars images) :
    images.flatten = chars.flatMap lowerChar ∨
      ¬ IsAscii images.flatten ∧ ¬ IsAscii (chars.flatMap lowerChar) := by
  induction lowers with
  | nil => exact .inl rfl
  | cons first _ ih =>
      rw [List.flatten_cons, List.flatMap_cons, IsAscii.append_iff, IsAscii.append_iff]
      rcases first.eq_or_not_isAscii with same | ⟨noImage, noLower⟩
      · rcases ih with sameRest | ⟨noImages, noLowers⟩
        · exact .inl (by rw [same, sameRest])
        · exact .inr ⟨fun both => noImages both.2, fun both => noLowers both.2⟩
      · exact .inr ⟨fun both => noImage both.1, fun both => noLower both.1⟩

/-- For a comparison with an ASCII text the lower case of a text is as good as any. -/
theorem IsLowerCase.eq_iff {lowerCase : String → String} (isLowerCase : IsLowerCase lowerCase)
    {text target : String} (ascii : IsAscii target.toList) :
    lowerCase text = target ↔ lower text = target := by
  obtain ⟨images, lowers, spelled⟩ := isLowerCase text
  rw [← String.toList_inj, ← String.toList_inj, lower, String.toList_ofList, spelled]
  rcases flatten_eq_or_not_isAscii lowers with same | ⟨noImages, noLowers⟩
  · rw [same]
  · constructor
    · rintro spells
      exact absurd (spells ▸ ascii) noImages
    · rintro spells
      exact absurd (spells ▸ ascii) noLowers

/-- A character of which the lower case is a given letter: the letter, its capital, or the Kelvin
sign. -/
def IsCaseOf (letter char : Char) : Prop :=
  char.toLower = letter ∨ letter = 'k' ∧ char = '\u212a'

theorem lowerChar_append_eq_iff {letter char : Char} {letters rest : List Char}
    (ascii : IsAscii (letter :: letters)) :
    lowerChar char ++ rest = letter :: letters ↔ IsCaseOf letter char ∧ rest = letters := by
  obtain ⟨small, smalls⟩ := IsAscii.cons_iff.mp ascii
  have unchanged (large : 128 ≤ char.toNat) : char.toLower ≠ letter := by
    rw [toLower_of_le large]
    rintro rfl
    exact Nat.not_lt.mpr large small
  rw [lowerChar, IsCaseOf]
  split
  · rename_i kelvin
    have onlyK : char.toLower = letter ∨ letter = 'k' ∧ char = '\u212a' ↔ 'k' = letter := by
      rw [or_iff_right (unchanged (kelvin ▸ by decide)), and_iff_left kelvin, eq_comm]
    rw [onlyK, List.singleton_append, List.cons_eq_cons]
  split
  · rename_i notKelvin dotted
    have noLetter : ¬ (char.toLower = letter ∨ letter = 'k' ∧ char = '\u212a') := by
      rw [or_iff_right (unchanged (dotted ▸ by decide))]
      exact fun kelvin => notKelvin kelvin.2
    refine iff_of_false (fun spells => ?_) fun both => noLetter both.1
    obtain ⟨_, rfl⟩ := List.cons_eq_cons.mp spells
    exact absurd (smalls '\u0307' List.mem_cons_self) (by decide)
  · rename_i notKelvin _
    rw [List.singleton_append, List.cons_eq_cons, or_iff_left fun kelvin => notKelvin kelvin.2]

theorem flatMap_lowerChar_eq_iff {letters chars : List Char} (ascii : IsAscii letters) :
    chars.flatMap lowerChar = letters ↔ List.Forall₂ IsCaseOf letters chars := by
  induction chars generalizing letters with
  | nil => rw [List.flatMap_nil, List.forall₂_nil_right_iff, eq_comm]
  | cons char chars ih =>
      rw [List.flatMap_cons]
      cases letters with
      | nil =>
          have filled : lowerChar char ≠ [] := by
            rw [lowerChar]
            split
            · exact List.cons_ne_nil _ _
            · split <;> exact List.cons_ne_nil _ _
          exact iff_of_false (fun empty => filled (List.append_eq_nil_iff.mp empty).1) nofun
      | cons letter letters =>
          rw [lowerChar_append_eq_iff ascii, ih (IsAscii.cons_iff.mp ascii).2, List.forall₂_cons]

/-- A small letter of either case is no white space. -/
theorem IsCaseOf.isBlank_eq_false {letter char : Char} (isCase : IsCaseOf letter char)
    (small : 97 ≤ letter.toNat ∧ letter.toNat ≤ 122) : isBlank char = false := by
  rcases isCase with lowered | ⟨_, rfl⟩
  · rw [Bool.eq_false_iff]
    intro blank
    simp only [isBlank, Bool.or_eq_true, Bool.and_eq_true, decide_eq_true_eq, beq_iff_eq] at blank
    have code := congrArg Char.toNat lowered
    rcases toLower_cases char with same | capital
    · rw [same] at code
      omega
    · omega
  · decide

theorem isWord_of_forall₂ {letters spelled : List Char} (filled : letters ≠ [])
    (small : ∀ letter ∈ letters, 97 ≤ letter.toNat ∧ letter.toNat ≤ 122)
    (cases : List.Forall₂ IsCaseOf letters spelled) : IsWord spelled := by
  constructor
  · rintro rfl
    exact filled (List.forall₂_nil_right_iff.mp cases)
  · clear filled
    induction cases with
    | nil => exact fun _ member => absurd member List.not_mem_nil
    | cons first _ ih =>
        obtain ⟨smallFirst, smallRest⟩ := List.forall_mem_cons.mp small
        exact List.forall_mem_cons.mpr ⟨first.isBlank_eq_false smallFirst, ih smallRest⟩

/-- A text spells a word: its letters are of either case, and there may be white space around
them. -/
def IsSpelling (word text : String) : Prop :=
  ∃ before spelled after, text.toList = before ++ (spelled ++ after) ∧
    (∀ char ∈ before, isBlank char = true) ∧ (∀ char ∈ after, isBlank char = true) ∧
    List.Forall₂ IsCaseOf word.toList spelled

/-- A word between white space is all that is left by trimming. -/
theorem trim_of_toList_eq {text : String} {before word after : List Char}
    (parts : text.toList = before ++ (word ++ after)) (isWord : IsWord word)
    (blankBefore : ∀ char ∈ before, isBlank char = true)
    (blankAfter : ∀ char ∈ after, isBlank char = true) :
    (trim text).toList = word := by
  have alone : Spaced [word] (word ++ []) := .word word isWord rfl .nothing
  rw [List.append_nil] at alone
  have only : words text = [String.ofList word] := by
    rw [words_eq_iff, parts, List.map_singleton, String.toList_ofList]
    exact spaced_prepend blankBefore (alone.append blankAfter)
  rw [trim_of_words_singleton only, String.toList_ofList]

/-- What is left by trimming is a word in lower case exactly if the text spells the word. -/
theorem lower_trim_eq_iff {word text : String} (filled : word.toList ≠ [])
    (letters : ∀ letter ∈ word.toList, 97 ≤ letter.toNat ∧ letter.toNat ≤ 122) :
    lower (trim text) = word ↔ IsSpelling word text := by
  have ascii : IsAscii word.toList := fun letter member => by
    have range := letters letter member
    omega
  have spells (chars : List Char) :
      chars.flatMap lowerChar = word.toList ↔ List.Forall₂ IsCaseOf word.toList chars :=
    flatMap_lowerChar_eq_iff ascii
  rw [← String.toList_inj, lower, String.toList_ofList, spells]
  constructor
  · intro cases
    obtain ⟨before, after, parts, blankBefore, blankAfter⟩ := exists_trimChars text.toList
    rw [List.append_assoc] at parts
    rw [trim, String.toList_ofList] at cases
    exact ⟨before, _, after, parts, blankBefore, blankAfter, cases⟩
  · rintro ⟨before, spelled, after, parts, blankBefore, blankAfter, cases⟩
    rw [trim_of_toList_eq parts (isWord_of_forall₂ filled letters cases) blankBefore blankAfter]
    exact cases

end SeedVault.Text
