/-
Which answers a challenge accepts: the words that are asked for, each in its place, with letters of
either case and white space around them. Nothing is missing, nothing is left over, and no wrong
answer is made good by later ones.
-/

import SeedVault.Proofs.Challenge.Places
import SeedVault.Proofs.Phrase.Wordlist
import SeedVault.Proofs.Text.LowerCase

namespace SeedVault

namespace Challenge

variable {challenge : Challenge} {phrase : Phrase} {answers : List String} {answer : String}
  {lowerCase : String → String}

/-- A word of the phrase is one that the place says. -/
theorem words_getElem? (phrase : Phrase) (place : Fin 12) :
    phrase.words[place.val]? = some (phrase.word place) := by
  rw [Phrase.words, List.getElem?_map, List.getElem?_eq_getElem (by simp), List.getElem_finRange]
  rfl

theorem normalForm_eq_word_iff (place : Fin 12) :
    normalForm answer = phrase.word place ↔ Text.IsSpelling (phrase.word place) answer :=
  Text.lower_trim_eq_iff (Wordlist.isWord_word (phrase.index place)).1
    (Wordlist.letters_word (phrase.index place))

/-- The comparison does not depend on what becomes of letters that are in no word. -/
theorem lowerCase_eq_word_iff (isLowerCase : Text.IsLowerCase lowerCase) (place : Fin 12) :
    lowerCase (Text.trim answer) = phrase.word place ↔ normalForm answer = phrase.word place := by
  refine isLowerCase.eq_iff fun letter member => ?_
  have range := Wordlist.letters_word (phrase.index place) letter member
  omega

theorem verify_iff_forall₂ :
    challenge.verify phrase answers = true ↔
      List.Forall₂ (fun answer place => normalForm answer = phrase.word place) answers
        challenge.places := by
  rw [verify_eq_true_iff, ← List.forall₂_eq_eq_eq, List.forall₂_map_left_iff,
    List.forall₂_map_right_iff]

/-- Two lists go together if they have one length and their items go together place by place. -/
theorem forall₂_iff_getElem? {α β : Type} {related : α → β → Prop} {left : List α}
    {right : List β} :
    List.Forall₂ related left right ↔ left.length = right.length ∧
      ∀ (index : Nat) first second, left[index]? = some first → right[index]? = some second →
        related first second := by
  rw [List.forall₂_iff_get]
  refine and_congr_right fun _ => ?_
  constructor
  · intro fits index first second isFirst isSecond
    obtain ⟨inLeft, rfl⟩ := List.getElem?_eq_some_iff.mp isFirst
    obtain ⟨inRight, rfl⟩ := List.getElem?_eq_some_iff.mp isSecond
    exact fits index inLeft inRight
  · intro fits index inLeft inRight
    exact fits index _ _ (List.getElem?_eq_getElem inLeft) (List.getElem?_eq_getElem inRight)

/-- There are as many answers as places, and each is the word at its place. -/
theorem verify_iff_getElem? (isLowerCase : Text.IsLowerCase lowerCase) :
    challenge.verify phrase answers = true ↔
      answers.length = challenge.positions.length ∧
        ∀ (index : Nat) answer place, answers[index]? = some answer →
          challenge.positions[index]? = some place →
            phrase.words[place]? = some (lowerCase (Text.trim answer)) := by
  rw [verify_iff_forall₂, forall₂_iff_getElem?, positions, List.length_map]
  refine and_congr_right fun _ => forall₂_congr fun index answer => ?_
  simp only [List.getElem?_map, Option.map_eq_some_iff, forall_exists_index, and_imp]
  constructor
  · rintro fits _ isAnswer place isPlace rfl
    rw [words_getElem?, (lowerCase_eq_word_iff isLowerCase place).mpr (fits place isAnswer isPlace)]
  · intro fits place isAnswer isPlace
    have spelled := fits place.val isAnswer place isPlace rfl
    rw [words_getElem?, Option.some.injEq] at spelled
    exact (lowerCase_eq_word_iff isLowerCase place).mp spelled.symm

/-- Answers are wrong if there are too few or too many of them. -/
theorem verify_eq_false_of_length (different : answers.length ≠ challenge.positions.length) :
    challenge.verify phrase answers = false := by
  rw [Bool.eq_false_iff]
  intro verified
  exact different ((verify_iff_getElem? Text.isLowerCase_lower).mp verified).1

/-- The answer to a place is determined up to its normal form. -/
theorem verify_set_eq_false (isLowerCase : Text.IsLowerCase lowerCase)
    (verified : challenge.verify phrase answers = true) {index : Nat} {other : String}
    (isAnswer : answers[index]? = some answer)
    (different : lowerCase (Text.trim other) ≠ lowerCase (Text.trim answer)) :
    challenge.verify phrase (answers.set index other) = false := by
  rw [Bool.eq_false_iff]
  intro again
  obtain ⟨length, fits⟩ := (verify_iff_getElem? isLowerCase).mp verified
  obtain ⟨_, fitsAgain⟩ := (verify_iff_getElem? isLowerCase).mp again
  obtain ⟨inside, _⟩ := List.getElem?_eq_some_iff.mp isAnswer
  have isPlace : challenge.positions[index]? = some (challenge.positions[index]) :=
    List.getElem?_eq_getElem (length ▸ inside)
  have word := fits index answer _ isAnswer isPlace
  have otherWord := fitsAgain index other _ (List.getElem?_set_self inside) isPlace
  exact different (Option.some.inj (otherWord.symm.trans word))

/-- The comparison step by step: what is left to compare, and whether all was right so far. A place
that is in no phrase counts as a wrong answer. -/
def compare (words : List String) : (matched : Bool) → List (Nat × String) → Bool
  | matched, [] => matched
  | matched, (place, answer) :: rest =>
    match words[place]? with
    | some expected => compare words (matched && expected == normalForm answer) rest
    | none => compare words false rest

/-- The check step by step: the number of the answers comes first. -/
def verifyInSteps (challenge : Challenge) (phrase : Phrase) (answers : List String) : Bool :=
  if answers.length ≠ challenge.positions.length then false
  else compare phrase.words true (challenge.positions.zip answers)

/-- Every step adds one comparison, and none is forgotten. -/
theorem compare_eq_true_iff {matched : Bool} {pairs : List (Nat × String)} :
    compare phrase.words matched pairs = true ↔
      matched = true ∧ ∀ pair ∈ pairs, phrase.words[pair.1]? = some (normalForm pair.2) := by
  induction pairs generalizing matched with
  | nil => simp [compare]
  | cons pair rest ih =>
      obtain ⟨place, answer⟩ := pair
      rw [compare, List.forall_mem_cons]
      cases phrase.words[place]? with
      | none => simp [ih]
      | some expected =>
          simp only [ih, Bool.and_eq_true, beq_iff_eq, Option.some.injEq]
          exact and_assoc

theorem verifyInSteps_eq_verify (challenge : Challenge) (phrase : Phrase)
    (answers : List String) :
    challenge.verifyInSteps phrase answers = challenge.verify phrase answers := by
  rw [Bool.eq_iff_iff, verify_iff_getElem? Text.isLowerCase_lower, verifyInSteps]
  split
  · rename_i different
    exact iff_of_false Bool.false_ne_true fun both => different both.1
  · rename_i same
    rw [compare_eq_true_iff, and_iff_right rfl, and_iff_right (not_not.mp same)]
    constructor
    · intro fits index answer place isAnswer isPlace
      have paired : (place, answer) ∈ challenge.positions.zip answers :=
        List.mem_of_getElem? (List.getElem?_zip_eq_some.mpr ⟨isPlace, isAnswer⟩)
      exact fits _ paired
    · rintro fits ⟨place, answer⟩ paired
      obtain ⟨index, found⟩ := List.getElem?_of_mem paired
      obtain ⟨isPlace, isAnswer⟩ := List.getElem?_zip_eq_some.mp found
      exact fits index answer place isAnswer isPlace

/-- Which answers a challenge accepts: exactly those that spell the words asked for, in their order
and with nothing missing or left over, whatever the lower case of letters that are in no word is.
So an accepted list is accepted no more once an answer gets another normal form, is left out or
is added. The check step by step comes to the same, and no place it looks up is beyond the
phrase. -/
theorem verify_exact (lowerCase : String → String) (isLowerCase : Text.IsLowerCase lowerCase)
    (challenge : Challenge) (phrase : Phrase) :
    (∀ answers, challenge.verify phrase answers = true ↔
      List.Forall₂ (fun answer place => Text.IsSpelling (phrase.word place) answer) answers
        challenge.places) ∧
    (∀ answers, challenge.verify phrase answers = true ↔
      answers.length = challenge.positions.length ∧
        ∀ (index : Nat) answer place, answers[index]? = some answer →
          challenge.positions[index]? = some place →
            phrase.words[place]? = some (lowerCase (Text.trim answer))) ∧
    (∀ answers, challenge.verify phrase answers = true →
      (∀ (index : Nat) answer other, answers[index]? = some answer →
        lowerCase (Text.trim other) ≠ lowerCase (Text.trim answer) →
          challenge.verify phrase (answers.set index other) = false) ∧
      (∀ index < answers.length, challenge.verify phrase (answers.eraseIdx index) = false) ∧
      ∀ index ≤ answers.length, ∀ other,
        challenge.verify phrase (answers.insertIdx index other) = false) ∧
    (∀ answers, challenge.verifyInSteps phrase answers = challenge.verify phrase answers) ∧
    ∀ place ∈ challenge.positions, ∃ word, phrase.words[place]? = some word := by
  refine ⟨?spellings, fun _ => verify_iff_getElem? isLowerCase, ?changes,
    verifyInSteps_eq_verify challenge phrase, ?lookups⟩
  case spellings =>
    intro answers
    simp only [verify_iff_forall₂, normalForm_eq_word_iff]
  case changes =>
    intro answers verified
    have length := ((verify_iff_getElem? isLowerCase).mp verified).1
    refine ⟨fun index answer other => verify_set_eq_false isLowerCase verified, ?_, ?_⟩
    · intro index inside
      apply verify_eq_false_of_length
      rw [List.length_eraseIdx_of_lt inside]
      omega
    · intro index inside other
      apply verify_eq_false_of_length
      rw [List.length_insertIdx_of_le_length inside]
      omega
  case lookups =>
    intro place member
    obtain ⟨asked, _, rfl⟩ := List.mem_map.mp member
    exact ⟨_, words_getElem? phrase asked⟩

/-- The first word and the last one are asked for, in whatever order they are given. -/
theorem verify_exact_about :
    let challenge := ofPlaces [11, 0, 12, 11]
    let phrase : Phrase := ⟨Vector.replicate 16 0⟩
    let answers := ["\u3000 ABANDON", "About\n"]
    Text.IsLowerCase Text.lower ∧ challenge.verify phrase answers = true ∧
      challenge.verify phrase ["\u3000 ABANDON", "abandon"] = false ∧
      challenge.verify phrase ["\u3000 ABANDON"] = false ∧
      challenge.verify phrase ["", "\u3000 ABANDON", "About\n"] = false := by
  intro challenge phrase answers
  have verified : challenge.verify phrase answers = true := by decide +kernel
  obtain ⟨_, _, changes, _⟩ := verify_exact Text.lower Text.isLowerCase_lower challenge phrase
  obtain ⟨sets, drops, adds⟩ := changes answers verified
  exact ⟨Text.isLowerCase_lower, verified, sets 1 "About\n" "abandon" rfl (by decide),
    drops 1 (by decide), adds 0 (by decide) ""⟩

end Challenge

end SeedVault
