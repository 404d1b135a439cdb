/-
What a typed text denotes. Its words alone decide: without words it denotes nothing, one word
is either the 64 digits of a seed or hashed, and two or more words must be a phrase.
-/

import SeedVault.Proofs.Hex
import SeedVault.Proofs.Phrase.Codec
import SeedVault.Proofs.Text.Trim
import SeedVault.Seed

namespace SeedVault

namespace Seed

/-- A text of 64 hexadecimal digits of either case. -/
def IsDigits (text : String) : Prop :=
  text.length = 64 ∧ ∀ char ∈ text.toList, ∃ digit, Text.hexDigit? char = some digit

theorem isHex_iff (text : String) : isHex text = true ↔ IsDigits text := by
  have digitsIff : (∀ code ∈ Text.utf8 text, Hex.isDigit code = true) ↔
      ∀ char ∈ text.toList, ∃ digit, Text.hexDigit? char = some digit := Hex.isDigit_flatMap_iff
  rw [isHex, Bool.and_eq_true, beq_iff_eq, List.all_eq_true, IsDigits, ← digitsIff]
  apply and_congr_left
  intro digits
  rw [Hex.utf8_of_isDigit digits, List.length_map, String.length_toList]

theorem IsDigits.of_denotes {text : String} {seed : Seed}
    (denotes : Hex.Denotes text.toList seed.bytes.toList) : IsDigits text := by
  obtain ⟨digits, length, _⟩ := Hex.denotes_iff.mp denotes
  rw [Vector.length_toList, String.length_toList] at length
  exact ⟨length, digits⟩

/-- A text is read as a seed exactly if its digits denote the bytes of the seed. -/
theorem ofHex_eq_ok_iff {text : String} {seed : Seed} :
    ofHex text = .ok seed ↔ Hex.Denotes text.toList seed.bytes.toList := by
  rw [← Hex.decode_eq_ok_iff_denotes, ofHex]
  constructor
  · intro read
    split at read
    · split at read
      · rename_i decoded
        cases read
        exact decoded
      · cases read
    · cases read
  · intro decoded
    rw [if_pos ((isHex_iff text).mpr (.of_denotes (Hex.decode_eq_ok_iff_denotes.mp decoded))),
      decoded]

/-- Digits are always read as a seed. -/
theorem IsDigits.exists_seed {text : String} (digits : IsDigits text) :
    ∃ seed : Seed, Hex.Denotes text.toList seed.bytes.toList := by
  obtain ⟨bytes, length, denotes⟩ := @Hex.exists_denotes 32 _
    (by rw [String.length_toList]; exact digits.1) digits.2
  exact ⟨⟨⟨bytes.toArray, by simpa using length⟩⟩, denotes⟩

/-- Digits are one word. -/
theorem IsDigits.words_eq {text : String} (digits : IsDigits text) : Text.words text = [text] := by
  have isWord : Text.IsWord text.toList := by
    constructor
    · intro empty
      have length := digits.1
      rw [← String.length_toList, empty] at length
      cases length
    · intro char member
      obtain ⟨_, found⟩ := digits.2 char member
      exact Hex.isBlank_of_hexDigit? found
  have alone := Text.Spaced.word text.toList isWord rfl .nothing
  rw [List.append_nil] at alone
  exact (Text.words_eq_iff text [text]).mpr alone

/-- What some words denote. -/
inductive Denoted : List String → Except SeedError Seed → Prop
  | empty : Denoted [] (.error (.text .empty))
  | digits {word : String} {seed : Seed} :
      Hex.Denotes word.toList seed.bytes.toList → Denoted [word] (.ok seed)
  | hashed {word : String} : ¬ IsDigits word → Denoted [word] (.ok ⟨sha256 (Text.utf8 word)⟩)
  | phrase {words : List String} {phrase : Phrase} :
      2 ≤ words.length → Phrase.ofWords words = .ok phrase → Denoted words (.ok (ofPhrase phrase))
  | rejected {words : List String} {cause : PhraseError} :
      2 ≤ words.length → Phrase.ofWords words = .error cause →
        Denoted words (.error (.phrase cause))

theorem isPhraseShaped_trim (input : String) :
    isPhraseShaped (Text.trim input) = isPhraseShaped input := by
  rw [isPhraseShaped, isPhraseShaped, Text.words_trim]

theorem ofText_trim (input : String) : Phrase.ofText (Text.trim input) = Phrase.ofText input := by
  rw [Phrase.ofText, Phrase.ofText, Text.words_trim]

theorem resolve_of_words_nil {input : String} (none : Text.words input = []) :
    resolve input = .error (.text .empty) := by
  rw [resolve, Text.trim_of_words_nil none]
  rfl

theorem trim_ne_empty {input : String} (some : Text.words input ≠ []) :
    (Text.trim input).isEmpty = false := by
  rw [Bool.eq_false_iff, Ne, String.isEmpty_iff]
  intro empty
  rw [← Text.words_trim, empty] at some
  exact some rfl

/-- One word is a seed in digits, or else it is hashed. -/
theorem resolve_of_words_singleton {input word : String} (only : Text.words input = [word]) :
    resolve input = if isHex word then ofHex word else .ok (ofText word) := by
  have filled : (Text.trim input).isEmpty = false := trim_ne_empty (by simp [only])
  have single : isPhraseShaped word = false := by
    rw [← Text.trim_of_words_singleton only, isPhraseShaped_trim, isPhraseShaped, only]
    rfl
  rw [Text.trim_of_words_singleton only] at filled
  rw [resolve, Text.trim_of_words_singleton only]
  simp only [filled, single, Bool.false_eq_true, if_false]

/-- Two or more words are taken as a phrase and never as anything else. -/
theorem resolve_of_isPhraseShaped {input : String} (shaped : isPhraseShaped input = true) :
    resolve input =
      match Phrase.ofText input with
      | .ok phrase => .ok (ofPhrase phrase)
      | .error cause => .error (.phrase cause) := by
  have several : 2 ≤ (Text.words input).length := of_decide_eq_true shaped
  have filled : (Text.trim input).isEmpty = false := by
    apply trim_ne_empty
    intro none
    simp [none] at several
  have noDigits : ¬ isHex (Text.trim input) = true := by
    rw [isHex_iff]
    intro digits
    have one := digits.words_eq
    rw [Text.words_trim] at one
    simp [one] at several
  rw [resolve]
  cases read : Phrase.ofText input <;>
    simp only [filled, Bool.false_eq_true, if_false, if_neg noDigits, isPhraseShaped_trim, shaped,
      if_true, ofText_trim, read]

/-- What a text denotes is what its words denote. -/
theorem resolve_denoted (input : String) : Denoted (Text.words input) (resolve input) := by
  match words : Text.words input with
  | [] =>
      rw [resolve_of_words_nil words]
      exact .empty
  | [word] =>
      rw [resolve_of_words_singleton words]
      split
      · rename_i digits
        obtain ⟨seed, denotes⟩ := ((isHex_iff word).mp digits).exists_seed
        rw [ofHex_eq_ok_iff.mpr denotes]
        exact .digits denotes
      · rename_i digits
        rw [isHex_iff] at digits
        exact .hashed digits
  | first :: second :: rest =>
      have several : 2 ≤ (first :: second :: rest).length := Nat.le_add_left 2 rest.length
      rw [resolve_of_isPhraseShaped (by rw [isPhraseShaped, words]; exact decide_eq_true several),
        Phrase.ofText, words]
      cases read : Phrase.ofWords (first :: second :: rest) with
      | ok phrase => exact .phrase several read
      | error cause => exact .rejected several read

/-- No random bytes are asked for. -/
theorem resolve_ne_randomness (input : String) : resolve input ≠ .error .randomness := by
  intro drawn
  have denoted := resolve_denoted input
  rw [drawn] at denoted
  generalize Text.words input = words at denoted
  cases denoted

/-- Words denote one thing only. -/
theorem Denoted.unique {words : List String} {result other : Except SeedError Seed}
    (denoted : Denoted words result) (otherwise : Denoted words other) : result = other := by
  cases denoted with
  | empty =>
      cases otherwise with
      | empty => rfl
      | phrase several | rejected several => exact absurd several (by decide)
  | digits denotes =>
      cases otherwise with
      | digits again => rw [← ofHex_eq_ok_iff.mpr denotes, ofHex_eq_ok_iff.mpr again]
      | hashed noDigits => exact absurd (.of_denotes denotes) noDigits
      | phrase several | rejected several => exact absurd several (Nat.not_succ_le_self 1)
  | hashed noDigits =>
      cases otherwise with
      | digits denotes => exact absurd (.of_denotes denotes) noDigits
      | hashed => rfl
      | phrase several | rejected several => exact absurd several (Nat.not_succ_le_self 1)
  | phrase several read =>
      cases otherwise with
      | empty => exact absurd several (by decide)
      | digits | hashed => exact absurd several (Nat.not_succ_le_self 1)
      | phrase _ again =>
          cases read.symm.trans again
          rfl
      | rejected _ again => cases read.symm.trans again
  | rejected several read =>
      cases otherwise with
      | empty => exact absurd several (by decide)
      | digits | hashed => exact absurd several (Nat.not_succ_le_self 1)
      | phrase _ again => cases read.symm.trans again
      | rejected _ again =>
          cases read.symm.trans again
          rfl

/-- A seed comes back from its digits. -/
theorem resolve_toHex (seed : Seed) : resolve seed.toHex = .ok seed := by
  have denotes : Hex.Denotes seed.toHex.toList seed.bytes.toList :=
    Hex.denotes_encode seed.bytes.toList
  have digits := IsDigits.of_denotes denotes
  rw [resolve_of_words_singleton digits.words_eq, if_pos ((isHex_iff _).mpr digits),
    ofHex_eq_ok_iff.mpr denotes]

/-- A phrase comes back from its text and is stretched. -/
theorem resolve_text (phrase : Phrase) : resolve phrase.text = .ok (ofPhrase phrase) := by
  have words : Text.words phrase.text = phrase.words := by
    apply Text.words_intercalate
    intro word member
    rw [Phrase.words_eq_map_indices] at member
    obtain ⟨index, _, rfl⟩ := List.mem_map.mp member
    exact Wordlist.isWord_word index
  have shaped : isPhraseShaped phrase.text = true := by
    rw [isPhraseShaped, words, Phrase.words_eq_map_indices, List.length_map, Phrase.length_indices]
    rfl
  rw [resolve_of_isPhraseShaped shaped, Phrase.ofText, words, Phrase.ofWords_words]

/-- A typed text is taken by its words alone. Without words it is an error, one word is a seed
in digits or is hashed, and two or more are a phrase or an error, so that a mistyped phrase is
never hashed. Trimming makes no difference, and seeds and phrases come back from their texts. -/
theorem resolve_exact :
    (∀ input result, resolve input = result ↔
      ∃ words : List String, Text.Spaced (words.map String.toList) input.toList ∧
        Denoted words result) ∧
    (SeedError.text .empty).message = "Invalid seed: input is empty" ∧
    (∀ input, 2 ≤ (Text.words input).length →
      resolve input = ((Phrase.ofText input).map ofPhrase).mapError .phrase) ∧
    (∀ (left right : String) (words : List (List Char)),
      Text.Spaced words left.toList → Text.Spaced words right.toList →
        resolve left = resolve right) ∧
    (∀ input, isPhraseShaped (Text.trim input) = isPhraseShaped input) ∧
    (∀ input seed, isPhraseShaped input = true → resolve input = .ok seed →
      ∃ phrase, Phrase.ofText input = .ok phrase ∧ ofPhrase phrase = seed) ∧
    (∀ seed : Seed, resolve seed.toHex = .ok seed) ∧
    ∀ phrase : Phrase, resolve phrase.text = .ok (ofPhrase phrase) := by
  have classified : ∀ input result, resolve input = result ↔
      ∃ words : List String, Text.Spaced (words.map String.toList) input.toList ∧
        Denoted words result := by
    intro input result
    constructor
    · rintro rfl
      exact ⟨_, (Text.words_eq_iff input _).mp rfl, resolve_denoted input⟩
    · rintro ⟨words, spaced, denoted⟩
      have found := resolve_denoted input
      rw [(Text.words_eq_iff input words).mpr spaced] at found
      exact found.unique denoted
  refine ⟨classified, rfl, ?several, ?spaced, isPhraseShaped_trim, ?shaped, resolve_toHex,
    resolve_text⟩
  case several =>
    intro input several
    rw [resolve_of_isPhraseShaped (decide_eq_true several)]
    cases Phrase.ofText input <;> rfl
  case spaced =>
    intro left right words leftSpaced rightSpaced
    have sameWords : Text.words left = Text.words right := by
      rw [Text.words, Text.words, (Text.splitBlank_eq_iff _ words).mpr leftSpaced,
        (Text.splitBlank_eq_iff _ words).mpr rightSpaced]
    have denoted := resolve_denoted left
    rw [sameWords] at denoted
    exact denoted.unique (resolve_denoted right)
  case shaped =>
    intro input seed shaped resolved
    rw [resolve_of_isPhraseShaped shaped] at resolved
    cases read : Phrase.ofText input with
    | ok phrase =>
        rw [read] at resolved
        exact ⟨phrase, rfl, Except.ok.inj resolved⟩
    | error cause =>
        rw [read] at resolved
        cases resolved

/-- Digits in upper case, a word, three words and a phrase, with white space of several kinds. -/
theorem resolve_exact_spaced :
    let digits := String.join (List.replicate 32 "FF")
    let words := List.replicate 11 "abandon" ++ ["about"]
    let typed := "\u3000" ++ "\t".intercalate words ++ "\n"
    resolve ("\u2003" ++ digits ++ " ") = .ok ⟨Vector.replicate 32 255⟩ ∧
      resolve " hunter2\r\n" = .ok ⟨sha256 (Text.utf8 "hunter2")⟩ ∧
      resolve "not a phrase" = .error (.phrase (.wordCount 3)) ∧
      resolve typed = resolve (" ".intercalate words) ∧
      ∃ phrase, Phrase.ofText typed = .ok phrase ∧
        ofPhrase phrase = ofPhrase ⟨Vector.replicate 16 0⟩ := by
  intro digits words typed
  obtain ⟨classified, _, several, spaced, _, shaped, _, _⟩ := resolve_exact
  have typedWords : Text.Spaced (words.map String.toList) typed.toList :=
    (Text.words_eq_iff typed words).mp (by decide +kernel)
  have read : Phrase.ofWords words = .ok ⟨Vector.replicate 16 0⟩ := by decide +kernel
  refine ⟨?digits, ?hashed, ?rejected, ?same, ?phrase⟩
  case digits =>
    exact (classified _ _).mpr ⟨[digits], (Text.words_eq_iff _ _).mp (by decide +kernel),
      .digits (ofHex_eq_ok_iff.mp (by decide +kernel))⟩
  case hashed =>
    refine (classified _ _).mpr ⟨["hunter2"], (Text.words_eq_iff _ _).mp (by decide +kernel),
      .hashed ?_⟩
    rw [← isHex_iff]
    decide
  case rejected =>
    rw [several "not a phrase" (by decide +kernel)]
    decide +kernel
  case same =>
    exact spaced _ _ (words.map String.toList) typedWords
      ((Text.words_eq_iff (" ".intercalate words) words).mp (by decide +kernel))
  case phrase =>
    exact shaped typed _ (by decide +kernel)
      ((classified _ _).mpr ⟨words, typedWords, .phrase (by decide) read⟩)

end Seed

end SeedVault
