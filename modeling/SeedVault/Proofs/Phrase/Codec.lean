/-
Recovery phrases and entropy determine each other. The words spell the bits of the
entropy followed by four bits of its hash, and nothing else is a phrase.
-/

import SeedVault.Phrase.Basic
import SeedVault.Proofs.Bytes
import SeedVault.Proofs.Phrase.Wordlist
import Mathlib.Data.List.FinRange

namespace SeedVault.Phrase

/-- The bits of a list of bytes, the highest bit of each byte first. -/
def byteBits (bytes : List UInt8) : List Nat :=
  bytes.flatMap fun byte => Radix.digits 2 8 byte.toNat

/-- The bits of the places of words, eleven for each word. -/
def wordBits (indices : List (Fin 2048)) : List Nat :=
  indices.flatMap fun index => Radix.digits 2 11 index.val

/-- Words spell the bits of an entropy, followed by the first four bits of its hash. -/
def Spells (indices : List (Fin 2048)) (entropy : Bytes 16) : Prop :=
  wordBits indices =
    byteBits entropy.toList ++ (byteBits (sha256 entropy.toList).toList).take 4

instance (indices : List (Fin 2048)) (entropy : Bytes 16) : Decidable (Spells indices entropy) :=
  inferInstanceAs (Decidable (_ = _))

theorem byteBits_eq (bytes : List UInt8) :
    byteBits bytes = Radix.digits 2 (bytes.length * 8) (Bytes.valueOf bytes) := by
  have found := Radix.digits_value (by decide) (Bytes.toNat_fits bytes)
  rw [List.length_map, ← Bytes.valueOf_eq_value] at found
  rw [← Radix.digits_flatMap, show 2 ^ 8 = 256 from rfl, found, List.flatMap_map]
  rfl

theorem index_fits (indices : List (Fin 2048)) :
    ∀ digit ∈ indices.map Fin.val, digit < 2048 := by
  intro digit member
  obtain ⟨index, _, rfl⟩ := List.mem_map.mp member
  exact index.isLt

theorem numberOf_eq_value (indices : List (Fin 2048)) :
    numberOf indices = Radix.value 2048 (indices.map Fin.val) := by
  rw [Radix.value, List.foldl_map]
  rfl

theorem wordBits_eq (indices : List (Fin 2048)) :
    wordBits indices = Radix.digits 2 (indices.length * 11) (numberOf indices) := by
  have found := Radix.digits_value (by decide) (index_fits indices)
  rw [List.length_map, ← numberOf_eq_value] at found
  rw [← Radix.digits_flatMap, show 2 ^ 11 = 2048 from rfl, found, List.flatMap_map]
  rfl

theorem numberOf_lt {indices : List (Fin 2048)} (twelve : indices.length = 12) :
    numberOf indices < 2 ^ 132 := by
  have bounded := Radix.value_lt (by decide) (index_fits indices)
  rw [← numberOf_eq_value, List.length_map, twelve] at bounded
  exact bounded

/-- Twelve words are determined by the number they spell. -/
theorem numberOf_injective {left right : List (Fin 2048)} (sameLength : left.length = right.length)
    (sameNumber : numberOf left = numberOf right) : left = right := by
  rw [numberOf_eq_value, numberOf_eq_value] at sameNumber
  have sameDigits := Radix.value_injective (by decide) (by simpa using sameLength)
    (index_fits left) (index_fits right) sameNumber
  exact (List.map_inj_right fun _ _ => Fin.ext).mp sameDigits

theorem checksum_lt (entropy : Bytes 16) : checksum entropy < 16 := by
  have := (sha256 entropy.toList)[0].toNat_lt
  rw [checksum]
  omega

/-- The checksum is the number that the first four bits of the hash spell. -/
theorem take_byteBits (entropy : Bytes 16) :
    (byteBits (sha256 entropy.toList).toList).take 4 = Radix.digits 2 4 (checksum entropy) := by
  unfold checksum
  generalize sha256 entropy.toList = digest
  have nonempty : 0 < digest.toList.length := by
    rw [Vector.length_toList]
    decide
  obtain ⟨first, rest, split⟩ := List.exists_cons_of_length_pos nonempty
  have same : digest[0] = first := by
    rw [← Vector.getElem_toList nonempty]
    simp only [split, List.getElem_cons_zero]
  rw [same, split, byteBits, List.flatMap_cons, show 8 = 4 + 4 from rfl, Radix.digits_add,
    List.append_assoc]
  exact List.take_left' (Radix.length_digits 2 4 _)

theorem number_lt (phrase : Phrase) : phrase.number < 2 ^ 132 := by
  have := phrase.entropy.toNat_lt
  have := checksum_lt phrase.entropy
  rw [number]
  omega

/-- Spelling the bits is spelling the number of the phrase. -/
theorem spells_iff {indices : List (Fin 2048)} (twelve : indices.length = 12)
    (entropy : Bytes 16) : Spells indices entropy ↔ numberOf indices = number ⟨entropy⟩ := by
  have entropyFits : Bytes.valueOf entropy.toList < 2 ^ 128 := entropy.toNat_lt
  have checksumFits := checksum_lt entropy
  have numberFits := numberOf_lt twelve
  have numberEq : number ⟨entropy⟩ = Bytes.valueOf entropy.toList * 16 + checksum entropy := rfl
  rw [Spells, wordBits_eq, byteBits_eq entropy.toList, take_byteBits, Vector.length_toList, twelve,
    show 12 * 11 = 128 + 4 from rfl, show 16 * 8 = 128 from rfl, Radix.digits_add, numberEq]
  constructor
  · intro same
    obtain ⟨high, low⟩ := List.append_inj same (by simp only [Radix.length_digits])
    rw [← Radix.digits_mod] at low
    have sameHigh := Radix.digits_injective (by omega) entropyFits high
    have sameLow := Radix.digits_injective (by omega) checksumFits low
    omega
  · intro same
    have high : numberOf indices / 2 ^ 4 = Bytes.valueOf entropy.toList := by omega
    have low : numberOf indices % 2 ^ 4 = checksum entropy := by omega
    rw [← Radix.digits_mod 2 4 (numberOf indices), high, low]

/-- The places of the words of a phrase. -/
def indices (phrase : Phrase) : List (Fin 2048) :=
  (List.finRange 12).map phrase.index

theorem length_indices (phrase : Phrase) : phrase.indices.length = 12 := by
  simp [indices]

theorem words_eq_map_indices (phrase : Phrase) :
    phrase.words = phrase.indices.map Wordlist.word := by
  rw [words, indices, List.map_map]
  rfl

theorem length_words (phrase : Phrase) : phrase.words.length = 12 := by
  rw [words_eq_map_indices, List.length_map, length_indices]

/-- The places of the words are the digits of the number in base 2048. -/
theorem map_val_indices (phrase : Phrase) :
    phrase.indices.map Fin.val = Radix.digits 2048 12 phrase.number := by
  rw [indices, List.map_map, Radix.digits, List.ofFn_eq_map]
  apply List.map_congr_left
  intro place _
  simp only [Function.comp_apply, index, Fin.val_ofNat, Nat.shiftRight_eq_div_pow, Nat.pow_mul]

theorem numberOf_indices (phrase : Phrase) : numberOf phrase.indices = phrase.number := by
  have fits : phrase.number < 2048 ^ 12 := phrase.number_lt
  rw [numberOf_eq_value, map_val_indices, Radix.value_digits, Nat.mod_eq_of_lt fits]

theorem spells_indices (phrase : Phrase) : Spells phrase.indices phrase.entropy :=
  (spells_iff phrase.length_indices phrase.entropy).mpr phrase.numberOf_indices

/-- Only the words of a phrase spell its entropy. -/
theorem eq_indices_of_spells {indices : List (Fin 2048)} {phrase : Phrase}
    (twelve : indices.length = 12) (spelled : Spells indices phrase.entropy) :
    indices = phrase.indices := by
  apply numberOf_injective (twelve.trans phrase.length_indices.symm)
  rw [numberOf_indices]
  exact (spells_iff twelve phrase.entropy).mp spelled

/-- Words of the list that are joined to a text are all read again. -/
theorem filterMap_words_join (indices : List (Fin 2048)) :
    (Text.words (" ".intercalate (indices.map Wordlist.word))).filterMap Wordlist.index? =
      indices := by
  rw [Text.words_intercalate, List.filterMap_map]
  · have found : Wordlist.index? ∘ Wordlist.word = some := funext Wordlist.index?_word
    rw [found, List.filterMap_some]
  · intro word member
    obtain ⟨index, _, rfl⟩ := List.mem_map.mp member
    exact Wordlist.isWord_word index

/-- Words that spell an entropy are the phrase of that entropy. -/
theorem ofKnownWords_of_spells {indices : List (Fin 2048)} {phrase : Phrase}
    (twelve : indices.length = 12) (spelled : Spells indices phrase.entropy) :
    ofKnownWords (" ".intercalate (indices.map Wordlist.word)) = .ok phrase := by
  have small := checksum_lt phrase.entropy
  have sameNumber : numberOf indices = phrase.entropy.toNat * 16 + checksum phrase.entropy :=
    (spells_iff twelve phrase.entropy).mp spelled
  have high : numberOf indices / 16 = phrase.entropy.toNat := by omega
  have low : numberOf indices % 16 = checksum phrase.entropy := by omega
  rw [ofKnownWords]
  simp only [filterMap_words_join, high, low, Bytes.ofNat_toNat, if_pos]

/-- Words that spell no entropy fail the checksum. -/
theorem ofKnownWords_of_not_spells {indices : List (Fin 2048)} (twelve : indices.length = 12)
    (unspelled : ∀ entropy, ¬ Spells indices entropy) :
    ofKnownWords (" ".intercalate (indices.map Wordlist.word)) = .error .checksum := by
  rw [ofKnownWords]
  simp only [filterMap_words_join]
  apply if_neg
  intro matched
  apply unspelled (Bytes.ofNat 16 (numberOf indices / 16))
  have fits := numberOf_lt twelve
  rw [spells_iff twelve, number, Bytes.toNat_ofNat, Nat.mod_eq_of_lt (by omega), matched]
  omega

/-- What is said about a list of words: the first thing that keeps it from being a phrase,
or the phrase whose entropy it spells. -/
inductive Verdict : List String → Except PhraseError Phrase → Prop
  | wordCount {words : List String} :
      words.length ≠ 12 → Verdict words (.error (.wordCount words.length))
  | unknownWord {known rest : List String} {word : String} :
      (known ++ word :: rest).length = 12 → (∀ other ∈ known, other ∈ Wordlist.english.toList) →
        word ∉ Wordlist.english.toList →
          Verdict (known ++ word :: rest) (.error (.unknownWord (known.length + 1)))
  | checksum {indices : List (Fin 2048)} :
      indices.length = 12 → (∀ entropy, ¬ Spells indices entropy) →
        Verdict (indices.map Wordlist.word) (.error .checksum)
  | phrase {indices : List (Fin 2048)} {phrase : Phrase} :
      indices.length = 12 → Spells indices phrase.entropy →
        Verdict (indices.map Wordlist.word) (.ok phrase)

/-- Words of the list have places. -/
theorem exists_indices {words : List String}
    (known : ∀ word ∈ words, word ∈ Wordlist.english.toList) :
    ∃ indices : List (Fin 2048), indices.map Wordlist.word = words := by
  induction words with
  | nil => exact ⟨[], rfl⟩
  | cons word rest ih =>
      obtain ⟨indices, same⟩ := ih fun other member => known other (List.mem_cons_of_mem _ member)
      obtain ⟨index, found⟩ := Option.isSome_iff_exists.mp
        (Wordlist.isSome_index?_iff.mpr (known word List.mem_cons_self))
      exact ⟨index :: indices, by rw [List.map_cons, same, Wordlist.index?_eq_some_iff.mp found]⟩

theorem isNone_index?_iff {word : String} :
    (Wordlist.index? word).isNone = true ↔ word ∉ Wordlist.english.toList := by
  rw [← Wordlist.isSome_index?_iff]
  cases Wordlist.index? word <;> simp

/-- The search stops at the first word that is not in the list. -/
theorem exists_first_unknown {words : List String} {place : Nat}
    (found : words.findIdx? (fun word => (Wordlist.index? word).isNone) = some place) :
    ∃ known word rest, words = known ++ word :: rest ∧ known.length = place ∧
      (∀ other ∈ known, other ∈ Wordlist.english.toList) ∧ word ∉ Wordlist.english.toList := by
  obtain ⟨inside, unknown, before⟩ := List.findIdx?_eq_some_iff_getElem.mp found
  refine ⟨words.take place, words[place], words.drop (place + 1), ?_, ?_, ?_, ?_⟩
  · rw [← List.drop_eq_getElem_cons inside, List.take_append_drop]
  · rw [List.length_take, Nat.min_eq_left (Nat.le_of_lt inside)]
  · intro other member
    obtain ⟨earlier, earlierInside, rfl⟩ := List.mem_take_iff_getElem.mp member
    have known := before earlier (by omega)
    rw [isNone_index?_iff] at known
    exact not_not.mp known
  · exact isNone_index?_iff.mp unknown

/-- Twelve words of the list are joined and read again. -/
theorem ofWords_of_known {indices : List (Fin 2048)} (twelve : indices.length = 12) :
    ofWords (indices.map Wordlist.word) =
      ofKnownWords (" ".intercalate (indices.map Wordlist.word)) := by
  have sameCount : ¬ (indices.map Wordlist.word).length ≠ 12 := by
    rw [List.length_map]
    exact not_not.mpr twelve
  have noneUnknown : (indices.map Wordlist.word).findIdx?
      (fun word => (Wordlist.index? word).isNone) = none := by
    rw [List.findIdx?_eq_none_iff]
    intro word member
    obtain ⟨index, _, rfl⟩ := List.mem_map.mp member
    rw [Wordlist.index?_word]
    rfl
  rw [ofWords, if_neg sameCount, noneUnknown]

theorem ofWords_of_spells {indices : List (Fin 2048)} {phrase : Phrase}
    (twelve : indices.length = 12) (spelled : Spells indices phrase.entropy) :
    ofWords (indices.map Wordlist.word) = .ok phrase := by
  rw [ofWords_of_known twelve]
  exact ofKnownWords_of_spells twelve spelled

/-- The first unknown word is named, whatever words follow it. -/
theorem ofWords_of_unknown {known rest : List String} {word : String}
    (twelve : (known ++ word :: rest).length = 12)
    (areKnown : ∀ other ∈ known, other ∈ Wordlist.english.toList)
    (unknown : word ∉ Wordlist.english.toList) :
    ofWords (known ++ word :: rest) = .error (.unknownWord (known.length + 1)) := by
  have noneBefore : known.findIdx? (fun word => (Wordlist.index? word).isNone) = none := by
    rw [List.findIdx?_eq_none_iff]
    intro other member
    rw [Bool.eq_false_iff, Ne, isNone_index?_iff, not_not]
    exact areKnown other member
  have found : (known ++ word :: rest).findIdx? (fun word => (Wordlist.index? word).isNone) =
      some known.length := by
    rw [List.findIdx?_append, noneBefore, List.findIdx?_cons, if_pos (isNone_index?_iff.mpr unknown)]
    simp
  rw [ofWords, if_neg (not_not.mpr twelve), found]

theorem ofWords_of_verdict {words : List String} {result : Except PhraseError Phrase}
    (verdict : Verdict words result) : ofWords words = result := by
  cases verdict with
  | wordCount wrongCount => rw [ofWords, if_pos wrongCount]
  | unknownWord twelve areKnown unknown => exact ofWords_of_unknown twelve areKnown unknown
  | checksum twelve unspelled =>
      rw [ofWords_of_known twelve]
      exact ofKnownWords_of_not_spells twelve unspelled
  | phrase twelve spelled => exact ofWords_of_spells twelve spelled

/-- Every list of words gets a verdict. -/
theorem exists_verdict (words : List String) : ∃ result, Verdict words result := by
  by_cases twelve : words.length = 12
  · cases found : words.findIdx? (fun word => (Wordlist.index? word).isNone) with
    | some place =>
        obtain ⟨known, word, rest, rfl, _, areKnown, unknown⟩ := exists_first_unknown found
        exact ⟨_, .unknownWord twelve areKnown unknown⟩
    | none =>
        obtain ⟨indices, rfl⟩ : ∃ indices : List (Fin 2048), indices.map Wordlist.word = words := by
          apply exists_indices
          intro word member
          rw [← not_not (a := word ∈ _), ← isNone_index?_iff, Bool.not_eq_true]
          exact List.findIdx?_eq_none_iff.mp found word member
        rw [List.length_map] at twelve
        by_cases spelled : ∃ entropy, Spells indices entropy
        · obtain ⟨entropy, spelled⟩ := spelled
          exact ⟨_, @Verdict.phrase indices ⟨entropy⟩ twelve spelled⟩
        · exact ⟨_, .checksum twelve (not_exists.mp spelled)⟩
  · exact ⟨_, .wordCount twelve⟩

/-- Reading words gives the verdict on them, and there is only one. -/
theorem ofWords_eq_iff (words : List String) (result : Except PhraseError Phrase) :
    ofWords words = result ↔ Verdict words result := by
  constructor
  · rintro rfl
    obtain ⟨result, verdict⟩ := exists_verdict words
    rwa [ofWords_of_verdict verdict]
  · exact ofWords_of_verdict

/-- Reading succeeds exactly on twelve words of the list that spell an entropy with its
checksum. -/
theorem ofWords_eq_ok_iff (words : List String) (phrase : Phrase) :
    ofWords words = .ok phrase ↔ ∃ indices : List (Fin 2048), indices.length = 12 ∧
      indices.map Wordlist.word = words ∧ Spells indices phrase.entropy := by
  rw [ofWords_eq_iff]
  constructor
  · intro verdict
    cases verdict with
    | phrase twelve spelled => exact ⟨_, twelve, rfl, spelled⟩
  · rintro ⟨indices, twelve, rfl, spelled⟩
    exact .phrase twelve spelled

/-- The words of a phrase are read as that phrase. -/
theorem ofWords_words (phrase : Phrase) : ofWords phrase.words = .ok phrase := by
  rw [words_eq_map_indices]
  exact ofWords_of_spells phrase.length_indices phrase.spells_indices

theorem words_of_ofWords {words : List String} {phrase : Phrase}
    (read : ofWords words = .ok phrase) : phrase.words = words := by
  obtain ⟨indices, twelve, rfl, spelled⟩ := (ofWords_eq_ok_iff words phrase).mp read
  rw [words_eq_map_indices, eq_indices_of_spells twelve spelled]

theorem mem_english_of_mem_words {phrase : Phrase} {word : String} (member : word ∈ phrase.words) :
    word ∈ Wordlist.english.toList := by
  rw [words_eq_map_indices] at member
  obtain ⟨index, _, rfl⟩ := List.mem_map.mp member
  rw [← Wordlist.isSome_index?_iff, Wordlist.index?_word]
  rfl

theorem ofEntropy_toList (entropy : Bytes 16) : ofEntropy entropy.toList = .ok ⟨entropy⟩ := by
  rw [ofEntropy, Bytes.ofList?_eq_some_iff.mpr rfl]

theorem ofEntropy_of_length {entropy : List UInt8} (wrongLength : entropy.length ≠ 16) :
    ofEntropy entropy = .error (.entropySize entropy.length) := by
  rw [ofEntropy, Bytes.ofList?_eq_none_iff.mpr wrongLength]

/-- Entropy and phrases determine each other, and reading takes phrases only: each entropy
of 16 bytes has one phrase of twelve words, which reads back, words are read exactly if they
spell an entropy with its checksum, and the white space of a text makes no difference. -/
theorem codec_exact :
    (∀ entropy : Bytes 16, ∃ phrase, ofEntropy entropy.toList = .ok phrase ∧
      phrase.entropy = entropy ∧ phrase.words.length = 12 ∧
      (∀ word ∈ phrase.words, word ∈ Wordlist.english.toList) ∧
      ofWords phrase.words = .ok phrase) ∧
    (∀ entropy : List UInt8, entropy.length ≠ 16 →
      ofEntropy entropy = .error (.entropySize entropy.length)) ∧
    (∀ words phrase, ofWords words = .ok phrase ↔
      ∃ indices : List (Fin 2048), indices.length = 12 ∧ indices.map Wordlist.word = words ∧
        Spells indices phrase.entropy) ∧
    (∀ words phrase, ofWords words = .ok phrase →
      phrase.words = words ∧ ofEntropy phrase.entropy.toList = .ok phrase) ∧
    (∀ words result, ofWords words = result ↔ Verdict words result) ∧
    (∀ text, ofText text = ofWords (Text.words text)) ∧
    (∀ (text : String) (words : List String),
      Text.Spaced (words.map String.toList) text.toList → ofText text = ofWords words) := by
  refine ⟨?encode, fun _ => ofEntropy_of_length, ofWords_eq_ok_iff, ?decode, ofWords_eq_iff,
    fun _ => rfl, ?spaced⟩
  case encode =>
    intro entropy
    exact ⟨⟨entropy⟩, ofEntropy_toList entropy, rfl, length_words _,
      fun _ => mem_english_of_mem_words, ofWords_words _⟩
  case decode =>
    intro words phrase read
    exact ⟨words_of_ofWords read, ofEntropy_toList phrase.entropy⟩
  case spaced =>
    intro text words spaced
    rw [ofText, (Text.words_eq_iff text words).mpr spaced]

/-- The phrase of sixteen zero bytes, spaced in several ways. -/
theorem codec_exact_zeros :
    let words := List.replicate 11 "abandon" ++ ["about"]
    let zeros : Phrase := ⟨Vector.replicate 16 0⟩
    ofEntropy [] = .error (.entropySize 0) ∧ zeros.words = words ∧
      ofEntropy (List.replicate 16 0) = .ok zeros ∧
      ofText ("abandon\u00a0" ++ " ".intercalate words.tail ++ " \t\n") = .ok zeros := by
  obtain ⟨_, wrongLength, readIff, decode, _, _, spaced⟩ := codec_exact
  have read := (readIff (List.replicate 11 "abandon" ++ ["about"]) ⟨Vector.replicate 16 0⟩).mpr
    ⟨List.replicate 11 0 ++ [3], by decide +kernel, by decide +kernel, by decide +kernel⟩
  obtain ⟨sameWords, encoded⟩ := decode _ _ read
  refine ⟨wrongLength [] (by decide), sameWords, encoded, ?_⟩
  rw [← read]
  exact spaced _ _ ((Text.words_eq_iff _ _).mp (by decide +kernel))

end SeedVault.Phrase
