/-
What is wrong with a text that is not read as hexadecimal digits. The length is looked at first, in
bytes of the text; then the first byte that is no digit is reported, in whichever half of a pair
it stands.
-/

import SeedVault.Proofs.Hex

namespace SeedVault.Hex

/-- All digits, of either case. -/
def digitLetters : String := "0123456789abcdefABCDEF"

/-- Bytes that are codes of digits. -/
def IsDigitCode (code : UInt8) : Prop :=
  code ∈ Text.utf8 digitLetters

instance (code : UInt8) : Decidable (IsDigitCode code) :=
  inferInstanceAs (Decidable (code ∈ Text.utf8 digitLetters))

/-- A text of as many digits as wanted. -/
structure AreDigits (count : Nat) (text : String) : Prop where
  length : text.length = count
  digits : ∀ char ∈ text.toList, char ∈ digitLetters.toList

theorem isDigit_iff_fin : ∀ code : Fin 256,
    isDigit (UInt8.ofNat code) = true ↔ UInt8.ofNat code ∈ Text.utf8 digitLetters := by
  decide +kernel

theorem isDigit_iff {code : UInt8} : isDigit code = true ↔ IsDigitCode code := by
  have same := isDigit_iff_fin ⟨code.toNat, code.toNat_lt⟩
  rwa [UInt8.ofNat_toNat] at same

theorem isDigit_eq_false_iff {code : UInt8} : isDigit code = false ↔ ¬ IsDigitCode code := by
  rw [← isDigit_iff, Bool.not_eq_true]

theorem isSome_hexDigit?_fin : ∀ code : Fin 128,
    (Text.hexDigit? (Char.ofNat code)).isSome = true ↔ Char.ofNat code ∈ digitLetters.toList := by
  decide +kernel

theorem exists_hexDigit?_iff {char : Char} :
    (∃ digit, Text.hexDigit? char = some digit) ↔ char ∈ digitLetters.toList := by
  rw [← Option.isSome_iff_exists]
  have all : digitLetters.toList.all (fun letter => letter.toNat < 128) = true := by decide
  have small (member : char ∈ digitLetters.toList) : char.toNat < 128 :=
    of_decide_eq_true (List.all_eq_true.mp all char member)
  by_cases inside : char.toNat < 128
  · have same := isSome_hexDigit?_fin ⟨char.toNat, inside⟩
    rwa [Char.ofNat_toNat] at same
  · refine iff_of_false (fun found => ?_) fun member => inside (small member)
    obtain ⟨digit, found⟩ := Option.isSome_iff_exists.mp found
    exact inside (toNat_lt_of_hexDigit? found)

theorem areDigits_iff {size : Nat} {text : String} :
    AreDigits (2 * size) text ↔ text.toList.length = 2 * size ∧
      ∀ char ∈ text.toList, ∃ digit, Text.hexDigit? char = some digit := by
  simp only [exists_hexDigit?_iff, String.length_toList]
  constructor
  · intro fits
    exact ⟨fits.length, fits.digits⟩
  · rintro ⟨length, digits⟩
    exact ⟨length, digits⟩

/-- A text is read exactly if it is two digits for each byte. -/
theorem exists_decode_iff {size : Nat} {text : String} :
    (∃ bytes, decode size text = .ok bytes) ↔ AreDigits (2 * size) text := by
  rw [areDigits_iff]
  constructor
  · rintro ⟨bytes, decoded⟩
    obtain ⟨digits, length, _⟩ := denotes_iff.mp (decode_eq_ok_iff_denotes.mp decoded)
    rw [Vector.length_toList] at length
    exact ⟨length, digits⟩
  · rintro ⟨length, digits⟩
    obtain ⟨bytes, rfl, denotes⟩ := exists_denotes length digits
    exact ⟨⟨bytes.toArray, List.size_toArray⟩, decode_eq_ok_iff_denotes.mpr denotes⟩

/-- The bytes that are read are those that the text is written for, but for the case. -/
theorem decode_eq_ok_iff_toLower {size : Nat} {text : String} {bytes : Bytes size} :
    decode size text = .ok bytes ↔ encode bytes.toList = text.toLower := by
  have lower : text.toLower.toList = text.toList.map Char.toLower := String.toList_map
  rw [decode_eq_ok_iff_denotes, ← String.toList_inj, lower]
  constructor
  · exact fun denotes => denotes.map_toLower_eq.symm
  · intro written
    have lowered : (encode bytes.toList).toList.map Char.toLower = text.toList.map Char.toLower := by
      rw [(denotes_encode bytes.toList).map_toLower_eq, written]
    exact (denotes_encode bytes.toList).of_map_toLower_eq lowered

/-- What is written for some bytes is read as these bytes. -/
theorem decode_encode {size : Nat} (bytes : Bytes size) :
    decode size (encode bytes.toList) = .ok bytes :=
  decode_eq_ok_iff_denotes.mpr (denotes_encode bytes.toList)

theorem findIdx?_of_first {before after : List UInt8} {code : UInt8}
    (digits : ∀ other ∈ before, isDigit other = true) (wrong : isDigit code = false) :
    (before ++ code :: after).findIdx? (fun code => !isDigit code) = some before.length := by
  have noneBefore : before.findIdx? (fun code => !isDigit code) = none := by
    rw [List.findIdx?_eq_none_iff]
    intro other member
    rw [digits other member]
    rfl
  rw [List.findIdx?_append, noneBefore, List.findIdx?_cons, wrong]
  simp

/-- What is wrong with a text that should be the digits of some bytes. -/
inductive Faulty (size : Nat) (text : String) : Fault → Prop
  | length : text.utf8ByteSize ≠ 2 * size → Faulty size text (.length text.utf8ByteSize)
  | digit {before after : List UInt8} {code : UInt8} :
      text.utf8ByteSize = 2 * size → Text.utf8 text = before ++ code :: after →
        (∀ other ∈ before, IsDigitCode other) → ¬ IsDigitCode code →
          Faulty size text (.digit code before.length)

namespace Faulty

variable {size : Nat} {text : String} {fault : Fault}

/-- The reader complains about what is wrong. -/
theorem decode_eq (faulty : Faulty size text fault) : decode size text = .error fault := by
  unfold decode
  dsimp only
  rw [Text.length_utf8]
  cases faulty with
  | length misfit => rw [if_pos misfit]
  | @digit before after code fits split digits wrong =>
      have found : (before ++ code :: after).findIdx? (fun code => !isDigit code) =
          some before.length :=
        findIdx?_of_first (fun other member => isDigit_iff.mpr (digits other member))
          (isDigit_eq_false_iff.mpr wrong)
      rw [if_neg (Decidable.not_not.mpr fits), split, found]
      simp

end Faulty

/-- A text is read, or else something is wrong with it. -/
theorem decode_cases (size : Nat) (text : String) :
    (∃ bytes, decode size text = .ok bytes) ∨ ∃ fault, Faulty size text fault := by
  by_cases fits : text.utf8ByteSize = 2 * size
  · cases found : (Text.utf8 text).find? fun code => !isDigit code with
    | none =>
        have digits : ∀ code ∈ Text.utf8 text, isDigit code = true := by
          simpa using List.find?_eq_none.mp found
        have ascii := utf8_of_isDigit digits
        have length : text.toList.length = 2 * size := by
          rw [← fits, ← Text.length_utf8, ascii, List.length_map]
        exact .inl (exists_decode_iff.mpr (areDigits_iff.mpr
          ⟨length, isDigit_flatMap_iff.mp digits⟩))
    | some code =>
        obtain ⟨wrong, before, after, split, digits⟩ := List.find?_eq_some_iff_append.mp found
        simp only [Bool.not_not, Bool.not_eq_true'] at wrong digits
        exact .inr ⟨_, .digit fits split (fun other member => isDigit_iff.mp (digits other member))
          (isDigit_eq_false_iff.mp wrong)⟩
  · exact .inr ⟨_, .length fits⟩

/-- The reader fails exactly on faulty texts, and it tells what is wrong. -/
theorem decode_eq_error_iff {size : Nat} {text : String} {fault : Fault} :
    decode size text = .error fault ↔ Faulty size text fault := by
  constructor
  · intro failed
    rcases decode_cases size text with ⟨bytes, decoded⟩ | ⟨found, faulty⟩
    · cases failed.symm.trans decoded
    · cases failed.symm.trans faulty.decode_eq
      exact faulty
  · exact Faulty.decode_eq

/-- A text is read exactly if it has two bytes for each byte that is wanted, all of them codes of
digits. -/
theorem exists_decode_iff_codes {size : Nat} {text : String} :
    (∃ bytes, decode size text = .ok bytes) ↔
      text.utf8ByteSize = 2 * size ∧ ∀ code ∈ Text.utf8 text, IsDigitCode code := by
  constructor
  · rintro ⟨bytes, decoded⟩
    have digits := (areDigits_iff.mp (exists_decode_iff.mp ⟨bytes, decoded⟩)).2
    refine ⟨Decidable.byContradiction fun misfit => ?_,
      fun code member => isDigit_iff.mp (isDigit_flatMap_iff.mpr digits code member)⟩
    cases decoded.symm.trans (Faulty.length misfit).decode_eq
  · rintro ⟨fits, codes⟩
    rcases decode_cases size text with found | ⟨fault, faulty⟩
    · exact found
    · cases faulty with
      | length misfit => exact absurd fits misfit
      | digit _ split _ wrong => exact absurd (codes _ (by rw [split]; simp)) wrong

/-- The value of a digit at a position. -/
def readDigit (position : Nat) (code : UInt8) : Except Fault UInt8 :=
  match value? code with
  | some value => .ok value
  | none => .error (.digit code position)

/-- Reads pairs of digits, the first of which is at a position. -/
def readPairs (position : Nat) : List UInt8 → Except Fault (List UInt8)
  | high :: low :: rest => do
    let upper ← readDigit position high
    let lower ← readDigit (position + 1) low
    let bytes ← readPairs (position + 2) rest
    return (upper <<< 4 ||| lower) :: bytes
  | _ => .ok []

theorem readDigit_of_isDigit {code : UInt8} (digit : isDigit code = true) (position : Nat) :
    readDigit position code = .ok (value code) := by
  obtain ⟨found, isValue⟩ := Option.isSome_iff_exists.mp digit
  rw [readDigit, value, isValue]
  rfl

theorem readDigit_of_not_isDigit {code : UInt8} (wrong : isDigit code = false) (position : Nat) :
    readDigit position code = .error (.digit code position) := by
  have none : value? code = none := by
    rw [← Option.isNone_iff_eq_none, ← Option.not_isSome, ← isDigit, wrong]
    rfl
  rw [readDigit, none]

theorem readPairs_of_digits {codes : List UInt8} (digits : ∀ code ∈ codes, isDigit code = true)
    (position : Nat) : readPairs position codes = .ok (decodeDigits codes) := by
  induction codes using decodeDigits.induct generalizing position with
  | case1 high low rest ih =>
      simp only [List.forall_mem_cons] at digits
      obtain ⟨highDigit, lowDigit, digits⟩ := digits
      rw [readPairs, readDigit_of_isDigit highDigit, readDigit_of_isDigit lowDigit, ih digits]
      rfl
  | case2 codes short =>
      match codes with
      | [] | [_] => rfl
      | high :: low :: rest => exact absurd rfl (short high low rest)

/-- The first byte that is no digit is found in whichever half of a pair it stands. -/
theorem readPairs_of_fault {before after : List UInt8} {code : UInt8}
    (even : (before ++ code :: after).length % 2 = 0)
    (digits : ∀ other ∈ before, isDigit other = true) (wrong : isDigit code = false)
    (position : Nat) :
    readPairs position (before ++ code :: after) =
      .error (.digit code (position + before.length)) := by
  match before with
  | [] =>
      match after with
      | [] => cases even
      | low :: rest =>
          rw [List.nil_append, readPairs, readDigit_of_not_isDigit wrong]
          rfl
  | [high] =>
      rw [List.forall_mem_singleton] at digits
      rw [List.singleton_append, readPairs, readDigit_of_isDigit digits,
        readDigit_of_not_isDigit wrong]
      rfl
  | high :: low :: before =>
      simp only [List.forall_mem_cons] at digits
      obtain ⟨highDigit, lowDigit, digits⟩ := digits
      have evenRest : (before ++ code :: after).length % 2 = 0 := by
        simp only [List.cons_append, List.length_cons] at even
        omega
      rw [List.cons_append, List.cons_append, readPairs, readDigit_of_isDigit highDigit,
        readDigit_of_isDigit lowDigit, readPairs_of_fault evenRest digits wrong]
      simp only [bind, Except.bind, List.length_cons, Nat.add_right_comm position 2, Nat.add_assoc]

/-- Reads the length first, and then pair by pair. -/
def decodeInPairs (size : Nat) (text : String) : Except Fault (List UInt8) :=
  if text.utf8ByteSize ≠ 2 * size then .error (.length text.utf8ByteSize)
  else readPairs 0 (Text.utf8 text)

theorem Faulty.decodeInPairs_eq {size : Nat} {text : String} {fault : Fault}
    (faulty : Faulty size text fault) : decodeInPairs size text = .error fault := by
  unfold decodeInPairs
  cases faulty with
  | length misfit => rw [if_pos misfit]
  | @digit before after code fits split digits wrong =>
      have even : (before ++ code :: after).length % 2 = 0 := by
        rw [← split, Text.length_utf8, fits]
        omega
      rw [if_neg (Decidable.not_not.mpr fits), split,
        readPairs_of_fault even (fun other member => isDigit_iff.mpr (digits other member))
          (isDigit_eq_false_iff.mpr wrong), Nat.zero_add]

/-- Reading pair by pair gives the same bytes, and the same complaints. -/
theorem decodeInPairs_eq_decode (size : Nat) (text : String) :
    decodeInPairs size text = (decode size text).map Vector.toList := by
  rcases decode_cases size text with ⟨bytes, decoded⟩ | ⟨fault, faulty⟩
  · obtain ⟨digits, length, read⟩ := denotes_iff.mp (decode_eq_ok_iff_denotes.mp decoded)
    have areDigits : ∀ code ∈ Text.utf8 text, isDigit code = true :=
      isDigit_flatMap_iff.mpr digits
    have codes := utf8_of_isDigit areDigits
    have fits : text.utf8ByteSize = 2 * size := by
      rw [← Text.length_utf8, codes, List.length_map, length, Vector.length_toList]
    rw [decodeInPairs, if_neg (Decidable.not_not.mpr fits),
      readPairs_of_digits areDigits, codes, read, decoded]
    rfl
  · rw [faulty.decodeInPairs_eq, faulty.decode_eq]
    rfl

end SeedVault.Hex
