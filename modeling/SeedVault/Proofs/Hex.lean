/-
Texts of hexadecimal digits. Reading succeeds exactly on two digits of either case for each
byte, and what is written reads back.
-/

import SeedVault.Hex
import SeedVault.Proofs.Text.Utf8
import SeedVault.Text.Blank
import SeedVault.Text.Digit

namespace SeedVault.Hex

/-- Two digits of either case for each byte, the first one counting sixteen times. -/
inductive Denotes : List Char → List UInt8 → Prop
  | nil : Denotes [] []
  | cons {high low : Char} {upper lower : Nat} {digits : List Char} {byte : UInt8}
      {bytes : List UInt8} :
      Text.hexDigit? high = some upper → Text.hexDigit? low = some lower →
        byte.toNat = 16 * upper + lower → Denotes digits bytes →
          Denotes (high :: low :: digits) (byte :: bytes)

/-- A digit is found by its byte as it is by its character. -/
theorem value?_ofNat_fin :
    ∀ code : Fin 128, value? (UInt8.ofNat code) =
      (Text.hexDigit? (Char.ofNat code)).map UInt8.ofNat := by
  decide

theorem value?_ofNat {char : Char} (small : char.toNat < 128) :
    value? (UInt8.ofNat char.toNat) = (Text.hexDigit? char).map UInt8.ofNat := by
  have same := value?_ofNat_fin ⟨char.toNat, small⟩
  rwa [Char.ofNat_toNat] at same

theorem toNat_lt_of_hexDigit? {char : Char} {digit : Nat} (found : Text.hexDigit? char = some digit) :
    char.toNat < 128 := by
  have bound {top : Char} (below : char ≤ top) (small : top.toNat < 128) : char.toNat < 128 :=
    Nat.lt_of_le_of_lt (UInt32.le_iff_toNat_le.mp below) small
  unfold Text.hexDigit? at found
  split at found
  · rename_i range
    exact bound range.2 (by decide)
  · split at found
    · rename_i range
      exact bound range.2 (by decide)
    · split at found
      · rename_i range
        exact bound range.2 (by decide)
      · cases found

theorem lt_of_hexDigit?_fin :
    ∀ code : Fin 128, ∀ digit ∈ Text.hexDigit? (Char.ofNat code), digit < 16 := by
  decide

theorem lt_of_hexDigit? {char : Char} {digit : Nat} (found : Text.hexDigit? char = some digit) :
    digit < 16 := by
  have bounded := lt_of_hexDigit?_fin ⟨char.toNat, toNat_lt_of_hexDigit? found⟩ digit
  rw [Char.ofNat_toNat] at bounded
  exact bounded found

theorem lt_of_isDigit {code : UInt8} (digit : isDigit code = true) : code < 128 := by
  unfold isDigit value? at digit
  split at digit
  · rename_i range
    exact UInt8.lt_of_le_of_lt range.2 (by decide)
  · split at digit
    · rename_i range
      exact UInt8.lt_of_le_of_lt range.2 (by decide)
    · split at digit
      · rename_i range
        exact UInt8.lt_of_le_of_lt range.2 (by decide)
      · cases digit

/-- The bytes of a character are digits exactly if it is one. -/
theorem isDigit_utf8EncodeChar_iff {char : Char} :
    (∀ code ∈ String.utf8EncodeChar char, isDigit code = true) ↔
      ∃ digit, Text.hexDigit? char = some digit := by
  constructor
  · intro digits
    have small := Text.toNat_lt_of_utf8EncodeChar fun code member => lt_of_isDigit (digits code member)
    have isOne := digits (UInt8.ofNat char.toNat) (by
      rw [Text.utf8EncodeChar_of_lt small]
      exact List.mem_singleton_self _)
    rw [isDigit, value?_ofNat small, Option.isSome_map] at isOne
    exact Option.isSome_iff_exists.mp isOne
  · rintro ⟨digit, found⟩ code member
    have small := toNat_lt_of_hexDigit? found
    rw [Text.utf8EncodeChar_of_lt small, List.mem_singleton] at member
    rw [member, isDigit, value?_ofNat small, found]
    rfl

/-- The bytes of a text are digits exactly if its characters are. -/
theorem isDigit_flatMap_iff {chars : List Char} :
    (∀ code ∈ chars.flatMap String.utf8EncodeChar, isDigit code = true) ↔
      ∀ char ∈ chars, ∃ digit, Text.hexDigit? char = some digit := by
  simp only [List.mem_flatMap, forall_exists_index, and_imp]
  constructor
  · intro digits char member
    exact isDigit_utf8EncodeChar_iff.mp fun code inside => digits code char member inside
  · intro digits code char member inside
    exact isDigit_utf8EncodeChar_iff.mpr (digits char member) code inside

theorem combine_fin : ∀ upper lower : Fin 16,
    (UInt8.ofNat upper <<< 4 ||| UInt8.ofNat lower).toNat = 16 * upper.val + lower.val := by
  decide

theorem toNat_combine {upper lower : Nat} (upperFits : upper < 16) (lowerFits : lower < 16) :
    (UInt8.ofNat upper <<< 4 ||| UInt8.ofNat lower).toNat = 16 * upper + lower :=
  combine_fin ⟨upper, upperFits⟩ ⟨lower, lowerFits⟩

theorem value_of_hexDigit? {char : Char} {digit : Nat} (found : Text.hexDigit? char = some digit) :
    value (UInt8.ofNat char.toNat) = UInt8.ofNat digit := by
  rw [value, value?_ofNat (toNat_lt_of_hexDigit? found), found]
  rfl

/-- Digits denote exactly the bytes that their pairs are decoded to. -/
theorem denotes_iff {chars : List Char} {bytes : List UInt8} :
    Denotes chars bytes ↔
      (∀ char ∈ chars, ∃ digit, Text.hexDigit? char = some digit) ∧
        chars.length = 2 * bytes.length ∧
        decodeDigits (chars.map fun char => UInt8.ofNat char.toNat) = bytes := by
  constructor
  · intro denotes
    induction denotes with
    | nil => exact ⟨by simp, rfl, rfl⟩
    | cons highFound lowFound sum _ ih =>
        obtain ⟨digits, size, decoded⟩ := ih
        refine ⟨?_, by simp only [List.length_cons, size]; omega, ?_⟩
        · simp only [List.forall_mem_cons]
          exact ⟨⟨_, highFound⟩, ⟨_, lowFound⟩, digits⟩
        · simp only [List.map_cons, decodeDigits, decoded, value_of_hexDigit? highFound,
            value_of_hexDigit? lowFound, List.cons.injEq, and_true]
          rw [← UInt8.toNat_inj, sum,
            toNat_combine (lt_of_hexDigit? highFound) (lt_of_hexDigit? lowFound)]
  · rintro ⟨digits, size, decoded⟩
    induction bytes generalizing chars with
    | nil =>
        rw [List.length_nil, List.length_eq_zero_iff] at size
        rw [size]
        exact .nil
    | cons byte bytes ih =>
        match chars, size with
        | high :: low :: chars, size =>
            simp only [List.forall_mem_cons] at digits
            obtain ⟨⟨upper, highFound⟩, ⟨lower, lowFound⟩, digits⟩ := digits
            simp only [List.map_cons, decodeDigits, value_of_hexDigit? highFound,
              value_of_hexDigit? lowFound, List.cons.injEq] at decoded
            refine .cons highFound lowFound ?_ (ih digits ?_ decoded.2)
            · rw [← decoded.1,
                toNat_combine (lt_of_hexDigit? highFound) (lt_of_hexDigit? lowFound)]
            · simp only [List.length_cons] at size
              omega

/-- Looking up the digits of each byte by place is decoding the pairs in turn. -/
theorem ofFn_eq_decodeDigits {size : Nat} {codes : List UInt8} (fits : codes.length = 2 * size) :
    (List.ofFn fun index : Fin size =>
      value (codes.getD (2 * index.val) 0) <<< 4 ||| value (codes.getD (2 * index.val + 1) 0)) =
      decodeDigits codes := by
  induction size generalizing codes with
  | zero =>
      rw [List.length_eq_zero_iff.mp fits]
      rfl
  | succ size ih =>
      match codes, fits with
      | high :: low :: codes, fits =>
          have restFits : codes.length = 2 * size := by
            simp only [List.length_cons] at fits
            omega
          rw [List.ofFn_succ, decodeDigits, ← ih restFits]
          rfl

/-- Pairs of digits denote bytes. -/
theorem exists_denotes {size : Nat} {chars : List Char} (fits : chars.length = 2 * size)
    (digits : ∀ char ∈ chars, ∃ digit, Text.hexDigit? char = some digit) :
    ∃ bytes : List UInt8, bytes.length = size ∧ Denotes chars bytes := by
  induction size generalizing chars with
  | zero =>
      rw [List.length_eq_zero_iff.mp fits]
      exact ⟨[], rfl, .nil⟩
  | succ size ih =>
      match chars, fits with
      | high :: low :: rest, fits =>
          simp only [List.forall_mem_cons] at digits
          obtain ⟨⟨upper, highFound⟩, ⟨lower, lowFound⟩, digits⟩ := digits
          obtain ⟨bytes, length, denotes⟩ := ih (by simpa [Nat.mul_succ] using fits) digits
          have bounded := lt_of_hexDigit? highFound
          have lowBounded := lt_of_hexDigit? lowFound
          refine ⟨UInt8.ofNat (16 * upper + lower) :: bytes, congrArg (· + 1) length,
            .cons highFound lowFound ?_ denotes⟩
          rw [UInt8.toNat_ofNat', Nat.mod_eq_of_lt (by omega)]

theorem isBlank_of_hexDigit?_fin : ∀ code : Fin 128,
    (Text.hexDigit? (Char.ofNat code)).isSome → Text.isBlank (Char.ofNat code) = false := by
  decide

/-- A digit is not white space. -/
theorem isBlank_of_hexDigit? {char : Char} {digit : Nat}
    (found : Text.hexDigit? char = some digit) : Text.isBlank char = false := by
  have solid := isBlank_of_hexDigit?_fin ⟨char.toNat, toNat_lt_of_hexDigit? found⟩
  rw [Char.ofNat_toNat, found] at solid
  exact solid rfl

/-- A text of digits has one byte for each character. -/
theorem utf8_of_isDigit {text : String} (areDigits : ∀ code ∈ Text.utf8 text, isDigit code = true) :
    Text.utf8 text = text.toList.map fun char => UInt8.ofNat char.toNat := by
  apply Text.flatMap_utf8EncodeChar_of_lt
  intro char member
  obtain ⟨_, found⟩ := isDigit_flatMap_iff.mp areDigits char member
  exact toNat_lt_of_hexDigit? found

/-- Reading a byte string of a given length succeeds exactly on the digits that denote it. -/
theorem decode_eq_ok_iff_denotes {size : Nat} {text : String} {bytes : Bytes size} :
    decode size text = .ok bytes ↔ Denotes text.toList bytes.toList := by
  rw [denotes_iff, ← isDigit_flatMap_iff, Vector.length_toList]
  unfold decode
  constructor
  · intro decoded
    dsimp only at decoded
    split at decoded
    · cases decoded
    · rename_i fits
      rw [ne_eq, Decidable.not_not] at fits
      split at decoded
      · cases decoded
      · rename_i digits
        have areDigits : ∀ code ∈ Text.utf8 text, isDigit code = true := by
          simpa using List.findIdx?_eq_none_iff.mp digits
        have ascii := utf8_of_isDigit areDigits
        have read := congrArg Vector.toList (Except.ok.inj decoded)
        rw [Vector.toList_ofFn, ofFn_eq_decodeDigits fits, ascii] at read
        rw [ascii, List.length_map] at fits
        exact ⟨areDigits, fits, read⟩
  · rintro ⟨areDigits, fits, read⟩
    have ascii := utf8_of_isDigit areDigits
    have sameLength : (Text.utf8 text).length = 2 * size := by
      rw [ascii, List.length_map, fits]
    have noFault : (Text.utf8 text).findIdx? (fun code => !isDigit code) = none := by
      rw [List.findIdx?_eq_none_iff]
      intro code member
      rw [areDigits code member]
      rfl
    dsimp only
    rw [if_neg (by simp [sameLength]), noFault]
    apply congrArg Except.ok
    rw [← Vector.toList_inj, Vector.toList_ofFn, ofFn_eq_decodeDigits sameLength, ascii, read]

theorem hexDigit?_digit_fin :
    ∀ value : Fin 16, Text.hexDigit? (digit (UInt8.ofNat value)) = some value.val := by
  decide

theorem hexDigit?_digit {code : UInt8} (small : code.toNat < 16) :
    Text.hexDigit? (digit code) = some code.toNat := by
  have found := hexDigit?_digit_fin ⟨code.toNat, small⟩
  rwa [UInt8.ofNat_toNat] at found

theorem toNat_high (byte : UInt8) : (byte >>> 4).toNat = byte.toNat / 16 := by
  rw [UInt8.toNat_shiftRight]
  exact Nat.shiftRight_eq_div_pow byte.toNat 4

theorem toNat_low (byte : UInt8) : (byte &&& 15).toNat = byte.toNat % 16 := by
  rw [UInt8.toNat_and]
  exact Nat.and_two_pow_sub_one_eq_mod byte.toNat 4

/-- What is written for some bytes denotes them. -/
theorem denotes_encode (bytes : List UInt8) : Denotes (encode bytes).toList bytes := by
  rw [encode, String.toList_ofList]
  induction bytes with
  | nil => exact .nil
  | cons byte bytes ih =>
      have high := toNat_high byte
      have low := toNat_low byte
      have bounded := byte.toNat_lt
      rw [List.flatMap_cons]
      refine .cons (hexDigit?_digit ?_) (hexDigit?_digit ?_) ?_ ih
      all_goals omega

theorem hexDigit?_toLower_fin : ∀ code : Fin 128,
    Text.hexDigit? (Char.ofNat code).toLower = Text.hexDigit? (Char.ofNat code) := by
  decide

/-- The case of a digit does not matter. -/
theorem hexDigit?_toLower (char : Char) : Text.hexDigit? char.toLower = Text.hexDigit? char := by
  by_cases small : char.toNat < 128
  · have same := hexDigit?_toLower_fin ⟨char.toNat, small⟩
    rwa [Char.ofNat_toNat] at same
  · have unchanged : char.toLower = char :=
      dif_neg fun range =>
        small (Nat.lt_of_le_of_lt (UInt32.le_iff_toNat_le.mp range.2) (by decide))
    rw [unchanged]

/-- Texts that differ at most in case denote the same bytes. -/
theorem Denotes.of_map_toLower_eq {left right : List Char} {bytes : List UInt8}
    (same : left.map Char.toLower = right.map Char.toLower) (denotes : Denotes left bytes) :
    Denotes right bytes := by
  induction denotes generalizing right with
  | nil =>
      rw [List.map_nil, eq_comm, List.map_eq_nil_iff] at same
      rw [same]
      exact .nil
  | cons highFound lowFound sum _ ih =>
      obtain ⟨high, _, rfl, sameHigh, same⟩ := List.map_eq_cons_iff.mp same.symm
      obtain ⟨low, right, rfl, sameLow, same⟩ := List.map_eq_cons_iff.mp same
      rw [← hexDigit?_toLower, ← sameHigh, hexDigit?_toLower] at highFound
      rw [← hexDigit?_toLower, ← sameLow, hexDigit?_toLower] at lowFound
      exact .cons highFound lowFound sum (ih same.symm)

theorem eq_digit_of_hexDigit?_fin : ∀ code : Fin 128,
    ∀ value ∈ Text.hexDigit? (Char.ofNat code), (Char.ofNat code).isUpper = false →
      Char.ofNat code = digit (UInt8.ofNat value) := by
  decide

theorem eq_digit_of_hexDigit? {char : Char} {value : Nat}
    (found : Text.hexDigit? char = some value) (lower : char.isUpper = false) :
    char = digit (UInt8.ofNat value) := by
  have same := eq_digit_of_hexDigit?_fin ⟨char.toNat, toNat_lt_of_hexDigit? found⟩ value
  rw [Char.ofNat_toNat] at same
  exact same found lower

theorem isUpper_digit_fin : ∀ value : Fin 16, (digit (UInt8.ofNat value)).isUpper = false := by
  decide

/-- Bytes are written in lower case. -/
theorem isUpper_of_mem_encode {bytes : List UInt8} {char : Char}
    (member : char ∈ (encode bytes).toList) : char.isUpper = false := by
  have lower {value : UInt8} (small : value.toNat < 16) : (digit value).isUpper = false := by
    have same := isUpper_digit_fin ⟨value.toNat, small⟩
    rwa [UInt8.ofNat_toNat] at same
  rw [encode, String.toList_ofList, List.mem_flatMap] at member
  obtain ⟨byte, _, member⟩ := member
  have bounded := byte.toNat_lt
  simp only [encodeByte, List.mem_cons, List.not_mem_nil, or_false] at member
  rcases member with rfl | rfl
  · apply lower
    rw [toNat_high]
    omega
  · apply lower
    rw [toNat_low]
    omega

/-- In lower case there is one way only to write some bytes. -/
theorem Denotes.eq_encode {digits : List Char} {bytes : List UInt8} (denotes : Denotes digits bytes)
    (lower : ∀ char ∈ digits, char.isUpper = false) : digits = (encode bytes).toList := by
  rw [encode, String.toList_ofList]
  induction denotes with
  | nil => rfl
  | @cons high low upper rest digits byte bytes highFound lowFound sum _ ih =>
      simp only [List.forall_mem_cons] at lower
      obtain ⟨highLower, lowLower, lower⟩ := lower
      have upperFits := lt_of_hexDigit? highFound
      have restFits := lt_of_hexDigit? lowFound
      have first : byte >>> 4 = UInt8.ofNat upper := by
        apply UInt8.toNat_inj.mp
        rw [toNat_high, sum, UInt8.toNat_ofNat']
        omega
      have second : byte &&& 15 = UInt8.ofNat rest := by
        apply UInt8.toNat_inj.mp
        rw [toNat_low, sum, UInt8.toNat_ofNat']
        omega
      rw [List.flatMap_cons, encodeByte, first, second, ← eq_digit_of_hexDigit? highFound highLower,
        ← eq_digit_of_hexDigit? lowFound lowLower, ← ih lower]
      rfl

theorem isUpper_toLower_fin : ∀ code : Fin 128, (Char.ofNat code).toLower.isUpper = false := by
  decide

/-- Digits of either case are the written ones in lower case. -/
theorem Denotes.map_toLower_eq {digits : List Char} {bytes : List UInt8}
    (denotes : Denotes digits bytes) : digits.map Char.toLower = (encode bytes).toList := by
  have lowered : Denotes (digits.map Char.toLower) bytes := by
    induction denotes with
    | nil => exact .nil
    | cons highFound lowFound sum _ ih =>
        rw [← hexDigit?_toLower] at highFound lowFound
        exact .cons highFound lowFound sum ih
  apply lowered.eq_encode
  intro char member
  obtain ⟨char, digit, rfl⟩ := List.mem_map.mp member
  obtain ⟨_, found⟩ := (denotes_iff.mp denotes).1 char digit
  have lower := isUpper_toLower_fin ⟨char.toNat, toNat_lt_of_hexDigit? found⟩
  rwa [Char.ofNat_toNat] at lower

end SeedVault.Hex
