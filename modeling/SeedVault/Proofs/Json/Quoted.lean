/-
Texts between quotation marks. Reading finds exactly the content that is spelled up to the
closing mark, and skipping looks only at the form of the escapes.
-/

import SeedVault.Json.Text

namespace SeedVault.Json

/-- Four digits and the UTF-16 unit that they are the number of. -/
inductive SpellsUnit : List Char → Nat → Prop
  | digits {a b c d : Char} {first second third fourth : Nat} :
      Text.hexDigit? a = some first → Text.hexDigit? b = some second →
        Text.hexDigit? c = some third → Text.hexDigit? d = some fourth →
          SpellsUnit [a, b, c, d] (((first * 16 + second) * 16 + third) * 16 + fourth)

/-- A character that is written as it is, or by a letter. -/
inductive SpellsPlainly : List Char → Char → Prop
  | itself {char : Char} :
      char ≠ '"' → char ≠ '\\' → 0x20 ≤ char.toNat → SpellsPlainly [char] char
  | letter {letter char : Char} :
      escaped? letter = some char → SpellsPlainly ['\\', letter] char

/-- The character that two units stand for. -/
def pairChar (high low : Nat) : Char :=
  Char.ofNat (0x10000 + (high - 0xd800) * 0x400 + (low - 0xdc00))

/-- A character and a way to write it between quotation marks. -/
inductive SpellsChar : List Char → Char → Prop
  | plain {written : List Char} {char : Char} :
      SpellsPlainly written char → SpellsChar written char
  | unit {digits : List Char} {unit : Nat} :
      SpellsUnit digits unit → isLowSurrogate unit = false → isHighSurrogate unit = false →
        SpellsChar ('\\' :: 'u' :: digits) (Char.ofNat unit)
  | pair {highDigits lowDigits : List Char} {high low : Nat} :
      SpellsUnit highDigits high → isHighSurrogate high = true →
        SpellsUnit lowDigits low → isLowSurrogate low = true →
          SpellsChar ('\\' :: 'u' :: highDigits ++ '\\' :: 'u' :: lowDigits)
            (pairChar high low)

/-- A text and a way to write it between quotation marks. -/
inductive Spells : List Char → List Char → Prop
  | nil : Spells [] []
  | cons {written rest content : List Char} {char : Char} :
      SpellsChar written char → Spells rest content → Spells (written ++ rest) (char :: content)

/-- What may stand between quotation marks as far as its form goes: a unit may be half a
character. -/
inductive IsQuotable : List Char → Prop
  | nil : IsQuotable []
  | plain {written rest : List Char} {char : Char} :
      SpellsPlainly written char → IsQuotable rest → IsQuotable (written ++ rest)
  | unit {digits rest : List Char} {unit : Nat} :
      SpellsUnit digits unit → IsQuotable rest → IsQuotable ('\\' :: 'u' :: digits ++ rest)

theorem Spells.isQuotable {written content : List Char} (spells : Spells written content) :
    IsQuotable written := by
  induction spells with
  | nil => exact .nil
  | cons spellsChar _ ih =>
      cases spellsChar with
      | plain plainly => exact .plain plainly ih
      | unit spellsUnit _ _ => exact .unit spellsUnit ih
      | pair highSpells _ lowSpells _ =>
          have written := IsQuotable.unit highSpells (.unit lowSpells ih)
          simpa using written

theorem readUnit_eq_ok_iff {text rest : List Char} {unit : Nat} :
    readUnit text = .ok (unit, rest) ↔ ∃ digits, SpellsUnit digits unit ∧ text = digits ++ rest := by
  constructor
  · intro read
    unfold readUnit at read
    split at read
    · split at read
      · rename_i first second third fourth
        cases read
        exact ⟨_, .digits first second third fourth, rfl⟩
      · cases read
    · cases read
  · rintro ⟨_, ⟨first, second, third, fourth⟩, rfl⟩
    simp only [List.cons_append, List.nil_append, readUnit, first, second, third, fourth]

/-- How a text starts with a piece. -/
inductive StartsWith : Piece → List Char → List Char → Prop
  | close {rest : List Char} : StartsWith .close ('"' :: rest) rest
  | char {written rest : List Char} {char : Char} :
      SpellsPlainly written char → StartsWith (.char char) (written ++ rest) rest
  | unit {digits rest : List Char} {unit : Nat} :
      SpellsUnit digits unit → StartsWith (.unit unit) ('\\' :: 'u' :: digits ++ rest) rest

theorem startsWith_of_readPiece {text rest : List Char} {piece : Piece}
    (read : readPiece text = .ok (piece, rest)) : StartsWith piece text rest := by
  unfold readPiece at read
  split at read
  · cases read
  · cases read
    exact .close
  · cases read
  · split at read
    · rename_i unitRead
      cases read
      obtain ⟨digits, spellsUnit, rfl⟩ := readUnit_eq_ok_iff.mp unitRead
      exact .unit spellsUnit
    · cases read
  · split at read
    · rename_i escaped
      cases read
      exact .char (.letter escaped)
    · cases read
  · split at read
    · cases read
    · rename_i rest notQuote nothingAfter _ somethingAfter notControl
      cases read
      refine .char (.itself notQuote ?_ (Nat.not_lt.mp notControl))
      intro slash
      cases rest with
      | nil => exact nothingAfter slash rfl
      | cons letter rest => exact somethingAfter letter rest slash rfl

theorem readPiece_of_startsWith {text rest : List Char} {piece : Piece}
    (starts : StartsWith piece text rest) : readPiece text = .ok (piece, rest) := by
  cases starts with
  | close => rfl
  | unit spellsUnit =>
      have read := readUnit_eq_ok_iff.mpr ⟨_, spellsUnit, Eq.refl (_ ++ rest)⟩
      simp only [List.cons_append, readPiece, read]
  | char plainly =>
      cases plainly with
      | itself notQuote notSlash visible =>
          simp [readPiece, notSlash, Nat.not_lt.mpr visible]
      | letter escaped =>
          rename_i letter
          have different : letter ≠ 'u' := by
            rintro rfl
            cases escaped
          simp [readPiece, escaped]

/-- Reading a piece finds the one that a text starts with. -/
theorem readPiece_eq_ok_iff {text rest : List Char} {piece : Piece} :
    readPiece text = .ok (piece, rest) ↔ StartsWith piece text rest :=
  ⟨startsWith_of_readPiece, readPiece_of_startsWith⟩

theorem skipText_sound {text rest : List Char} (skipped : skipText text = .ok rest) :
    ∃ written, IsQuotable written ∧ text = written ++ '"' :: rest := by
  fun_induction skipText text with
  | case1 => cases skipped
  | case2 text rest' pieceRead =>
      cases skipped
      cases readPiece_eq_ok_iff.mp pieceRead
      exact ⟨[], .nil, rfl⟩
  | case3 text char rest' pieceRead ih =>
      obtain ⟨written, isQuotable, rfl⟩ := ih skipped
      cases readPiece_eq_ok_iff.mp pieceRead with
      | char plainly => exact ⟨_, .plain plainly isQuotable, by simp⟩
  | case4 text unit rest' pieceRead ih =>
      obtain ⟨written, isQuotable, rfl⟩ := ih skipped
      cases readPiece_eq_ok_iff.mp pieceRead with
      | unit spellsUnit => exact ⟨_, .unit spellsUnit isQuotable, by simp⟩

theorem skipText_complete {written : List Char} (isQuotable : IsQuotable written)
    (rest : List Char) : skipText (written ++ '"' :: rest) = .ok rest := by
  induction isQuotable with
  | nil =>
      rw [List.nil_append, skipText, readPiece_of_startsWith .close]
  | plain plainly _ ih =>
      rw [List.append_assoc, skipText, readPiece_of_startsWith (.char plainly)]
      exact ih
  | unit spellsUnit _ ih =>
      rw [List.append_assoc, skipText, readPiece_of_startsWith (.unit spellsUnit)]
      exact ih

/-- Skipping takes what may stand between quotation marks, and the closing mark. -/
theorem skipText_eq_ok_iff {text rest : List Char} :
    skipText text = .ok rest ↔ ∃ written, IsQuotable written ∧ text = written ++ '"' :: rest := by
  constructor
  · exact skipText_sound
  · rintro ⟨written, isQuotable, rfl⟩
    exact skipText_complete isQuotable rest

theorem readLowSurrogate_sound {high : Nat} {text rest : List Char} {char : Char}
    (read : readLowSurrogate high text = .ok (char, rest)) :
    ∃ digits low, SpellsUnit digits low ∧ isLowSurrogate low = true ∧
      char = pairChar high low ∧
      text = '\\' :: 'u' :: digits ++ rest := by
  unfold readLowSurrogate at read
  split at read
  · cases read
  · cases read
  · split at read
    · cases read
    · rename_i unitRead
      obtain ⟨digits, spellsUnit, rfl⟩ := readUnit_eq_ok_iff.mp unitRead
      split at read
      · rename_i isLow
        simp only [Except.ok.injEq, Prod.mk.injEq] at read
        obtain ⟨rfl, rfl⟩ := read
        exact ⟨digits, _, spellsUnit, isLow, by rw [pairChar], rfl⟩
      · cases read
  · cases read

theorem readLowSurrogate_complete {high low : Nat} {digits : List Char}
    (spellsUnit : SpellsUnit digits low) (isLow : isLowSurrogate low = true) (rest : List Char) :
    readLowSurrogate high ('\\' :: 'u' :: digits ++ rest) =
      .ok (pairChar high low, rest) := by
  have read := readUnit_eq_ok_iff.mpr ⟨_, spellsUnit, Eq.refl (_ ++ rest)⟩
  rw [List.cons_append, List.cons_append, readLowSurrogate, read]
  dsimp only
  rw [if_pos isLow, pairChar]

/-- The piece that comes first and the units that belong to it spell one character. -/
theorem readUnitChar_sound {digits text rest : List Char} {unit : Nat} {char : Char}
    (spellsUnit : SpellsUnit digits unit) (read : readUnitChar unit text = .ok (char, rest)) :
    ∃ written, SpellsChar written char ∧ '\\' :: 'u' :: digits ++ text = written ++ rest := by
  unfold readUnitChar at read
  split at read
  · cases read
  · rename_i notLow
    rw [Bool.not_eq_true] at notLow
    split at read
    · rename_i isHigh
      obtain ⟨lowDigits, low, lowSpells, isLow, same, rfl⟩ := readLowSurrogate_sound read
      rw [same]
      exact ⟨_, .pair spellsUnit isHigh lowSpells isLow, by simp⟩
    · rename_i notHigh
      rw [Bool.not_eq_true] at notHigh
      simp only [Except.ok.injEq, Prod.mk.injEq] at read
      obtain ⟨rfl, rfl⟩ := read
      exact ⟨_, .unit spellsUnit notLow notHigh, rfl⟩

theorem isLowSurrogate_of_isHighSurrogate {unit : Nat} (isHigh : isHighSurrogate unit = true) :
    isLowSurrogate unit = false := by
  simp only [isHighSurrogate, Bool.and_eq_true, decide_eq_true_eq] at isHigh
  simp only [isLowSurrogate, Bool.and_eq_false_iff, decide_eq_false_iff_not]
  omega

theorem readUnitChar_of_plain {unit : Nat} (notLow : isLowSurrogate unit = false)
    (notHigh : isHighSurrogate unit = false) (rest : List Char) :
    readUnitChar unit rest = .ok (Char.ofNat unit, rest) := by
  simp only [readUnitChar, notLow, notHigh, Bool.false_eq_true, if_false]

theorem readUnitChar_of_pair {high low : Nat} {digits : List Char}
    (isHigh : isHighSurrogate high = true) (spellsUnit : SpellsUnit digits low)
    (isLow : isLowSurrogate low = true) (rest : List Char) :
    readUnitChar high ('\\' :: 'u' :: digits ++ rest) = .ok (pairChar high low, rest) := by
  simp only [readUnitChar, isLowSurrogate_of_isHighSurrogate isHigh, isHigh, Bool.false_eq_true,
    if_false, if_true]
  exact readLowSurrogate_complete spellsUnit isLow rest

theorem readChars_sound {before text chars rest : List Char}
    (read : readChars before text = .ok (chars, rest)) :
    ∃ written content, Spells written content ∧ chars = before.reverse ++ content ∧
      text = written ++ '"' :: rest := by
  fun_induction readChars before text with
  | case1 => cases read
  | case2 before text rest' pieceRead =>
      cases read
      cases readPiece_eq_ok_iff.mp pieceRead
      exact ⟨[], [], .nil, by simp, rfl⟩
  | case3 before text char rest' pieceRead ih =>
      obtain ⟨written, content, spells, rfl, rfl⟩ := ih read
      cases readPiece_eq_ok_iff.mp pieceRead with
      | char plainly => exact ⟨_, _, .cons (.plain plainly) spells, by simp, by simp⟩
  | case4 => cases read
  | case5 before text unit rest' pieceRead char rest'' charRead ih =>
      obtain ⟨written, content, spells, rfl, rfl⟩ := ih read
      cases readPiece_eq_ok_iff.mp pieceRead with
      | unit spellsUnit =>
          obtain ⟨piece, spellsChar, same⟩ := readUnitChar_sound spellsUnit charRead
          refine ⟨_, _, .cons spellsChar spells, by simp, ?_⟩
          rw [same, List.append_assoc]

/-- Reading takes a character, however it is written. -/
theorem readChars_spellsChar {before written : List Char} {char : Char}
    (spellsChar : SpellsChar written char) (rest : List Char) :
    readChars before (written ++ rest) = readChars (char :: before) rest := by
  conv => lhs; rw [readChars]
  cases spellsChar with
  | plain plainly => rw [readPiece_of_startsWith (.char plainly)]
  | unit spellsUnit notLow notHigh =>
      rw [readPiece_of_startsWith (.unit spellsUnit)]
      dsimp only
      rw [readUnitChar_of_plain notLow notHigh]
  | pair highSpells isHigh lowSpells isLow =>
      rw [List.append_assoc, readPiece_of_startsWith (.unit highSpells)]
      dsimp only
      rw [readUnitChar_of_pair isHigh lowSpells isLow]

theorem readChars_complete {written content : List Char} (spells : Spells written content)
    (before rest : List Char) :
    readChars before (written ++ '"' :: rest) = .ok (before.reverse ++ content, rest) := by
  induction spells generalizing before with
  | nil =>
      rw [List.nil_append, readChars, readPiece_of_startsWith .close]
      simp
  | cons spellsChar _ ih =>
      rw [List.append_assoc, readChars_spellsChar spellsChar, ih]
      simp

/-- Reading finds the content that is spelled up to the closing mark. -/
theorem readText_eq_ok_iff {text rest : List Char} {value : String} :
    readText text = .ok (value, rest) ↔
      ∃ written, Spells written value.toList ∧ text = written ++ '"' :: rest := by
  unfold readText
  constructor
  · intro read
    split at read
    · rename_i charsRead
      obtain ⟨written, content, spells, rfl, rfl⟩ := readChars_sound charsRead
      cases read
      exact ⟨written, by simpa using spells, rfl⟩
    · cases read
  · rintro ⟨written, spells, rfl⟩
    rw [readChars_complete spells]
    simp

end SeedVault.Json
