/-
Texts that end too early. A reader that is given only a front of what it would read fails, and
says that the text has ended.
-/

import SeedVault.Proofs.Hex
import SeedVault.Proofs.Json.Members

namespace SeedVault.Json

/-- A text ends before another one that it starts. -/
def IsCut (cut text : List Char) : Prop :=
  ∃ char rest, text = cut ++ char :: rest

namespace IsCut

variable {cut left right text : List Char} {char : Char}

theorem not_nil : ¬ IsCut cut [] := by
  rintro ⟨char, rest, same⟩
  exact List.append_ne_nil_of_right_ne_nil cut (List.cons_ne_nil char rest) same.symm

/-- A text is cut in its first part or behind it. -/
theorem append_cases (isCut : IsCut cut (left ++ right)) :
    IsCut cut left ∨ ∃ tail, cut = left ++ tail ∧ IsCut tail right := by
  obtain ⟨char, rest, same⟩ := isCut
  rcases List.append_eq_append_iff.mp same with ⟨tail, rfl, behind⟩ | ⟨tail, rfl, behind⟩
  · exact .inr ⟨tail, rfl, char, rest, behind⟩
  · cases tail with
    | nil => exact .inr ⟨[], by simp, char, rest, behind.symm⟩
    | cons first tail => exact .inl ⟨first, tail, rfl⟩

theorem cons_cases (isCut : IsCut cut (char :: text)) :
    cut = [] ∨ ∃ tail, cut = char :: tail ∧ IsCut tail text := by
  rcases @append_cases cut [char] text isCut with ⟨_, rest, same⟩ | behind
  · left
    cases cut with
    | nil => rfl
    | cons _ _ => simp at same
  · exact .inr behind

theorem length_lt (isCut : IsCut cut text) : cut.length < text.length := by
  obtain ⟨char, rest, rfl⟩ := isCut
  simp

theorem mem (isCut : IsCut cut text) (member : char ∈ cut) : char ∈ text := by
  obtain ⟨next, rest, rfl⟩ := isCut
  exact List.mem_append_left _ member

theorem blank (isCut : IsCut cut text) (isBlank : Blank text) : Blank cut :=
  fun char member => isBlank char (isCut.mem member)

end IsCut

/-- What may follow a value may be cut, too. -/
theorem EndsValue.of_isCut {cut text : List Char} (ends : EndsValue text)
    (isCut : IsCut cut text) : EndsValue cut := by
  obtain ⟨char, rest, rfl⟩ := isCut
  cases cut with
  | nil => simp [EndsValue]
  | cons first cut => exact ends

/-- White space that is cut off, or before a text that is cut off. -/
theorem skipBlank_of_isCut {cut before text : List Char} {char : Char} (blank : Blank before)
    (isCut : IsCut cut (before ++ char :: text)) :
    skipBlank cut = [] ∨ ∃ tail, cut = before ++ char :: tail ∧ IsCut tail text := by
  rcases isCut.append_cases with inside | ⟨tail, rfl, behind⟩
  · exact .inl (skipBlank_of_blank (inside.blank blank))
  · rcases behind.cons_cases with rfl | ⟨tail, rfl, inside⟩
    · rw [List.append_nil]
      exact .inl (skipBlank_of_blank blank)
    · exact .inr ⟨tail, rfl, inside⟩

/-- Reading fails, and what is said is that the text ends too early. -/
def EndsEarly {α : Type} (result : Except Problem α) : Prop :=
  ∃ problem, result = .error problem ∧ problem.isEndOfInput = true

theorem EndsEarly.of_eq {α : Type} {result : Except Problem α} {problem : Problem}
    (failed : result = .error problem) (early : problem.isEndOfInput = true) : EndsEarly result :=
  ⟨problem, failed, early⟩

theorem EndsEarly.map {α β : Type} {result : Except Problem α} (ends : EndsEarly result)
    (change : α → β) : EndsEarly (result.map change) := by
  obtain ⟨problem, rfl, early⟩ := ends
  exact ⟨problem, rfl, early⟩

theorem EndsEarly.bind {α β : Type} {result : Except Problem α} (ends : EndsEarly result)
    (next : α → Except Problem β) : EndsEarly (result.bind next) := by
  obtain ⟨problem, rfl, early⟩ := ends
  exact ⟨problem, rfl, early⟩

theorem literal_of_isCut {letters cut : List Char} (isCut : IsCut cut letters) :
    EndsEarly (literal letters cut) := by
  induction letters generalizing cut with
  | nil => exact absurd isCut IsCut.not_nil
  | cons letter letters ih =>
      rcases isCut.cons_cases with rfl | ⟨tail, rfl, inside⟩
      · exact .of_eq rfl rfl
      · rw [literal, if_pos rfl]
        exact ih inside

theorem utf8ByteSize_of_utf8Size_eq_one {chars : List Char}
    (small : ∀ char ∈ chars, char.utf8Size = 1) :
    (String.ofList chars).utf8ByteSize = chars.length := by
  induction chars with
  | nil => rfl
  | cons char chars ih =>
      rw [List.forall_mem_cons] at small
      rw [String.ofList_cons, String.utf8ByteSize_append, String.utf8ByteSize_singleton, small.1,
        ih small.2, List.length_cons, Nat.add_comm]

theorem SpellsUnit.utf8Size_eq_one {digits : List Char} {unit : Nat}
    (spells : SpellsUnit digits unit) : ∀ char ∈ digits, char.utf8Size = 1 := by
  have small {char : Char} {digit : Nat} (found : Text.hexDigit? char = some digit) :
      char.utf8Size = 1 := by
    have bound := Hex.toNat_lt_of_hexDigit? found
    rw [Char.utf8Size_eq_one_iff, UInt32.le_iff_toNat_le]
    change char.toNat ≤ 127
    omega
  cases spells with
  | digits first second third fourth =>
      simp only [List.forall_mem_cons, small first, small second, small third, small fourth,
        List.not_mem_nil, IsEmpty.forall_iff, implies_true, and_self]

/-- Less than four digits end too early. -/
theorem readUnit_of_isCut {digits cut : List Char} {unit : Nat} (spells : SpellsUnit digits unit)
    (isCut : IsCut cut digits) : EndsEarly (readUnit cut) := by
  have short : cut.length < 4 := by
    have less := isCut.length_lt
    cases spells
    exact less
  have size : (String.ofList cut).utf8ByteSize < 4 := by
    rw [utf8ByteSize_of_utf8Size_eq_one]
    · exact short
    · exact fun char member => spells.utf8Size_eq_one char (isCut.mem member)
  unfold readUnit
  split
  · simp only [List.length_cons] at short
    omega
  · rw [if_pos size]
    exact .of_eq rfl rfl

/-- A unit is cut in its mark or in its digits. -/
theorem IsCut.unit_cases {digits cut : List Char} (isCut : IsCut cut ('\\' :: 'u' :: digits)) :
    cut = [] ∨ cut = ['\\'] ∨ ∃ tail, cut = '\\' :: 'u' :: tail ∧ IsCut tail digits := by
  rcases isCut.cons_cases with rfl | ⟨tail, rfl, inside⟩
  · exact .inl rfl
  · rcases inside.cons_cases with rfl | ⟨digits, rfl, cutDigits⟩
    · exact .inr (.inl rfl)
    · exact .inr (.inr ⟨digits, rfl, cutDigits⟩)

theorem readPiece_of_isCut_unit {digits cut : List Char} {unit : Nat}
    (spells : SpellsUnit digits unit) (isCut : IsCut cut ('\\' :: 'u' :: digits)) :
    EndsEarly (readPiece cut) := by
  rcases isCut.unit_cases with rfl | rfl | ⟨tail, rfl, inside⟩
  · exact .of_eq rfl rfl
  · exact .of_eq rfl rfl
  · obtain ⟨problem, failed, early⟩ := readUnit_of_isCut spells inside
    refine .of_eq ?_ early
    rw [readPiece, failed]

theorem readLowSurrogate_of_isCut {digits cut : List Char} {low : Nat}
    (spells : SpellsUnit digits low) (isCut : IsCut cut ('\\' :: 'u' :: digits)) (high : Nat) :
    EndsEarly (readLowSurrogate high cut) := by
  rcases isCut.unit_cases with rfl | rfl | ⟨tail, rfl, inside⟩
  · exact .of_eq rfl rfl
  · exact .of_eq rfl rfl
  · obtain ⟨problem, failed, early⟩ := readUnit_of_isCut spells inside
    refine .of_eq ?_ early
    rw [readLowSurrogate, failed]

theorem EndsEarly.readChars {before text : List Char} (ends : EndsEarly (readPiece text)) :
    EndsEarly (readChars before text) := by
  obtain ⟨problem, failed, early⟩ := ends
  refine .of_eq ?_ early
  rw [Json.readChars, failed]

/-- A character ends too early, however it is written. -/
theorem readChars_of_isCut_char {written cut : List Char} {char : Char}
    (spells : SpellsChar written char) (isCut : IsCut cut written) (before : List Char) :
    EndsEarly (readChars before cut) := by
  cases spells with
  | plain plainly =>
      apply EndsEarly.readChars
      cases plainly with
      | itself =>
          rcases isCut.cons_cases with rfl | ⟨_, _, inside⟩
          · exact .of_eq rfl rfl
          · exact absurd inside IsCut.not_nil
      | letter =>
          rcases isCut.cons_cases with rfl | ⟨_, rfl, inside⟩
          · exact .of_eq rfl rfl
          · rcases inside.cons_cases with rfl | ⟨_, _, inside⟩
            · exact .of_eq rfl rfl
            · exact absurd inside IsCut.not_nil
  | unit spellsUnit => exact (readPiece_of_isCut_unit spellsUnit isCut).readChars
  | pair highSpells isHigh lowSpells isLow =>
      rcases isCut.append_cases with inside | ⟨tail, rfl, behind⟩
      · exact (readPiece_of_isCut_unit highSpells inside).readChars
      · obtain ⟨problem, failed, early⟩ := readLowSurrogate_of_isCut lowSpells behind _
        refine .of_eq ?_ early
        rw [readChars, readPiece_of_startsWith (.unit highSpells)]
        dsimp only
        rw [readUnitChar, if_neg, if_pos isHigh, failed]
        rw [isLowSurrogate_of_isHighSurrogate isHigh]
        exact Bool.false_ne_true

theorem readChars_of_isCut {written content cut : List Char} (spells : Spells written content)
    (isCut : IsCut cut (written ++ ['"'])) (before : List Char) :
    EndsEarly (readChars before cut) := by
  induction spells generalizing cut before with
  | nil =>
      rcases isCut.cons_cases with rfl | ⟨_, _, inside⟩
      · exact EndsEarly.readChars (.of_eq rfl rfl)
      · exact absurd inside IsCut.not_nil
  | cons spellsChar _ ih =>
      rw [List.append_assoc] at isCut
      rcases isCut.append_cases with inside | ⟨tail, rfl, behind⟩
      · exact readChars_of_isCut_char spellsChar inside before
      · rw [readChars_spellsChar spellsChar]
        exact ih behind _

/-- A text ends too early if its closing mark is missing. -/
theorem readText_of_isCut {written content cut : List Char} (spells : Spells written content)
    (isCut : IsCut cut (written ++ ['"'])) : EndsEarly (readText cut) := by
  obtain ⟨problem, failed, early⟩ := readChars_of_isCut spells isCut []
  refine .of_eq ?_ early
  rw [readText, failed]

end SeedVault.Json
