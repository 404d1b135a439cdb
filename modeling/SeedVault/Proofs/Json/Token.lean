/-
White space and literals in JSON, and what may follow a value.
-/

import SeedVault.Json.Problem
import SeedVault.Proofs.Result
import Mathlib.Data.List.TakeWhile

namespace SeedVault.Json

/-- What goes before the rest of a text that was skipped. -/
theorem map_pair_eq_ok_iff {α : Type} {result : Except Problem (List Char)} {value found : α}
    {rest : List Char} :
    result.map (value, ·) = .ok (found, rest) ↔ value = found ∧ result = .ok rest := by
  cases result <;> simp [Except.map]

/-- What is made of a value that was read. -/
theorem map_value_eq_ok_iff {α β : Type} {result : Reading α} {f : α → β} {value : β}
    {rest : List Char} :
    (result.map fun (source, rest) => (f source, rest)) = .ok (value, rest) ↔
      ∃ source, f source = value ∧ result = .ok (source, rest) := by
  cases result with
  | error problem => simp [Except.map]
  | ok found =>
      obtain ⟨source, rest'⟩ := found
      simp only [Except.map, Except.ok.injEq, Prod.mk.injEq]
      constructor
      · rintro ⟨rfl, rfl⟩
        exact ⟨source, rfl, rfl, rfl⟩
      · rintro ⟨_, rfl, rfl, rfl⟩
        exact ⟨rfl, rfl⟩

/-- A text of nothing but white space. -/
def Blank (text : List Char) : Prop :=
  ∀ char ∈ text, isBlank char = true

theorem Blank.nil : Blank [] := by
  simp [Blank]

theorem Blank.append {left right : List Char} (blankLeft : Blank left) (blankRight : Blank right) :
    Blank (left ++ right) := by
  intro char member
  exact (List.mem_append.mp member).elim (blankLeft char) (blankRight char)

theorem skipBlank_append {before : List Char} (blank : Blank before) (text : List Char) :
    skipBlank (before ++ text) = skipBlank text :=
  List.dropWhile_append_of_pos blank

theorem skipBlank_cons {char : Char} (solid : isBlank char = false) (text : List Char) :
    skipBlank (char :: text) = char :: text := by
  rw [skipBlank, List.dropWhile_cons, if_neg (by simp [solid])]

/-- White space in front of something solid is all that is skipped. -/
theorem skipBlank_append_cons {before : List Char} {char : Char} (blank : Blank before)
    (solid : isBlank char = false) (text : List Char) :
    skipBlank (before ++ char :: text) = char :: text := by
  rw [skipBlank_append blank, skipBlank_cons solid]

theorem skipBlank_of_blank {text : List Char} (blank : Blank text) : skipBlank text = [] :=
  List.dropWhile_eq_nil_iff.mpr blank

/-- What is skipped is white space. -/
theorem exists_blank (text : List Char) : ∃ before, Blank before ∧ text = before ++ skipBlank text := by
  refine ⟨text.takeWhile isBlank, ?_, List.takeWhile_append_dropWhile.symm⟩
  intro char member
  exact List.mem_takeWhile_imp member

theorem exists_blank_of_eq {text rest : List Char} (skipped : skipBlank text = rest) :
    ∃ before, Blank before ∧ text = before ++ rest := by
  rw [← skipped]
  exact exists_blank text

theorem atEnd_eq_ok_iff {text : List Char} : atEnd text = .ok () ↔ Blank text := by
  rw [atEnd]
  constructor
  · intro ended
    split at ended
    · rename_i empty
      exact List.dropWhile_eq_nil_iff.mp (List.isEmpty_iff.mp empty)
    · cases ended
  · intro blank
    rw [skipBlank_of_blank blank]
    rfl

theorem literal_eq_ok_iff {letters text rest : List Char} :
    literal letters text = .ok rest ↔ text = letters ++ rest := by
  induction letters generalizing text with
  | nil => simp [literal]
  | cons letter letters ih =>
      cases text with
      | nil => simp [literal]
      | cons char text =>
          rw [literal, List.cons_append, List.cons.injEq]
          split
          · rename_i same
            rw [ih]
            exact (and_iff_right same).symm
          · rename_i different
            simp [different]

/-- After a value comes white space, a comma, a closing bracket or nothing. -/
def EndsValue (rest : List Char) : Prop :=
  ∀ char ∈ rest.head?, isBlank char = true ∨ char = ',' ∨ char = ']' ∨ char = '}'

theorem EndsValue.cons {char : Char} (ends : char = ',' ∨ char = ']' ∨ char = '}')
    (rest : List Char) : EndsValue (char :: rest) := by
  rintro _ ⟨⟩
  exact .inr ends

/-- White space may stand between a value and what ends it. -/
theorem EndsValue.append {blank rest : List Char} (isBlank : Blank blank) (ends : EndsValue rest) :
    EndsValue (blank ++ rest) := by
  cases blank with
  | nil => exact ends
  | cons char blank =>
      rintro _ ⟨⟩
      exact .inl (isBlank char List.mem_cons_self)

end SeedVault.Json
