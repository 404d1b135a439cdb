/-
The form of numbers. Skipping a number takes exactly what is one, up to what ends it.
-/

import SeedVault.Json.Number
import SeedVault.Proofs.Json.Token

namespace SeedVault.Json

/-- At least one digit. -/
def Digits (text : List Char) : Prop :=
  text ≠ [] ∧ ∀ char ∈ text, isDigit char = true

/-- The digits before the point, of which a leading zero stands alone. -/
inductive IsWhole : List Char → Prop
  | zero : IsWhole ['0']
  | digits {first : Char} {rest : List Char} :
      isDigit first = true → first ≠ '0' → (∀ char ∈ rest, isDigit char = true) →
        IsWhole (first :: rest)

inductive IsFraction : List Char → Prop
  | absent : IsFraction []
  | digits {digits : List Char} : Digits digits → IsFraction ('.' :: digits)

inductive IsSign : List Char → Prop
  | absent : IsSign []
  | plus : IsSign ['+']
  | minus : IsSign ['-']

inductive IsExponent : List Char → Prop
  | absent : IsExponent []
  | digits {mark : Char} {sign digits : List Char} :
      mark = 'e' ∨ mark = 'E' → IsSign sign → Digits digits → IsExponent (mark :: sign ++ digits)

/-- A number without its sign. -/
inductive IsMagnitude : List Char → Prop
  | mk {whole fraction exponent : List Char} :
      IsWhole whole → IsFraction fraction → IsExponent exponent →
        IsMagnitude (whole ++ fraction ++ exponent)

inductive IsNumber : List Char → Prop
  | plain {magnitude : List Char} : IsMagnitude magnitude → IsNumber magnitude
  | negative {magnitude : List Char} : IsMagnitude magnitude → IsNumber ('-' :: magnitude)

/-- What follows is no digit, and no sign of a fraction or an exponent. -/
structure EndsNumber (rest : List Char) : Prop where
  digit : ∀ char ∈ rest.head?, isDigit char = false
  point : ∀ char ∈ rest.head?, char ≠ '.'
  mark : ∀ char ∈ rest.head?, char ≠ 'e' ∧ char ≠ 'E'

theorem EndsNumber.of_endsValue {rest : List Char} (ends : EndsValue rest) : EndsNumber rest := by
  have solid : ∀ char ∈ rest.head?, isDigit char = false ∧ char ≠ '.' ∧ char ≠ 'e' ∧ char ≠ 'E' := by
    intro char first
    rcases ends char first with blank | rfl | rfl | rfl
    · simp only [isBlank, Bool.or_eq_true, beq_iff_eq] at blank
      rcases blank with ((rfl | rfl) | rfl) | rfl <;> decide
    · decide
    · decide
    · decide
  exact ⟨fun char first => (solid char first).1, fun char first => (solid char first).2.1,
    fun char first => (solid char first).2.2⟩

theorem skipDigits_append {digits rest : List Char} (areDigits : ∀ char ∈ digits, isDigit char = true)
    (ends : ∀ char ∈ rest.head?, isDigit char = false) : skipDigits (digits ++ rest) = rest := by
  rw [skipDigits, List.dropWhile_append_of_pos areDigits]
  cases rest with
  | nil => rfl
  | cons char rest =>
      rw [List.dropWhile_cons, if_neg]
      simp [ends char rfl]

theorem exists_digits (text : List Char) :
    ∃ digits, (∀ char ∈ digits, isDigit char = true) ∧ text = digits ++ skipDigits text := by
  refine ⟨text.takeWhile isDigit, ?_, List.takeWhile_append_dropWhile.symm⟩
  intro char member
  exact List.mem_takeWhile_imp member

theorem exists_digits_of_startsWithDigit {text : List Char} (starts : startsWithDigit text = true) :
    ∃ digits, Digits digits ∧ text = digits ++ skipDigits text := by
  obtain ⟨digits, areDigits, same⟩ := exists_digits text
  refine ⟨digits, ⟨?_, areDigits⟩, same⟩
  rintro rfl
  cases text with
  | nil => cases starts
  | cons char text =>
      have isOne : isDigit char = true := starts
      have shorter := congrArg List.length same
      rw [skipDigits, List.dropWhile_cons, if_pos isOne] at shorter
      have := (List.dropWhile_sublist isDigit (l := text)).length_le
      simp only [List.nil_append, List.length_cons] at shorter
      omega

theorem Digits.startsWithDigit {digits : List Char} (areDigits : Digits digits) (rest : List Char) :
    startsWithDigit (digits ++ rest) = true := by
  obtain ⟨nonempty, areDigits⟩ := areDigits
  cases digits with
  | nil => exact absurd rfl nonempty
  | cons char digits => exact areDigits char List.mem_cons_self

theorem startsWithDigit_of_ends {rest : List Char} (ends : ∀ char ∈ rest.head?, isDigit char = false) :
    startsWithDigit rest = false := by
  cases rest with
  | nil => rfl
  | cons char rest => exact ends char rfl

theorem exists_sign (text : List Char) : ∃ sign, IsSign sign ∧ text = sign ++ skipSign text := by
  unfold skipSign
  split
  · exact ⟨['+'], .plus, rfl⟩
  · exact ⟨['-'], .minus, rfl⟩
  · exact ⟨[], .absent, rfl⟩

theorem skipSign_append {sign digits : List Char} (isSign : IsSign sign) (areDigits : Digits digits)
    (rest : List Char) : skipSign (sign ++ (digits ++ rest)) = digits ++ rest := by
  cases isSign with
  | plus | minus => rfl
  | absent =>
      obtain ⟨nonempty, areDigits⟩ := areDigits
      cases digits with
      | nil => exact absurd rfl nonempty
      | cons char digits =>
          have isOne := areDigits char List.mem_cons_self
          unfold skipSign
          split
          · rename_i same
            rw [List.nil_append, List.cons_append, List.cons.injEq] at same
            rw [same.1] at isOne
            cases isOne
          · rename_i same
            rw [List.nil_append, List.cons_append, List.cons.injEq] at same
            rw [same.1] at isOne
            cases isOne
          · rfl

theorem skipExponentDigits_sound {text rest : List Char}
    (skipped : skipExponentDigits text = .ok rest) : ∃ digits, Digits digits ∧ text = digits ++ rest := by
  unfold skipExponentDigits at skipped
  split at skipped
  · rename_i starts
    cases skipped
    exact exists_digits_of_startsWithDigit starts
  · cases skipped

theorem skipExponent_sound {text rest : List Char} (skipped : skipExponent text = .ok rest) :
    ∃ exponent, IsExponent exponent ∧ text = exponent ++ rest := by
  have marked {mark : Char} {tail : List Char} (isMark : mark = 'e' ∨ mark = 'E')
      (skipped : skipExponentDigits (skipSign tail) = .ok rest) :
      ∃ exponent, IsExponent exponent ∧ mark :: tail = exponent ++ rest := by
    obtain ⟨sign, isSign, same⟩ := exists_sign tail
    obtain ⟨digits, areDigits, sameDigits⟩ := skipExponentDigits_sound skipped
    refine ⟨mark :: sign ++ digits, .digits isMark isSign areDigits, ?_⟩
    rw [same, sameDigits]
    simp
  unfold skipExponent at skipped
  split at skipped
  · exact marked (.inl rfl) skipped
  · exact marked (.inr rfl) skipped
  · cases skipped
    exact ⟨[], .absent, rfl⟩

theorem skipExponent_complete {exponent rest : List Char} (isExponent : IsExponent exponent)
    (ends : EndsNumber rest) : skipExponent (exponent ++ rest) = .ok rest := by
  cases isExponent with
  | absent =>
      rw [List.nil_append]
      unfold skipExponent
      split
      · exact absurd rfl (ends.mark 'e' rfl).1
      · exact absurd rfl (ends.mark 'E' rfl).2
      · rfl
  | @digits mark sign digits isMark isSign areDigits =>
      have skipped : skipExponentDigits (skipSign (sign ++ (digits ++ rest))) = .ok rest := by
        rw [skipSign_append isSign areDigits, skipExponentDigits,
          if_pos (areDigits.startsWithDigit rest), skipDigits_append areDigits.2 ends.digit]
      rw [List.append_assoc, List.cons_append]
      rcases isMark with rfl | rfl
      · exact skipped
      · exact skipped

theorem skipFraction_sound {text rest : List Char} (skipped : skipFraction text = .ok rest) :
    ∃ fraction exponent, IsFraction fraction ∧ IsExponent exponent ∧
      text = fraction ++ exponent ++ rest := by
  unfold skipFraction at skipped
  split at skipped
  · split at skipped
    · rename_i starts
      obtain ⟨digits, areDigits, same⟩ := exists_digits_of_startsWithDigit starts
      obtain ⟨exponent, isExponent, sameRest⟩ := skipExponent_sound skipped
      refine ⟨'.' :: digits, exponent, .digits areDigits, isExponent, ?_⟩
      rw [same, sameRest]
      simp
    · cases skipped
  · obtain ⟨exponent, isExponent, same⟩ := skipExponent_sound skipped
    exact ⟨[], exponent, .absent, isExponent, same⟩

/-- An exponent, or what follows a number, starts with no digit and no point. -/
theorem head?_exponent {exponent rest : List Char} (isExponent : IsExponent exponent)
    (ends : EndsNumber rest) :
    ∀ char ∈ (exponent ++ rest).head?, isDigit char = false ∧ char ≠ '.' := by
  intro char first
  cases isExponent with
  | absent => exact ⟨ends.digit char first, ends.point char first⟩
  | digits isMark _ _ =>
      cases first
      rcases isMark with rfl | rfl <;> decide

theorem skipFraction_complete {fraction exponent rest : List Char} (isFraction : IsFraction fraction)
    (isExponent : IsExponent exponent) (ends : EndsNumber rest) :
    skipFraction (fraction ++ (exponent ++ rest)) = .ok rest := by
  have solid := head?_exponent isExponent ends
  have skipped := skipExponent_complete isExponent ends
  cases isFraction with
  | absent =>
      rw [List.nil_append]
      unfold skipFraction
      split
      · rename_i same
        rw [same] at solid
        exact absurd rfl (solid '.' rfl).2
      · exact skipped
  | digits areDigits =>
      rw [List.cons_append, skipFraction, if_pos (areDigits.startsWithDigit _),
        skipDigits_append areDigits.2 fun char first => (solid char first).1]
      exact skipped

theorem skipNumber_sound {text rest : List Char} (skipped : skipNumber text = .ok rest) :
    ∃ magnitude, IsMagnitude magnitude ∧ text = magnitude ++ rest := by
  have rounded {whole tail : List Char} (isWhole : IsWhole whole)
      (skipped : skipFraction tail = .ok rest) :
      ∃ magnitude, IsMagnitude magnitude ∧ whole ++ tail = magnitude ++ rest := by
    obtain ⟨fraction, exponent, isFraction, isExponent, same⟩ := skipFraction_sound skipped
    refine ⟨_, .mk isWhole isFraction isExponent, ?_⟩
    rw [same]
    simp
  unfold skipNumber at skipped
  split at skipped
  · cases skipped
  · rename_i char tail
    split at skipped
    · rename_i zero
      split at skipped
      · cases skipped
      · rw [zero]
        exact rounded .zero skipped
    · rename_i different
      split at skipped
      · rename_i isOne
        obtain ⟨digits, areDigits, same⟩ := exists_digits tail
        have written := rounded (.digits isOne different areDigits) skipped
        rwa [List.cons_append, ← same] at written
      · cases skipped

theorem skipNumber_complete {magnitude rest : List Char} (isMagnitude : IsMagnitude magnitude)
    (ends : EndsNumber rest) : skipNumber (magnitude ++ rest) = .ok rest := by
  cases isMagnitude with
  | @mk whole fraction exponent isWhole isFraction isExponent =>
      have skipped := skipFraction_complete isFraction isExponent ends
      have solid : ∀ char ∈ (fraction ++ (exponent ++ rest)).head?, isDigit char = false := by
        intro char first
        cases isFraction with
        | absent => exact (head?_exponent isExponent ends char first).1
        | digits _ =>
            cases first
            decide
      rw [List.append_assoc, List.append_assoc]
      cases isWhole with
      | zero =>
          rw [List.cons_append, List.nil_append, skipNumber, if_pos rfl,
            startsWithDigit_of_ends solid, if_neg Bool.false_ne_true]
          exact skipped
      | digits isOne different areDigits =>
          rw [List.cons_append, skipNumber, if_neg different, if_pos isOne,
            skipDigits_append areDigits solid]
          exact skipped

/-- A number starts with a digit, or with a minus sign that a digit follows. -/
theorem IsMagnitude.exists_digit {magnitude : List Char} (isMagnitude : IsMagnitude magnitude) :
    ∃ first rest, magnitude = first :: rest ∧ isDigit first = true := by
  cases isMagnitude with
  | mk isWhole _ _ =>
      cases isWhole with
      | zero => exact ⟨_, _, rfl, by decide⟩
      | digits isOne _ _ => exact ⟨_, _, rfl, isOne⟩

end SeedVault.Json
