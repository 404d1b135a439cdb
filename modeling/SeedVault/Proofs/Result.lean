/-
Answers that may be errors.
-/

namespace SeedVault

/-- Two steps succeed exactly if the first one does and the second one does on what it gives. -/
theorem bind_eq_ok_iff {ε α β : Type} {result : Except ε α} {next : α → Except ε β} {value : β} :
    result.bind next = .ok value ↔ ∃ source, result = .ok source ∧ next source = .ok value := by
  cases result <;> simp [Except.bind]

/-- Two steps fail exactly if the first one does, or the second one does on what it gives. -/
theorem bind_eq_error_iff {ε α β : Type} {result : Except ε α} {next : α → Except ε β}
    {problem : ε} :
    result.bind next = .error problem ↔
      result = .error problem ∨ ∃ source, result = .ok source ∧ next source = .error problem := by
  cases result <;> simp [Except.bind]

theorem mapError_eq_ok_iff {ε ε' α : Type} {result : Except ε α} {f : ε → ε'} {value : α} :
    result.mapError f = .ok value ↔ result = .ok value := by
  cases result with
  | error problem => constructor <;> intro failed <;> cases failed
  | ok found => constructor <;> intro same <;> cases same <;> rfl

theorem mapError_eq_error_iff {ε ε' α : Type} {result : Except ε α} {f : ε → ε'} {problem : ε'} :
    result.mapError f = .error problem ↔ ∃ cause, problem = f cause ∧ result = .error cause := by
  constructor
  · intro failed
    cases result with
    | error cause =>
        cases failed
        exact ⟨cause, rfl, rfl⟩
    | ok found => cases failed
  · rintro ⟨cause, rfl, rfl⟩
    rfl

end SeedVault
