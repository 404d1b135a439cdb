/-
Running programs that may fail and that read and change a state. A run is computed step
by step; what each step keeps, the run keeps, and programs whose steps match under a
relation of their states run alike.
-/

import SeedVault.Disk.Access
import SeedVault.Proofs.Result
import SeedVault.Random.Entropy

namespace SeedVault

/-- The answer of a program that is run from a state, and the state it leaves. -/
def execute {σ ε α : Type} (program : ExceptT ε (StateM σ) α) (state : σ) : Except ε α × σ :=
  program.run.run state

section equations

variable {σ ε ε' α β : Type}

@[simp] theorem execute_pure (value : α) (state : σ) :
    execute (pure value : ExceptT ε (StateM σ) α) state = (.ok value, state) := rfl

@[simp] theorem execute_throw (problem : ε) (state : σ) :
    execute (throw problem : ExceptT ε (StateM σ) α) state = (.error problem, state) := rfl

@[simp] theorem execute_mk_pure (answer : Except ε α) (state : σ) :
    execute (ExceptT.mk (pure answer : StateM σ (Except ε α))) state = (answer, state) := rfl

@[simp] theorem execute_lift (action : StateM σ α) (state : σ) :
    execute (ExceptT.lift action : ExceptT ε (StateM σ) α) state =
      (.ok (action.run state).1, (action.run state).2) := rfl

/-- What follows a program is run only if the program does not fail. -/
theorem execute_bind (program : ExceptT ε (StateM σ) α) (next : α → ExceptT ε (StateM σ) β)
    (state : σ) :
    execute (program >>= next) state =
      match execute program state with
      | (.ok value, middle) => execute (next value) middle
      | (.error problem, middle) => (.error problem, middle) := by
  unfold execute
  rw [ExceptT.run_bind, StateT.run_bind]
  rcases program.run.run state with ⟨answer, middle⟩
  cases answer <;> rfl

/-- A program and what follows it succeed exactly if both do. -/
theorem execute_bind_eq_ok_iff {program : ExceptT ε (StateM σ) α}
    {next : α → ExceptT ε (StateM σ) β} {state after : σ} {value : β} :
    execute (program >>= next) state = (.ok value, after) ↔
      ∃ first middle, execute program state = (.ok first, middle) ∧
        execute (next first) middle = (.ok value, after) := by
  rw [execute_bind]
  rcases execute program state with ⟨answer, middle⟩
  cases answer with
  | ok first =>
      constructor
      · intro ran
        exact ⟨first, middle, rfl, ran⟩
      · rintro ⟨_, _, ⟨⟩, ran⟩
        exact ran
  | error problem =>
      constructor
      · rintro ⟨⟩
      · rintro ⟨_, _, ⟨⟩, _⟩

/-- If a program and what follows it end, then the program has failed, or what follows it has
ended so. -/
theorem execute_bind_cases {program : ExceptT ε (StateM σ) α} {next : α → ExceptT ε (StateM σ) β}
    {state after : σ} {answer : Except ε β} (ran : execute (program >>= next) state = (answer, after)) :
    (∃ problem, answer = .error problem ∧ execute program state = (.error problem, after)) ∨
      ∃ value middle, execute program state = (.ok value, middle) ∧
        execute (next value) middle = (answer, after) := by
  rw [execute_bind] at ran
  rcases first : execute program state with ⟨given, middle⟩
  rw [first] at ran
  cases given with
  | ok value => exact .inr ⟨value, middle, rfl, ran⟩
  | error problem =>
      cases ran
      exact .inl ⟨problem, rfl, rfl⟩

/-- A handler is run only if the program fails. -/
theorem execute_tryCatch (program : ExceptT ε (StateM σ) α) (handle : ε → ExceptT ε (StateM σ) α)
    (state : σ) :
    execute (tryCatch program handle) state =
      match execute program state with
      | (.ok value, middle) => (.ok value, middle)
      | (.error problem, middle) => execute (handle problem) middle := by
  change (match program.run.run state with
    | (answer, middle) => (match answer with
      | .ok value => pure (.ok value)
      | .error problem => handle problem : StateM σ (Except ε α)) middle) = _
  unfold execute
  rcases program.run.run state with ⟨answer, middle⟩
  cases answer <;> rfl

@[simp] theorem execute_map (change : α → β) (program : ExceptT ε (StateM σ) α) (state : σ) :
    execute (change <$> program) state =
      ((execute program state).1.map change, (execute program state).2) := by
  rw [map_eq_pure_bind, execute_bind]
  rcases execute program state with ⟨answer, middle⟩
  cases answer <;> rfl

@[simp] theorem execute_adapt (change : ε → ε') (program : ExceptT ε (StateM σ) α) (state : σ) :
    execute (program.adapt change) state =
      ((execute program state).1.mapError change, (execute program state).2) := rfl

theorem execute_adapt_eq_ok_iff {change : ε → ε'} {program : ExceptT ε (StateM σ) α}
    {state after : σ} {value : α} :
    execute (program.adapt change) state = (.ok value, after) ↔
      execute program state = (.ok value, after) := by
  rw [execute_adapt]
  rcases execute program state with ⟨answer, middle⟩
  simp only [Prod.mk.injEq, mapError_eq_ok_iff]

theorem execute_adapt_eq_error_iff {change : ε → ε'} {program : ExceptT ε (StateM σ) α}
    {state after : σ} {problem : ε'} :
    execute (program.adapt change) state = (.error problem, after) ↔
      ∃ cause, problem = change cause ∧ execute program state = (.error cause, after) := by
  rw [execute_adapt]
  rcases execute program state with ⟨answer, middle⟩
  simp only [Prod.mk.injEq, mapError_eq_error_iff, ← and_assoc, exists_and_right]

theorem execute_adapt_cases {change : ε → ε'} {program : ExceptT ε (StateM σ) α} {state after : σ}
    {answer : Except ε' α} (ran : execute (program.adapt change) state = (answer, after)) :
    ∃ inner, answer = inner.mapError change ∧ execute program state = (inner, after) := by
  cases ran
  exact ⟨_, rfl, rfl⟩

/-- A draw that finds nothing fails. -/
theorem execute_drawOr [Entropy (StateM σ)] (problem : ε) (size : Nat) (state : σ) :
    execute (Entropy.drawOr problem size : ExceptT ε (StateM σ) (Bytes size)) state =
      match (Entropy.draw size : StateM σ (Option (Bytes size))).run state with
      | (some bytes, after) => (.ok bytes, after)
      | (none, after) => (.error problem, after) := by
  change execute (ExceptT.lift (Entropy.draw size) >>= _) state = _
  rw [execute_bind, execute_lift]
  rcases (Entropy.draw size : StateM σ (Option (Bytes size))).run state with ⟨bytes, after⟩
  cases bytes <;> rfl

end equations

/-- However a program ends, the state it leaves is related to the one it starts from. -/
def Leads {σ ε α : Type} (related : σ → σ → Prop) (program : ExceptT ε (StateM σ) α) : Prop :=
  ∀ state, related state (execute program state).2

namespace Leads

variable {σ ε ε' α β : Type} {related : σ → σ → Prop} {program : ExceptT ε (StateM σ) α}

theorem pure (refl : ∀ state, related state state) (value : α) :
    Leads related (Pure.pure value : ExceptT ε (StateM σ) α) :=
  refl

theorem throw (refl : ∀ state, related state state) (problem : ε) :
    Leads related (MonadExcept.throw problem : ExceptT ε (StateM σ) α) :=
  refl

theorem lift {action : StateM σ α} (leads : ∀ state, related state (action.run state).2) :
    Leads related (ExceptT.lift action : ExceptT ε (StateM σ) α) :=
  leads

theorem map (leads : Leads related program) (change : α → β) : Leads related (change <$> program) := by
  intro state
  rw [execute_map]
  exact leads state

theorem adapt (leads : Leads related program) (change : ε → ε') : Leads related (program.adapt change) :=
  leads

section sequences

variable (trans : ∀ first second third, related first second → related second third →
  related first third)

include trans

theorem bind {next : α → ExceptT ε (StateM σ) β} (first : Leads related program)
    (second : ∀ value, Leads related (next value)) : Leads related (program >>= next) := by
  intro state
  have left := first state
  rw [execute_bind]
  generalize execute program state = ran at left ⊢
  obtain ⟨answer, middle⟩ := ran
  cases answer with
  | ok value => exact trans _ _ _ left (second value middle)
  | error problem => exact left

theorem tryCatch {handle : ε → ExceptT ε (StateM σ) α} (first : Leads related program)
    (second : ∀ problem, Leads related (handle problem)) :
    Leads related (MonadExcept.tryCatch program handle) := by
  intro state
  have left := first state
  rw [execute_tryCatch]
  generalize execute program state = ran at left ⊢
  obtain ⟨answer, middle⟩ := ran
  cases answer with
  | ok value => exact left
  | error problem => exact trans _ _ _ left (second problem middle)

end sequences

section directories

variable [Disk (StateM σ)] (refl : ∀ state, related state state)
  (trans : ∀ first second third, related first second → related second third →
    related first third)
  (looks : ∀ path state, related state ((Disk.isDirectory path : StateM σ Bool).run state).2)

include refl trans looks

theorem ensureDirectory {path : Path}
    (makes : ∀ state, related state ((Disk.makeDirectory path : StateM σ _).run state).2) :
    Leads related (Disk.ensureDirectory path : ExceptT DiskError (StateM σ) Unit) := by
  apply bind trans (lift makes)
  intro made
  split
  · exact pure refl _
  · apply bind trans (lift (looks path))
    intro isDirectory
    split
    · exact pure refl _
    · exact throw refl _
  · exact throw refl _

/-- What holds of each directory that is made holds of all of them. -/
theorem ensureDirectories {paths : List Path}
    (makes : ∀ path ∈ paths, ∀ state,
      related state ((Disk.makeDirectory path : StateM σ _).run state).2) :
    Leads related (Disk.ensureDirectories paths : ExceptT DiskError (StateM σ) Unit) := by
  induction paths with
  | nil => exact pure refl _
  | cons path above ih =>
      simp only [List.forall_mem_cons] at makes
      have ensured := ensureDirectory refl trans looks makes.1
      apply tryCatch trans ensured
      intro problem
      split
      · exact bind trans (ih makes.2) fun _ => ensured
      · exact throw refl _

end directories

end Leads

/-- A program leaves what is looked at as it is. -/
def Preserves {σ γ ε α : Type} (look : σ → γ) (program : ExceptT ε (StateM σ) α) : Prop :=
  ∀ state, look (execute program state).2 = look state

namespace Preserves

variable {σ γ ε ε' α β : Type} {look : σ → γ} {program : ExceptT ε (StateM σ) α}

theorem iff_leads : Preserves look program ↔ Leads (fun state after => look after = look state) program :=
  .rfl

theorem pure (value : α) : Preserves look (Pure.pure value : ExceptT ε (StateM σ) α) :=
  fun _ => rfl

theorem throw (problem : ε) : Preserves look (MonadExcept.throw problem : ExceptT ε (StateM σ) α) :=
  fun _ => rfl

theorem mk_pure (answer : Except ε α) :
    Preserves look (ExceptT.mk (Pure.pure answer : StateM σ (Except ε α))) :=
  fun _ => rfl

theorem bind {next : α → ExceptT ε (StateM σ) β} (first : Preserves look program)
    (second : ∀ value, Preserves look (next value)) : Preserves look (program >>= next) :=
  iff_leads.mpr (Leads.bind (fun _ _ _ same again => again.trans same) (iff_leads.mp first) second)

theorem map (preserves : Preserves look program) (change : α → β) : Preserves look (change <$> program) :=
  iff_leads.mpr (Leads.map (iff_leads.mp preserves) change)

theorem adapt (preserves : Preserves look program) (change : ε → ε') : Preserves look (program.adapt change) :=
  preserves

theorem mapM {items : List α} {visit : α → ExceptT ε (StateM σ) β}
    (each : ∀ item, Preserves look (visit item)) : Preserves look (items.mapM visit) := by
  induction items with
  | nil => exact pure []
  | cons item items ih =>
      rw [List.mapM_cons]
      exact (each item).bind fun _ => ih.bind fun _ => pure _

end Preserves

/-- A program that fails leaves what is looked at as it is. -/
def Reverts {σ γ ε α : Type} (look : σ → γ) (program : ExceptT ε (StateM σ) α) : Prop :=
  ∀ state problem after, execute program state = (.error problem, after) → look after = look state

namespace Reverts

variable {σ γ ε α β : Type} {look : σ → γ} {program : ExceptT ε (StateM σ) α}
  {next : α → ExceptT ε (StateM σ) β}

theorem of_preserves (preserves : Preserves look program) : Reverts look program := by
  intro state problem after ran
  have left := preserves state
  rw [ran] at left
  exact left

theorem bind (first : Preserves look program) (second : ∀ value, Reverts look (next value)) :
    Reverts look (program >>= next) := by
  intro state problem after ran
  have left := first state
  rw [execute_bind] at ran
  generalize execute program state = run at left ran
  obtain ⟨answer, middle⟩ := run
  cases answer with
  | ok value => exact (second value middle problem after ran).trans left
  | error cause =>
      cases ran
      exact left

/-- What follows a program and cannot fail does no harm. -/
theorem bind_of_ok (first : Reverts look program)
    (second : ∀ value state, ∃ result after, execute (next value) state = (.ok result, after)) :
    Reverts look (program >>= next) := by
  intro state problem after ran
  rw [execute_bind] at ran
  rcases run : execute program state with ⟨answer, middle⟩
  rw [run] at ran
  cases answer with
  | ok value =>
      obtain ⟨result, last, succeeds⟩ := second value middle
      cases succeeds.symm.trans ran
  | error cause =>
      cases ran
      exact first state problem after run

end Reverts

/-- From related states, two programs answer the same and leave related states. -/
def Simulates {σ τ ε α : Type} (related : σ → τ → Prop) (left : ExceptT ε (StateM σ) α)
    (right : ExceptT ε (StateM τ) α) : Prop :=
  ∀ state other, related state other →
    (execute left state).1 = (execute right other).1 ∧
      related (execute left state).2 (execute right other).2

namespace Simulates

variable {σ τ ε ε' α β : Type} {related : σ → τ → Prop}

theorem pure (value : α) :
    Simulates related (Pure.pure value : ExceptT ε (StateM σ) α) (Pure.pure value) :=
  fun _ _ related => ⟨rfl, related⟩

theorem throw (problem : ε) : Simulates related (MonadExcept.throw problem : ExceptT ε (StateM σ) α)
    (MonadExcept.throw problem) :=
  fun _ _ related => ⟨rfl, related⟩

theorem mk_pure (answer : Except ε α) :
    Simulates related (ExceptT.mk (Pure.pure answer : StateM σ (Except ε α)))
      (ExceptT.mk (Pure.pure answer)) :=
  fun _ _ related => ⟨rfl, related⟩

/-- Programs that run alike may be followed by programs that run alike. -/
theorem bind {left : ExceptT ε (StateM σ) α} {right : ExceptT ε (StateM τ) α}
    {next : α → ExceptT ε (StateM σ) β} {follow : α → ExceptT ε (StateM τ) β}
    (first : Simulates related left right)
    (second : ∀ value, Simulates related (next value) (follow value)) :
    Simulates related (left >>= next) (right >>= follow) := by
  intro state other start
  have alike := first state other start
  rw [execute_bind, execute_bind]
  generalize execute left state = ran at alike ⊢
  generalize execute right other = otherRan at alike ⊢
  obtain ⟨answer, reached⟩ := ran
  obtain ⟨_, otherReached⟩ := otherRan
  obtain ⟨rfl, middle⟩ := alike
  cases answer with
  | ok value => exact second value reached otherReached middle
  | error problem => exact ⟨rfl, middle⟩

theorem map {left : ExceptT ε (StateM σ) α} {right : ExceptT ε (StateM τ) α} (change : α → β)
    (alike : Simulates related left right) :
    Simulates related (change <$> left) (change <$> right) := by
  rw [map_eq_pure_bind, map_eq_pure_bind]
  exact alike.bind fun value => Simulates.pure (change value)

theorem adapt {left : ExceptT ε (StateM σ) α} {right : ExceptT ε (StateM τ) α} (change : ε → ε')
    (alike : Simulates related left right) :
    Simulates related (left.adapt change) (right.adapt change) := by
  intro state other start
  obtain ⟨sameAnswer, reached⟩ := alike state other start
  rw [execute_adapt, execute_adapt, sameAnswer]
  exact ⟨rfl, reached⟩

end Simulates

end SeedVault
