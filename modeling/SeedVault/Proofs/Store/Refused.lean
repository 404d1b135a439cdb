/-
Paths of good names at which a file store cannot put a vault: those that must lead to a directory,
and those with a draft whose path is too long.
-/

import SeedVault.Machine
import SeedVault.Proofs.Disk.Reach
import SeedVault.Proofs.Execution
import SeedVault.Proofs.Store.Usable

namespace SeedVault

theorem FileTree.rename_ne_ok_of_endsInSlash {tree after : FileTree} {source target : Path}
    (slash : target.endsInSlash = true) : tree.rename source target ≠ .ok after := by
  intro renamed
  obtain ⟨_, _, _, _, _, _, _, noSlash, _⟩ := exists_of_rename_eq_ok renamed
  rw [slash] at noSlash
  cases noSlash

theorem FileTree.rename_ne_ok_of_long {tree after : FileTree} {source target : Path}
    (long : longestPath < source.text.utf8ByteSize) : tree.rename source target ≠ .ok after := by
  intro renamed
  obtain ⟨_, _, _, _, resolved, _⟩ := exists_of_rename_eq_ok renamed
  exact absurd (resolve_eq_ok_iff.mp resolved).2.2.1 (Nat.not_le.mpr long)

namespace Path

/-- A path that ends in a slash. -/
def slashed : Path :=
  ⟨"vault.json", [""]⟩

theorem slashed_fits : slashed.Fits where
  parts := by decide
  some := by decide
  names := by decide
  draftName := by decide
  noZero := by decide

/-- A path of a name that is repeated. -/
def nested (depth : Nat) : Path :=
  ⟨"a", List.replicate depth "a"⟩

theorem parts_nested (depth : Nat) : (nested depth).parts = List.replicate (depth + 1) "a" := rfl

theorem steps_nested (depth : Nat) : (nested depth).steps = List.replicate (depth + 1) "a" := by
  simp [steps, nested, List.replicate_succ]

theorem nested_isPlain (depth : Nat) : (nested depth).IsPlain where
  parts part member := by
    rw [← parts, parts_nested] at member
    rw [List.eq_of_mem_replicate member]
    exact .inr rfl
  some := by simp [steps_nested]

theorem nested_fits (depth : Nat) : (nested depth).Fits where
  toIsPlain := nested_isPlain depth
  names name member := by
    rw [steps_nested] at member
    rw [List.eq_of_mem_replicate member]
    decide
  draftName name member := by
    obtain ⟨names, last, layout⟩ := (nested_isPlain depth).exists_layout
    have isStep : last ∈ (nested depth).steps := by simp [layout.steps]
    rw [steps_nested] at isStep
    rw [layout.fileName, Option.mem_some_iff] at member
    rw [← member, List.eq_of_mem_replicate isStep]
    decide
  noZero := by
    rw [mem_text_iff _ (by decide), parts_nested]
    rintro ⟨part, member, inside⟩
    rw [List.eq_of_mem_replicate member] at inside
    revert inside
    decide

theorem draftPath_nested (depth : Nat) :
    Store.draftPath (nested (depth + 1)) = ⟨"a", List.replicate depth "a" ++ ["a.tmp"]⟩ := by
  have trimmed : (nested (depth + 1)).others.reverse.dropWhile isIdle =
      "a" :: List.replicate depth "a" := by
    rw [nested, List.reverse_replicate, List.replicate_succ]
    rfl
  have above : (List.replicate depth "a").dropWhile isIdle = List.replicate depth "a" := by
    cases depth <;> rfl
  rw [draftPath_of_last trimmed rfl, above, List.reverse_replicate]
  rfl

theorem size_replicate (count : Nat) : size (List.replicate count "a") = 2 * count := by
  induction count with
  | zero => rfl
  | succ count ih =>
      have one : "a".utf8ByteSize = 1 := rfl
      rw [List.replicate_succ, size, ih]
      omega

/-- The draft of a path may be too long although the path is not. -/
theorem utf8ByteSize_text_nested (depth : Nat) :
    (nested (depth + 1)).text.utf8ByteSize = 2 * depth + 3 ∧
      (Store.draftPath (nested (depth + 1))).text.utf8ByteSize = 2 * depth + 7 := by
  have path := utf8ByteSize_text (nested (depth + 1))
  have draft := utf8ByteSize_text (Store.draftPath (nested (depth + 1)))
  have ending : size ["a.tmp"] = 6 := rfl
  have one : "a".utf8ByteSize = 1 := rfl
  rw [parts_nested, size_replicate] at path
  rw [draftPath_nested, parts, size, size_append, size_replicate, ending] at draft
  simp only [one] at draft
  rw [draftPath_nested]
  omega

end Path

namespace Store

/-- A program that ends with a step that cannot succeed does not succeed. -/
theorem bind_ne_ok {ε α β σ : Type} {program : ExceptT ε (StateM σ) α}
    {next : α → ExceptT ε (StateM σ) β} {result : β}
    (fails : ∀ value state, (execute (next value) state).1 ≠ .ok result) (state : σ) :
    (execute (program >>= next) state).1 ≠ .ok result := by
  rw [execute_bind]
  rcases execute program state with ⟨answer, middle⟩
  cases answer with
  | ok value => exact fails value middle
  | error problem => simp

/-- Nothing can be put where the last step fails on every disk. -/
theorem put_ne_ok_of_rename {path : Path}
    (refuses : ∀ tree after : FileTree, tree.rename (draftPath path) path ≠ .ok after) (vault : Vault)
    (machine : Machine) : (execute ((file path).put vault) machine).1 ≠ .ok () := by
  have written : (execute (writeFile path vault) machine).1 ≠ .ok () := by
    revert machine
    refine bind_ne_ok fun _ => bind_ne_ok fun _ => bind_ne_ok fun _ => bind_ne_ok fun _ machine => ?_
    change (machine.onDisk (·.rename (draftPath path) path)).1 ≠ _
    unfold Machine.onDisk
    split
    · rename_i renamed
      exact absurd renamed (refuses _ _)
    · simp
  intro put
  apply written
  change (execute (writeFile path vault) machine).1.mapError StoreError.disk = _ at put
  exact mapError_eq_ok_iff.mp put

theorem put_ne_ok_of_endsInSlash {path : Path} (slash : path.endsInSlash = true) (vault : Vault)
    (machine : Machine) : (execute ((file path).put vault) machine).1 ≠ .ok () :=
  put_ne_ok_of_rename (fun _ _ => FileTree.rename_ne_ok_of_endsInSlash slash) vault machine

theorem put_ne_ok_of_long {path : Path}
    (long : FileTree.longestPath < (draftPath path).text.utf8ByteSize) (vault : Vault)
    (machine : Machine) : (execute ((file path).put vault) machine).1 ≠ .ok () :=
  put_ne_ok_of_rename (fun _ _ => FileTree.rename_ne_ok_of_long long) vault machine

end Store

end SeedVault
