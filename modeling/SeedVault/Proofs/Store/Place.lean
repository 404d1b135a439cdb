/-
Where a file store works: at its file, at the draft beside it and in the directories above.
-/

import SeedVault.Proofs.Disk.Effect
import SeedVault.Proofs.Disk.Path

namespace SeedVault

namespace Path

variable {path : Path}

theorem IsPlain.isNamed (plain : path.IsPlain) : path.IsNamed :=
  ⟨isName_of_mem_steps plain, plain.some⟩

theorem isName_append_tmp {name : String} : isName (name ++ ".tmp") = true := by
  have size : (name ++ ".tmp").utf8ByteSize = name.utf8ByteSize + 4 := by
    rw [String.utf8ByteSize_append]
    rfl
  have distinct {other : String} (short : other.utf8ByteSize < 4) : name ++ ".tmp" ≠ other := by
    rintro rfl
    omega
  simp only [isName, Bool.and_eq_true, decide_eq_true_eq]
  exact ⟨⟨distinct (by decide), distinct (by decide)⟩, distinct (by decide)⟩

variable {names : List String} {name : String}

theorem Layout.draft_isNamed (layout : Layout path names name) (plain : path.IsPlain) :
    (Store.draftPath path).IsNamed := by
  constructor
  · rw [layout.draftSteps]
    intro part member
    rcases List.mem_append.mp member with member | member
    · exact isName_of_mem_steps plain part (by simp [layout.steps, member])
    · rw [List.mem_singleton.mp member]
      exact isName_append_tmp
  · simp [layout.draftSteps]

theorem Layout.base_draft (layout : Layout path names name) (start : Location) :
    (Store.draftPath path).base start = path.base start := by
  rw [base, base, layout.draftAbsolute]

theorem Layout.location_eq (layout : Layout path names name) (start : Location) :
    path.location start = path.base start ++ names ++ [name] := by
  rw [location, layout.steps, List.append_assoc]

theorem Layout.location_draft_eq (layout : Layout path names name) (start : Location) :
    (Store.draftPath path).location start = path.base start ++ names ++ [name ++ ".tmp"] := by
  rw [location, layout.base_draft, layout.draftSteps, List.append_assoc]

/-- The draft is not the file. -/
theorem Layout.draft_ne (layout : Layout path names name) (start : Location) :
    (Store.draftPath path).location start ≠ path.location start := by
  rw [layout.location_draft_eq, layout.location_eq]
  intro same
  simp at same

theorem Layout.isAbove_iff (layout : Layout path names name) {start place : Location} :
    path.IsAbove start place ↔ FileTree.Along (path.base start) names place := by
  rw [IsAbove, layout.steps, List.dropLast_concat]

/-- A location of a name beside the directories is none of them. -/
theorem not_along_append {start : Location} {last : String} :
    ¬ FileTree.Along start names (start ++ names ++ [last]) := by
  rintro ⟨way, isPrefix, _, same⟩
  have shorter := isPrefix.length_le
  have size := congrArg List.length same
  simp only [List.length_append, List.length_singleton] at size
  omega

theorem Layout.not_isAbove_location (layout : Layout path names name) (start : Location) :
    ¬ path.IsAbove start (path.location start) := by
  rw [layout.isAbove_iff, layout.location_eq]
  exact not_along_append

theorem Layout.not_isAbove_draft (layout : Layout path names name) (start : Location) :
    ¬ path.IsAbove start ((Store.draftPath path).location start) := by
  rw [layout.isAbove_iff, layout.location_draft_eq]
  exact not_along_append

/-- The paths to the directories lead to locations on the way. -/
theorem LeadUp.along {paths : List Path} {above : List String} {absolute : Bool}
    (leadUp : LeadUp absolute paths above) (areNames : ∀ part ∈ above, isName part = true)
    (start : Location) :
    ∀ ancestor ∈ paths, ancestor.IsNamed ∧
      FileTree.Along (if absolute then [] else start) above.reverse (ancestor.location start) := by
  induction leadUp with
  | nil => simp
  | @cons first paths part above steps sameStart _ ih =>
      simp only [List.forall_mem_cons] at areNames ⊢
      refine ⟨⟨⟨?_, ?_⟩, above.reverse ++ [part], ?_, by simp, ?_⟩, fun ancestor member => ?_⟩
      · rw [steps]
        intro name member
        rcases List.mem_cons.mp (List.mem_reverse.mp member) with rfl | member
        · exact areNames.1
        · exact areNames.2 name member
      · simp [steps]
      · simp
      · rw [location, base, sameStart, steps, List.reverse_cons]
      · obtain ⟨isNamed, way, isPrefix, some, same⟩ := ih areNames.2 ancestor member
        refine ⟨isNamed, way, ?_, some, same⟩
        rw [List.reverse_cons]
        exact isPrefix.trans (List.prefix_append _ _)

theorem Layout.isAbove_of_mem_ancestors (layout : Layout path names name) (plain : path.IsPlain)
    (start : Location) :
    ∀ ancestor ∈ path.ancestors, ancestor.IsNamed ∧ path.IsAbove start (ancestor.location start) := by
  have areNames : ∀ part ∈ names.reverse, isName part = true := fun part member =>
    isName_of_mem_steps plain part (by simp [layout.steps, List.mem_reverse.mp member])
  intro ancestor member
  obtain ⟨isNamed, along⟩ := layout.ancestors.along areNames start ancestor member
  rw [List.reverse_reverse] at along
  exact ⟨isNamed, layout.isAbove_iff.mpr along⟩

end Path

end SeedVault
