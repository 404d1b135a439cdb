/-
Paths that a disk accepts. If it accepts the path of a file, then it accepts those of the draft
and of the directories above, as long as there is room for the longer name of the draft.
-/

import SeedVault.Proofs.Disk.Reach
import SeedVault.Proofs.Store.Place

namespace SeedVault.Path

/-- The size of parts with a slash before each. -/
def size : List String → Nat
  | [] => 0
  | part :: parts => part.utf8ByteSize + 1 + size parts

theorem size_append (left right : List String) : size (left ++ right) = size left + size right := by
  induction left with
  | nil => simp [size]
  | cons part left ih =>
      rw [List.cons_append, size, size, ih]
      omega

theorem size_le_of_sublist {left right : List String} (sublist : left.Sublist right) :
    size left ≤ size right := by
  induction sublist with
  | slnil => exact Nat.le_refl _
  | cons part _ ih =>
      rw [size]
      omega
  | cons_cons part _ ih =>
      rw [size, size]
      omega

theorem utf8ByteSize_intercalate (first : String) (others : List String) :
    ("/".intercalate (first :: others)).utf8ByteSize + 1 = size (first :: others) := by
  induction others generalizing first with
  | nil => simp [size]
  | cons second others ih =>
      have rest := ih second
      have slash : "/".utf8ByteSize = 1 := rfl
      rw [String.intercalate_cons_cons, String.utf8ByteSize_append, String.utf8ByteSize_append, size]
      omega

theorem mem_intercalate_iff {char : Char} (first : String) (others : List String)
    (notSlash : char ≠ '/') :
    char ∈ ("/".intercalate (first :: others)).toList ↔ ∃ part ∈ first :: others, char ∈ part.toList := by
  induction others generalizing first with
  | nil => simp
  | cons second others ih =>
      rw [String.intercalate_cons_cons, String.toList_append, String.toList_append, List.mem_append,
        List.mem_append, ih]
      simp [notSlash]

/-- The parts of a path. -/
def parts (path : Path) : List String :=
  path.first :: path.others

theorem utf8ByteSize_text (path : Path) : path.text.utf8ByteSize + 1 = size path.parts :=
  utf8ByteSize_intercalate path.first path.others

theorem mem_text_iff {char : Char} (path : Path) (notSlash : char ≠ '/') :
    char ∈ path.text.toList ↔ ∃ part ∈ path.parts, char ∈ part.toList :=
  mem_intercalate_iff path.first path.others notSlash

theorem parts_of_mem_shortened {first : String} {above : List String} :
    ∀ ancestor ∈ shortened first above, ancestor.parts.Sublist (first :: above.reverse) := by
  induction above with
  | nil =>
      rw [shortened]
      split <;> simp [parts]
  | cons part above ih =>
      have shorter : (first :: above.reverse).Sublist (first :: (part :: above).reverse) := by
        rw [List.reverse_cons]
        exact (List.sublist_append_left _ _).cons_cons first
      rw [shortened]
      split
      · exact fun ancestor member => (ih ancestor member).trans shorter
      · simp only [List.forall_mem_cons]
        exact ⟨List.Sublist.refl _, fun ancestor member => (ih ancestor member).trans shorter⟩

/-- The parts before the last name of a path, that name, and the rest. -/
theorem exists_others_eq {path : Path} {last : String} {above : List String}
    (trimmed : path.others.reverse.dropWhile isIdle = last :: above) :
    ∃ rest, path.others = above.reverse ++ last :: rest := by
  have suffix : last :: above <:+ path.others.reverse := trimmed ▸ List.dropWhile_suffix isIdle
  obtain ⟨rest, split⟩ := suffix
  refine ⟨rest.reverse, ?_⟩
  rw [← List.reverse_reverse path.others, ← split]
  simp

theorem parts_of_mem_ancestors {path : Path} :
    ∀ ancestor ∈ path.ancestors, ancestor.parts.Sublist path.parts := by
  rw [ancestors]
  split
  · rename_i trimmed
    obtain ⟨rest, others⟩ := exists_others_eq trimmed
    intro ancestor member
    refine (parts_of_mem_shortened ancestor member).trans ?_
    rw [parts, others]
    exact (List.sublist_append_left _ _).cons_cons path.first
  · simp

/-- The draft of a path has no other characters but its ending. -/
theorem mem_parts_draft {path : Path} (plain : path.IsPlain) :
    ∀ part ∈ (Store.draftPath path).parts, ∀ char ∈ part.toList,
      char ∈ ".tmp".toList ∨ ∃ other ∈ path.parts, char ∈ other.toList := by
  cases trimmed : path.others.reverse.dropWhile isIdle with
  | nil =>
      rw [draftPath_of_first plain trimmed]
      intro part member char inside
      rw [List.mem_singleton.mp member, String.toList_append, List.mem_append] at inside
      exact inside.symm.imp id fun inside => ⟨path.first, List.mem_cons_self, inside⟩
  | cons last above =>
      obtain ⟨isName, _, _⟩ := exists_last trimmed fun part member =>
        plain.parts part (List.mem_cons_of_mem _ (List.mem_reverse.mp member))
      obtain ⟨rest, others⟩ := exists_others_eq trimmed
      have fewer : (above.dropWhile isIdle).reverse.Sublist above.reverse :=
        (List.dropWhile_sublist isIdle).reverse
      rw [draftPath_of_last trimmed isName, parts, parts, others]
      intro part member char inside
      simp only [List.mem_cons, List.mem_append, List.not_mem_nil, or_false] at member ⊢
      rcases member with rfl | member | rfl
      · exact .inr ⟨path.first, .inl rfl, inside⟩
      · exact .inr ⟨part, .inr (.inl (fewer.subset member)), inside⟩
      · rw [String.toList_append, List.mem_append] at inside
        exact inside.symm.imp id fun inside => ⟨last, .inr (.inr (.inl rfl)), inside⟩

/-- A path of names that a disk accepts, the last one also with the ending of the draft. -/
structure Fits (path : Path) : Prop extends path.IsPlain where
  names : ∀ name ∈ path.steps, name.utf8ByteSize ≤ FileTree.longestName
  draftName : ∀ name ∈ path.fileName?, name.utf8ByteSize + 4 ≤ FileTree.longestName
  noZero : '\x00' ∉ path.text.toList

/-- A path for a file store: it may lead to a file, and the disk accepts it and that of the draft. -/
structure IsUsable (path : Path) : Prop extends path.Fits where
  short : path.text.utf8ByteSize ≤ FileTree.longestPath
  draftShort : (Store.draftPath path).text.utf8ByteSize ≤ FileTree.longestPath
  noSlash : path.endsInSlash = false

theorem Fits.takesNames {path : Path} (fits : path.Fits) :
    ∀ name ∈ path.steps, FileTree.TakesName name :=
  fun name member => ⟨isName_of_mem_steps fits.toIsPlain name member, fits.names name member⟩

theorem Fits.isAccepted {path : Path} (fits : path.Fits)
    (short : path.text.utf8ByteSize ≤ FileTree.longestPath) : path.IsAccepted :=
  ⟨fits.takesNames, fits.some, fits.noZero, short⟩

namespace IsUsable

variable {path : Path} {names : List String} {name : String}

theorem isAccepted (usable : path.IsUsable) : path.IsAccepted :=
  usable.toFits.isAccepted usable.short

theorem draft_isAccepted (usable : path.IsUsable) (layout : Layout path names name) :
    (Store.draftPath path).IsAccepted := by
  have notSlash : '\x00' ≠ '/' := by decide
  refine ⟨?_, (layout.draft_isNamed usable.toIsPlain).some, ?_, usable.draftShort⟩
  · intro part member
    have isName := (layout.draft_isNamed usable.toIsPlain).steps part member
    rw [layout.draftSteps] at member
    rcases List.mem_append.mp member with member | member
    · exact usable.toFits.takesNames part (by simp [layout.steps, member])
    · rw [List.mem_singleton.mp member] at isName ⊢
      refine ⟨isName, ?_⟩
      have fits := usable.draftName name layout.fileName
      rw [String.utf8ByteSize_append]
      exact fits
  · rw [mem_text_iff _ notSlash]
    rintro ⟨part, member, inside⟩
    rcases mem_parts_draft usable.toIsPlain part member _ inside with ending | inside
    · revert ending
      decide
    · exact usable.noZero ((mem_text_iff _ notSlash).mpr inside)

theorem isAccepted_of_mem_ancestors (usable : path.IsUsable) (layout : Layout path names name) :
    ∀ ancestor ∈ path.ancestors, ancestor.IsAccepted := by
  intro ancestor member
  have fewer := parts_of_mem_ancestors ancestor member
  have isNamed := (layout.isAbove_of_mem_ancestors usable.toIsPlain [] ancestor member).1
  have notSlash : '\x00' ≠ '/' := by decide
  refine ⟨?_, isNamed.some, ?_, ?_⟩
  · intro part inside
    have inPath : part ∈ path.steps := (fewer.filter _).subset inside
    exact usable.toFits.takesNames part inPath
  · rw [mem_text_iff _ notSlash]
    rintro ⟨part, member, inside⟩
    exact usable.noZero ((mem_text_iff _ notSlash).mpr ⟨part, fewer.subset member, inside⟩)
  · have longest := usable.short
    have textSize := utf8ByteSize_text path
    have shorter := utf8ByteSize_text ancestor
    have smaller := size_le_of_sublist fewer
    omega

end IsUsable

theorem isUsable_vault : (⟨"vault.json", []⟩ : Path).IsUsable where
  parts := by decide
  some := by decide
  names := by decide
  draftName := by decide
  noZero := by decide
  short := by decide
  draftShort := by decide
  noSlash := by decide

theorem not_isAbove_vault {start place : Location} :
    ¬ (⟨"vault.json", []⟩ : Path).IsAbove start place := by
  rintro ⟨way, isPrefix, some, _⟩
  exact some (List.prefix_nil.mp isPrefix)

end SeedVault.Path
