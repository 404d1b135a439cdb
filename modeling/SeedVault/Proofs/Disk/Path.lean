/-
Paths of names. Their directories, and the draft beside them, are those of the names.
-/

import SeedVault.Store.File
import Mathlib.Data.List.TakeWhile

namespace SeedVault.Path

/-- A part between slashes that is a name, or nothing. -/
def IsPlainPart (part : String) : Prop :=
  part = "" ∨ isName part = true

instance (part : String) : Decidable (IsPlainPart part) :=
  inferInstanceAs (Decidable (_ ∨ _))

/-- A path that is made of names, with any number of slashes before, between and after them. -/
structure IsPlain (path : Path) : Prop where
  parts : ∀ part ∈ path.first :: path.others, IsPlainPart part
  some : path.steps ≠ []

/-- The parts that are not empty. -/
def named (parts : List String) : List String :=
  parts.filter (· ≠ "")

theorem named_append (left right : List String) : named (left ++ right) = named left ++ named right :=
  List.filter_append left right

theorem named_reverse (parts : List String) : named parts.reverse = (named parts).reverse :=
  List.filter_reverse

theorem named_singleton {part : String} (present : part ≠ "") : named [part] = [part] := by
  simp [named, present]

theorem steps_eq (path : Path) : path.steps = named [path.first] ++ named path.others :=
  named_append [path.first] path.others

theorem isIdle_iff {part : String} (plain : IsPlainPart part) : isIdle part = true ↔ part = "" := by
  rcases plain with rfl | isName
  · simp [isIdle]
  · simp only [Path.isName, Bool.and_eq_true, decide_eq_true_eq] at isName
    simp [isIdle, isName.1.2]

theorem named_dropWhile {parts : List String} (plain : ∀ part ∈ parts, IsPlainPart part) :
    named (parts.dropWhile isIdle) = named parts := by
  induction parts with
  | nil => rfl
  | cons part parts ih =>
      simp only [List.forall_mem_cons] at plain
      rw [List.dropWhile_cons]
      split
      · rename_i idle
        rw [ih plain.2, (isIdle_iff plain.1).mp idle]
        rfl
      · rfl

theorem isName_of_mem_steps {path : Path} (plain : path.IsPlain) :
    ∀ name ∈ path.steps, isName name = true := by
  intro name member
  obtain ⟨member, nonempty⟩ := List.mem_filter.mp member
  exact (plain.parts name member).resolve_left (by simpa using nonempty)

/-- Paths to one directory after another, from the last one up; the names are those of the way
down, in reverse. -/
inductive LeadUp (absolute : Bool) : List Path → List String → Prop
  | nil : LeadUp absolute [] []
  | cons {path : Path} {paths : List Path} {name : String} {above : List String} :
      path.steps = (name :: above).reverse → path.isAbsolute = absolute →
        LeadUp absolute paths above → LeadUp absolute (path :: paths) (name :: above)

theorem leadUp_shortened {first : String} {above : List String}
    (plain : ∀ part ∈ above, IsPlainPart part) :
    LeadUp (decide (first = "")) (shortened first above) (named (above ++ [first])) := by
  induction above with
  | nil =>
      rw [shortened, List.nil_append]
      split
      · rename_i root
        rw [root]
        exact .nil
      · rename_i relative
        have names : named [first] = [first] := by simp [named, relative]
        rw [names]
        refine .cons ?_ ?_ .nil
        · simp [steps, relative]
        · simp [isAbsolute, relative]
  | cons part above ih =>
      simp only [List.forall_mem_cons] at plain
      rw [shortened]
      split
      · rename_i idle
        rw [(isIdle_iff plain.1).mp idle]
        exact ih plain.2
      · rename_i notIdle
        have present : part ≠ "" := fun absent => notIdle ((isIdle_iff plain.1).mpr absent)
        have names : named (part :: above ++ [first]) = part :: named (above ++ [first]) := by
          simp [named, present]
        rw [names]
        refine .cons ?_ ?_ (ih plain.2)
        · rw [← names, named, ← List.filter_reverse]
          simp [steps]
        · simp [isAbsolute]

/-- Where the last name of some parts, given in reverse, stands. -/
theorem exists_last {parts : List String} {last : String} {above : List String}
    (trimmed : parts.dropWhile isIdle = last :: above) (plain : ∀ part ∈ parts, IsPlainPart part) :
    isName last = true ∧ (∀ part ∈ above, IsPlainPart part) ∧ named parts = last :: named above := by
  have suffix : last :: above <:+ parts := trimmed ▸ List.dropWhile_suffix isIdle
  have notIdle : isIdle last = false := by
    have head := List.head_dropWhile_not isIdle (l := parts) (by simp [trimmed])
    simpa [trimmed] using head
  have plainLast : IsPlainPart last := plain last (suffix.mem List.mem_cons_self)
  have present : last ≠ "" := fun absent => by
    rw [(isIdle_iff plainLast).mpr absent] at notIdle
    cases notIdle
  have plainAbove : ∀ part ∈ above, IsPlainPart part := fun part member =>
    plain part (suffix.mem (List.mem_cons_of_mem _ member))
  refine ⟨plainLast.resolve_left present, plainAbove, ?_⟩
  rw [← named_dropWhile plain, trimmed]
  simp [named, present]

/-- The names of a path, where its draft is, and which directories are made for it. -/
structure Layout (path : Path) (names : List String) (name : String) : Prop where
  steps : path.steps = names ++ [name]
  fileName : path.fileName? = some name
  draftSteps : (Store.draftPath path).steps = names ++ [name ++ ".tmp"]
  draftAbsolute : (Store.draftPath path).isAbsolute = path.isAbsolute
  draftEnd : (Store.draftPath path).endsInSlash = false
  ancestors : LeadUp path.isAbsolute path.ancestors names.reverse

theorem draftPath_of_last {path : Path} {last : String} {above : List String}
    (trimmed : path.others.reverse.dropWhile isIdle = last :: above) (isName : isName last = true) :
    Store.draftPath path =
      ⟨path.first, (above.dropWhile isIdle).reverse ++ [last ++ ".tmp"]⟩ := by
  have fileName : path.fileName? = some last := by simp [fileName?, trimmed, isName]
  rw [Store.draftPath, withFileName, fileName]
  simp only [parent?, trimmed, Option.getD_some]
  rw [ofParts]
  split
  · rename_i root
    rw [root.1, root.2]
    rfl
  · rename_i notRoot
    have notEmpty : isEmpty ⟨path.first, (above.dropWhile isIdle).reverse⟩ = false := by
      simpa [isEmpty] using notRoot
    have noSlash : endsInSlash ⟨path.first, (above.dropWhile isIdle).reverse⟩ = false := by
      rw [endsInSlash, decide_eq_false_iff_not, List.getLast?_reverse]
      intro empty
      have notIdle := List.head?_dropWhile_not isIdle above
      rw [empty] at notIdle
      cases notIdle
    rw [join, notEmpty, noSlash]
    rfl

/-- A path of names that has a name after its first part. -/
theorem layout_of_last {path : Path} {last : String} {above : List String} (plain : path.IsPlain)
    (trimmed : path.others.reverse.dropWhile isIdle = last :: above) :
    Layout path (named (path.first :: above.reverse)) last := by
  have plainOthers : ∀ part ∈ path.others.reverse, IsPlainPart part := fun part member =>
    plain.parts part (List.mem_cons_of_mem _ (List.mem_reverse.mp member))
  obtain ⟨isName, plainAbove, names⟩ := exists_last trimmed plainOthers
  have draft := draftPath_of_last trimmed isName
  have absolute : path.isAbsolute = decide (path.first = "") := by
    have others : path.others ≠ [] := by
      intro none
      rw [none] at trimmed
      cases trimmed
    simp [Path.isAbsolute, others]
  have stepsOthers : named path.others = named above.reverse ++ [last] := by
    have reversed := congrArg List.reverse names
    rwa [named_reverse, List.reverse_reverse, List.reverse_cons, ← named_reverse] at reversed
  have draftName : last ++ ".tmp" ≠ "" := by simp
  refine ⟨?_, ?_, ?_, ?_, ?_, ?_⟩
  · rw [steps_eq, stepsOthers, ← List.append_assoc, ← named_append]
    rfl
  · simp [fileName?, trimmed, isName]
  · rw [draft, steps_eq, named_append, named_singleton draftName, named_reverse, named_dropWhile plainAbove,
      ← named_reverse, ← List.append_assoc, ← named_append]
    rfl
  · rw [absolute, draft]
    simp [Path.isAbsolute]
  · rw [draft]
    simp [endsInSlash]
  · have leadUp := @leadUp_shortened path.first above plainAbove
    rw [absolute, ancestors, trimmed, ← named_reverse]
    simpa using leadUp

theorem named_others_of_first {path : Path} (plain : path.IsPlain)
    (trimmed : path.others.reverse.dropWhile isIdle = []) : named path.others = [] := by
  have plainOthers : ∀ part ∈ path.others.reverse, IsPlainPart part := fun part member =>
    plain.parts part (List.mem_cons_of_mem _ (List.mem_reverse.mp member))
  have none := named_dropWhile plainOthers
  rw [trimmed, named_reverse] at none
  simpa [named] using none.symm

theorem first_ne_of_first {path : Path} (plain : path.IsPlain)
    (trimmed : path.others.reverse.dropWhile isIdle = []) : path.first ≠ "" := by
  intro absent
  apply plain.some
  rw [steps_eq, named_others_of_first plain trimmed, absent]
  rfl

theorem draftPath_of_first {path : Path} (plain : path.IsPlain)
    (trimmed : path.others.reverse.dropWhile isIdle = []) :
    Store.draftPath path = ⟨path.first ++ ".tmp", []⟩ := by
  have present := first_ne_of_first plain trimmed
  have isName : isName path.first = true :=
    (plain.parts path.first List.mem_cons_self).resolve_left present
  have fileName : path.fileName? = some path.first := by simp [fileName?, trimmed, isName]
  rw [Store.draftPath, withFileName, fileName]
  simp [parent?, trimmed, present, join, isEmpty]

/-- A path whose only name is its first part. -/
theorem layout_of_first {path : Path} (plain : path.IsPlain)
    (trimmed : path.others.reverse.dropWhile isIdle = []) : Layout path [] path.first := by
  have noOthers := named_others_of_first plain trimmed
  have present := first_ne_of_first plain trimmed
  have draft := draftPath_of_first plain trimmed
  have isName : isName path.first = true :=
    (plain.parts path.first List.mem_cons_self).resolve_left present
  refine ⟨?_, ?_, ?_, ?_, ?_, ?_⟩
  · rw [steps_eq, noOthers, named_singleton present]
    rfl
  · simp [fileName?, trimmed, isName]
  · rw [draft, steps_eq, named_singleton (by simp)]
    rfl
  · rw [draft]
    simp [Path.isAbsolute, present]
  · rw [draft]
    rfl
  · rw [ancestors, trimmed]
    exact .nil

theorem IsPlain.exists_layout {path : Path} (plain : path.IsPlain) :
    ∃ names name, Layout path names name := by
  cases trimmed : path.others.reverse.dropWhile isIdle with
  | nil => exact ⟨_, _, layout_of_first plain trimmed⟩
  | cons last above => exact ⟨_, _, layout_of_last plain trimmed⟩

end SeedVault.Path
