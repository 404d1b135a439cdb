/-
What is on a disk after something was put at a location or taken from it, and where a path
leads on it.
-/

import SeedVault.Disk.Tree
import SeedVault.Proofs.Result

namespace SeedVault.FileTree

variable {tree : FileTree} {location other : Location} {node : Node}

theorem lookup_filter_ne {nodes : List (Location × Node)} (different : other ≠ location) :
    (nodes.filter (·.1 ≠ location)).lookup other = nodes.lookup other := by
  induction nodes with
  | nil => rfl
  | cons entry nodes ih =>
      obtain ⟨place, found⟩ := entry
      by_cases here : place = location
      · subst here
        have elsewhere : (other == place) = false := by simp [different]
        rw [List.filter_cons, if_neg (by simp), List.lookup_cons, elsewhere]
        exact ih
      · rw [List.filter_cons, if_pos (by simpa using here), List.lookup_cons, List.lookup_cons, ih]

theorem lookup_filter_self (nodes : List (Location × Node)) :
    (nodes.filter (·.1 ≠ location)).lookup location = none := by
  induction nodes with
  | nil => rfl
  | cons entry nodes ih =>
      obtain ⟨place, found⟩ := entry
      by_cases here : place = location
      · simpa [here] using ih
      · have elsewhere : (location == place) = false := by simp [Ne.symm here]
        rw [List.filter_cons, if_pos (by simpa using here), List.lookup_cons, elsewhere]
        exact ih

@[simp] theorem node?_erase_of_ne (different : other ≠ location) :
    (tree.erase location).node? other = tree.node? other := by
  rw [node?, node?, erase, lookup_filter_ne different]

theorem node?_erase_self (below : location ≠ []) : (tree.erase location).node? location = none := by
  rw [node?, if_neg below]
  exact lookup_filter_self tree.nodes

@[simp] theorem node?_insert_of_ne (different : other ≠ location) :
    (tree.insert location node).node? other = tree.node? other := by
  have elsewhere : (other == location) = false := by simp [different]
  have erased : (tree.erase location).node? other = tree.node? other := node?_erase_of_ne different
  rw [← erased, node?, node?, insert, List.lookup_cons, elsewhere]

theorem node?_insert_self (below : location ≠ []) :
    (tree.insert location node).node? location = some node := by
  rw [node?, if_neg below, insert, List.lookup_cons, beq_self_eq_true]

@[simp] theorem start_insert : (tree.insert location node).start = tree.start := rfl

@[simp] theorem start_erase : (tree.erase location).start = tree.start := rfl

theorem mayRead_privateMode (tree : FileTree) : tree.mayRead privateMode = true := by
  rw [mayRead, show privateMode.testBit 8 = true by decide, Bool.or_true]

theorem mayWrite_privateMode (tree : FileTree) : tree.mayWrite privateMode = true := by
  rw [mayWrite, show privateMode.testBit 7 = true by decide, Bool.or_true]

/-- Two disks as one program sees them: relative paths start at the same place, and it may use files
of the same modes. -/
structure SameProcess (before after : FileTree) : Prop where
  start : after.start = before.start
  isPrivileged : after.isPrivileged = before.isPrivileged

namespace SameProcess

variable {before middle after : FileTree}

theorem refl : SameProcess tree tree :=
  ⟨rfl, rfl⟩

theorem trans (first : SameProcess before middle) (second : SameProcess middle after) :
    SameProcess before after :=
  ⟨second.start.trans first.start, second.isPrivileged.trans first.isPrivileged⟩

theorem mayRead_eq (same : SameProcess before after) (mode : Nat) :
    after.mayRead mode = before.mayRead mode := by
  rw [mayRead, mayRead, same.isPrivileged]

theorem mayWrite_eq (same : SameProcess before after) (mode : Nat) :
    after.mayWrite mode = before.mayWrite mode := by
  rw [mayWrite, mayWrite, same.isPrivileged]

theorem insert (same : SameProcess before after) : SameProcess before (after.insert location node) :=
  ⟨same.start, same.isPrivileged⟩

theorem erase (same : SameProcess before after) : SameProcess before (after.erase location) :=
  ⟨same.start, same.isPrivileged⟩

end SameProcess

/-- A name that something may have. -/
def TakesName (name : String) : Prop :=
  Path.isName name = true ∧ name.utf8ByteSize ≤ longestName

theorem ne_of_isName {name : String} (isName : Path.isName name = true) : name ≠ "." ∧ name ≠ ".." := by
  simp only [Path.isName, Bool.and_eq_true, decide_eq_true_eq] at isName
  exact ⟨isName.1.2, isName.2⟩

theorem step_of_takesName {name : String} (takes : TakesName name) (location : Location) :
    step location name = .ok (.named (location ++ [name])) := by
  obtain ⟨notHere, notAbove⟩ := ne_of_isName takes.1
  rw [step, if_neg notHere, if_neg notAbove, if_neg (Nat.not_lt.mpr takes.2)]

/-- A step to a name leads to that name. -/
theorem eq_of_step_eq_ok {name : String} {target : Target} (isName : Path.isName name = true)
    (stepped : step location name = .ok target) : target = .named (location ++ [name]) := by
  obtain ⟨notHere, notAbove⟩ := ne_of_isName isName
  rw [step, if_neg notHere, if_neg notAbove] at stepped
  split at stepped
  · cases stepped
  · cases stepped
    rfl

/-- Steps are taken one after the other, from one directory to the next. -/
theorem walk_cons {name : String} {names : List String} (more : names ≠ []) :
    walk tree location (name :: names) = (step location name).bind fun target =>
      match tree.node? target.location with
      | none => .error .notFound
      | some (.file _ _) => .error .notADirectory
      | some .directory => walk tree target.location names := by
  cases names with
  | nil => exact absurd rfl more
  | cons next names => rfl

/-- Steps to names lead to those names. -/
theorem eq_of_walk_eq_ok {names : List String} {target : Target}
    (areNames : ∀ name ∈ names, Path.isName name = true) (more : names ≠ [])
    (walked : walk tree location names = .ok target) : target = .named (location ++ names) := by
  induction names generalizing location with
  | nil => exact absurd rfl more
  | cons name names ih =>
      simp only [List.forall_mem_cons] at areNames
      cases names with
      | nil => exact eq_of_step_eq_ok areNames.1 walked
      | cons next names =>
          rw [walk_cons (List.cons_ne_nil _ _)] at walked
          obtain ⟨first, stepped, walked⟩ := bind_eq_ok_iff.mp walked
          obtain rfl := eq_of_step_eq_ok areNames.1 stepped
          dsimp only [Target.location] at walked
          split at walked
          · cases walked
          · cases walked
          · have reached := ih areNames.2 (List.cons_ne_nil _ _) walked
            rwa [List.append_assoc, List.singleton_append] at reached

/-- The locations on the way down from a directory along some names, without the directory. -/
def Along (location : Location) (names : List String) (place : Location) : Prop :=
  ∃ way, way <+: names ∧ way ≠ [] ∧ place = location ++ way

theorem along_cons_iff {name : String} {names : List String} {place : Location} :
    Along location (name :: names) place ↔
      place = location ++ [name] ∨ Along (location ++ [name]) names place := by
  constructor
  · rintro ⟨way, isPrefix, some, rfl⟩
    cases way with
    | nil => exact absurd rfl some
    | cons first way =>
        obtain ⟨rfl, restIsPrefix⟩ := List.cons_prefix_cons.mp isPrefix
        cases way with
        | nil => exact .inl rfl
        | cons second way =>
            exact .inr ⟨second :: way, restIsPrefix, List.cons_ne_nil _ _, by simp⟩
  · rintro (rfl | ⟨way, isPrefix, some, rfl⟩)
    · exact ⟨[name], by simp, List.cons_ne_nil _ _, rfl⟩
    · exact ⟨name :: way, List.cons_prefix_cons.mpr ⟨rfl, isPrefix⟩, List.cons_ne_nil _ _, by simp⟩

/-- Steps over directories lead to the last name. -/
theorem walk_eq_named {names : List String} {name : String}
    (takeNames : ∀ part ∈ names ++ [name], TakesName part)
    (directories : ∀ place, Along location names place → tree.node? place = some .directory) :
    walk tree location (names ++ [name]) = .ok (.named (location ++ names ++ [name])) := by
  induction names generalizing location with
  | nil =>
      rw [List.append_nil]
      exact step_of_takesName (takeNames name (by simp)) location
  | cons first names ih =>
      have takesFirst := takeNames first (by simp)
      rw [List.cons_append, walk_cons (by simp), step_of_takesName takesFirst]
      simp only [Except.bind, Target.location, directories _ (along_cons_iff.mpr (.inl rfl))]
      rw [ih (fun part member => takeNames part (List.mem_cons_of_mem _ member))
        fun place along => directories place (along_cons_iff.mpr (.inr along))]
      simp

/-- Steps lead nowhere if something on the way is missing. -/
theorem walk_eq_notFound {names : List String} {name : String}
    (takeNames : ∀ part ∈ names ++ [name], TakesName part)
    (noFile : ∀ place, Along location names place → ∀ mode content,
      tree.node? place ≠ some (.file mode content))
    (missing : ∃ place, Along location names place ∧ tree.node? place = none) :
    walk tree location (names ++ [name]) = .error .notFound := by
  induction names generalizing location with
  | nil =>
      obtain ⟨_, ⟨way, isPrefix, some, _⟩, _⟩ := missing
      exact absurd (List.prefix_nil.mp isPrefix) some
  | cons first names ih =>
      have takesFirst := takeNames first (by simp)
      rw [List.cons_append, walk_cons (by simp), step_of_takesName takesFirst]
      simp only [Except.bind, Target.location]
      split
      · rfl
      · rename_i isFile
        exact absurd isFile (noFile _ (along_cons_iff.mpr (.inl rfl)) _ _)
      · rename_i isDirectory
        apply ih (fun part member => takeNames part (List.mem_cons_of_mem _ member))
          fun place along => noFile place (along_cons_iff.mpr (.inr along))
        obtain ⟨place, along, absent⟩ := missing
        rcases along_cons_iff.mp along with rfl | along
        · rw [isDirectory] at absent
          cases absent
        · exact ⟨place, along, absent⟩

/-- Steps lead where they led, if all directories are still there. -/
theorem walk_of_directories {after : FileTree} {parts : List String} {reached : Target}
    (directories : ∀ place, tree.node? place = some .directory → after.node? place = some .directory)
    (walked : walk tree location parts = .ok reached) : walk after location parts = .ok reached := by
  induction parts generalizing location with
  | nil => exact walked
  | cons part parts ih =>
      cases parts with
      | nil => exact walked
      | cons next parts =>
          rw [walk_cons (List.cons_ne_nil _ _)] at walked ⊢
          obtain ⟨first, stepped, walked⟩ := bind_eq_ok_iff.mp walked
          split at walked
          · cases walked
          · cases walked
          · rename_i isDirectory
            rw [stepped]
            simp only [Except.bind, directories _ isDirectory]
            exact ih walked

end SeedVault.FileTree
