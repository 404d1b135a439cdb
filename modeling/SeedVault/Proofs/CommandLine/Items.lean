/-
The arguments of a command. They are read exactly if they are items one after the other, and
what a command asks for depends on what its items say and not on how they are mixed.
-/

import SeedVault.CommandLine
import SeedVault.Proofs.Result

namespace SeedVault.CommandLine

/-- A part of what stands behind the name of a command. -/
inductive Item
  | force (flag : String) (isFlag : flag = "--force" ∨ flag = "-f")
  | expected (flag : String) (isFlag : flag = "--expect" ∨ flag = "-e") (address : String)
  | other (text : String) (plain : text.toList.head? ≠ some '-')

namespace Item

/-- The arguments that an item is written as. -/
def spelling : Item → List String
  | force flag _ => [flag]
  | expected flag _ address => [flag, address]
  | other text _ => [text]

def isForce : Item → Bool
  | force _ _ => true
  | _ => false

/-- The expected address that an item gives. -/
def address? : Item → Option String
  | expected _ _ address => some address
  | _ => none

/-- The text of an item that is no flag. -/
def text? : Item → Option String
  | other text _ => some text
  | _ => none

/-- What is sorted after one more item. -/
def addTo (sorted : Arguments) : Item → Arguments
  | force _ _ => { sorted with force := true }
  | expected _ _ address => { sorted with expected := some address }
  | other text _ => { sorted with others := sorted.others ++ [text] }

end Item

/-- The arguments that items are written as. -/
def spelled (items : List Item) : List String :=
  items.flatMap Item.spelling

/-- What items say together: whether one of them is a force flag, the last expected address, and
the texts that are no flags. -/
def gathered (items : List Item) : Arguments where
  force := items.any Item.isForce
  expected := (items.filterMap Item.address?).getLast?
  others := items.filterMap Item.text?

theorem sort_force {flag : String} (isFlag : flag = "--force" ∨ flag = "-f") (sorted : Arguments)
    (rest : List String) : sort sorted (flag :: rest) = sort { sorted with force := true } rest := by
  rw [sort.eq_def]
  exact if_pos isFlag

theorem sort_expected {flag : String} (isFlag : flag = "--expect" ∨ flag = "-e")
    (sorted : Arguments) (address : String) (rest : List String) :
    sort sorted (flag :: address :: rest) = sort { sorted with expected := some address } rest := by
  rw [sort.eq_def]
  dsimp only
  rw [if_neg (by rcases isFlag with rfl | rfl <;> decide), if_pos isFlag]

theorem sort_other {text : String} (plain : text.toList.head? ≠ some '-') (sorted : Arguments)
    (rest : List String) :
    sort sorted (text :: rest) = sort { sorted with others := sorted.others ++ [text] } rest := by
  have notForce : ¬ (text = "--force" ∨ text = "-f") := by
    rintro (rfl | rfl) <;> exact plain rfl
  have notExpected : ¬ (text = "--expect" ∨ text = "-e") := by
    rintro (rfl | rfl) <;> exact plain rfl
  rw [sort.eq_def]
  dsimp only
  rw [if_neg notForce, if_neg notExpected, if_neg plain]

/-- An item is taken as a whole. -/
theorem sort_spelling (item : Item) (sorted : Arguments) (rest : List String) :
    sort sorted (item.spelling ++ rest) = sort (item.addTo sorted) rest := by
  cases item with
  | force flag isFlag => exact sort_force isFlag sorted rest
  | expected flag isFlag address => exact sort_expected isFlag sorted address rest
  | other text plain => exact sort_other plain sorted rest

theorem sort_spelled (items : List Item) (sorted : Arguments) :
    sort sorted (spelled items) = .ok (items.foldl Item.addTo sorted) := by
  induction items generalizing sorted with
  | nil => rfl
  | cons item items ih =>
      rw [spelled, List.flatMap_cons, sort_spelling]
      exact ih (item.addTo sorted)

/-- Only items can be sorted. -/
theorem exists_items_of_sort {sorted after : Arguments} {arguments : List String}
    (read : sort sorted arguments = .ok after) : ∃ items, arguments = spelled items := by
  fun_induction sort sorted arguments with
  | case1 => exact ⟨[], rfl⟩
  | case2 sorted flag rest isFlag ih =>
      obtain ⟨items, rfl⟩ := ih read
      exact ⟨.force flag isFlag :: items, rfl⟩
  | case3 => cases read
  | case4 sorted flag _ isFlag address rest ih =>
      obtain ⟨items, rfl⟩ := ih read
      exact ⟨.expected flag isFlag address :: items, rfl⟩
  | case5 => cases read
  | case6 sorted text rest _ _ plain ih =>
      obtain ⟨items, rfl⟩ := ih read
      exact ⟨.other text plain :: items, rfl⟩

/-- Sorting item by item gathers what all items say. -/
theorem foldl_addTo (items : List Item) (sorted : Arguments) :
    items.foldl Item.addTo sorted =
      { force := sorted.force || items.any Item.isForce
        expected := (items.filterMap Item.address?).getLast?.or sorted.expected
        others := sorted.others ++ items.filterMap Item.text? } := by
  induction items generalizing sorted with
  | nil => simp
  | cons item items ih =>
      rw [List.foldl_cons, ih]
      cases item <;>
        simp [Item.addTo, Item.isForce, Item.address?, Item.text?, List.getLast?_cons,
          List.filterMap_cons]

theorem sort_eq_ok_iff {arguments : List String} {sorted : Arguments} :
    sort {} arguments = .ok sorted ↔ ∃ items, arguments = spelled items ∧ sorted = gathered items := by
  have gather (items : List Item) : items.foldl Item.addTo {} = gathered items := by
    rw [foldl_addTo, gathered]
    simp
  constructor
  · intro read
    obtain ⟨items, rfl⟩ := exists_items_of_sort read
    rw [sort_spelled, gather] at read
    exact ⟨items, rfl, (Except.ok.inj read).symm⟩
  · rintro ⟨items, rfl, rfl⟩
    rw [sort_spelled, gather]

theorem force_gathered_iff {items : List Item} :
    (gathered items).force = true ↔ ∃ item ∈ items, item.isForce = true :=
  List.any_eq_true

theorem expected_gathered_iff {items : List Item} :
    (gathered items).expected.isSome = true ↔ ∃ item ∈ items, item.address?.isSome = true := by
  rw [gathered, List.getLast?_isSome, Ne, List.filterMap_eq_nil_iff]
  simp only [Option.isSome_iff_ne_none, Classical.not_forall, exists_prop, ne_eq]

/-- What a command asks for. Only the check of an address takes a text that is no flag. -/
inductive Asks (arguments : Arguments) : String → Request → Prop
  | create : arguments.others = [] → Asks arguments "create" .create
  | importSeed : arguments.others = [] → Asks arguments "import" (.importSeed arguments.force)
  | unlock : arguments.others = [] → Asks arguments "unlock" (.unlock arguments.expected)
  | exportKey : arguments.others = [] → Asks arguments "export-key" (.exportKey arguments.expected)
  | changePassword : arguments.others = [] →
      Asks arguments "change-password" (.changePassword arguments.expected)
  | forget : arguments.others = [] → Asks arguments "forget" .forget
  | checkPhrase : arguments.others = [] → Asks arguments "check-phrase" .checkPhrase
  | checkAddress {text : String} : arguments.others = [text] →
      Asks arguments "check-address" (.checkAddress text)

theorem request_eq_ok_iff {name : String} {arguments : Arguments} {asked : Request} :
    request name arguments = .ok asked ↔ Asks arguments name asked := by
  constructor
  · intro read
    unfold request at read
    split at read
    all_goals cases read
    case h_1 none => exact .create none
    case h_2 none => exact .importSeed none
    case h_3 none => exact .unlock none
    case h_4 none => exact .exportKey none
    case h_5 none => exact .changePassword none
    case h_6 none => exact .forget none
    case h_7 none => exact .checkPhrase none
    case h_8 one => exact .checkAddress one
  · intro asks
    cases asks <;> simp only [request, *]

/-- What is asked for does not depend on the order of the arguments. -/
theorem Asks.of_perm {arguments others : Arguments} {name : String} {asked : Request}
    (asks : Asks arguments name asked) (force : others.force = arguments.force)
    (expected : others.expected = arguments.expected)
    (same : others.others.Perm arguments.others) : Asks others name asked := by
  have none (empty : arguments.others = []) : others.others = [] := by
    rw [empty] at same
    exact same.eq_nil
  cases asks with
  | create empty => exact .create (none empty)
  | importSeed empty =>
      rw [← force]
      exact .importSeed (none empty)
  | unlock empty =>
      rw [← expected]
      exact .unlock (none empty)
  | exportKey empty =>
      rw [← expected]
      exact .exportKey (none empty)
  | changePassword empty =>
      rw [← expected]
      exact .changePassword (none empty)
  | forget empty => exact .forget (none empty)
  | checkPhrase empty => exact .checkPhrase (none empty)
  | checkAddress one =>
      rw [one] at same
      exact .checkAddress same.eq_singleton

/-- What the name of a command makes of the arguments. -/
def judged (name : String) (arguments : Arguments) : Except UsageError (Option Request) :=
  if arguments.expected.isSome && !takesExpected name then .error (.expectNotAllowed name)
  else if arguments.force && name ≠ "import" then .error .forceNotAllowed
  else (request name arguments).map some

theorem parse_cons (name : String) (rest : List String) :
    parse (name :: rest) = (sort {} rest).bind (judged name) := by
  rw [parse]
  cases sort {} rest with
  | error problem => rfl
  | ok arguments =>
      change _ = judged name arguments
      unfold judged
      simp only [bind, Except.bind]
      split
      · rfl
      · split
        · rfl
        · cases request name arguments <;> rfl

theorem takesExpected_iff {name : String} :
    takesExpected name = true ↔ name ∈ ["unlock", "export-key", "change-password"] := by
  simp [takesExpected, or_assoc]

theorem judged_eq_ok_iff {name : String} {arguments : Arguments} {asked : Request} :
    judged name arguments = .ok (some asked) ↔
      (arguments.expected.isSome = true → name ∈ ["unlock", "export-key", "change-password"]) ∧
        (arguments.force = true → name = "import") ∧ Asks arguments name asked := by
  have given : (request name arguments).map some = .ok (some asked) ↔
      request name arguments = .ok asked := by
    cases request name arguments <;> simp [Except.map]
  rw [← takesExpected_iff, ← request_eq_ok_iff, ← given, judged]
  split
  · rename_i refused
    simp only [Bool.and_eq_true, Bool.not_eq_true'] at refused
    simp [refused]
  · rename_i taken
    split
    · rename_i refused
      simp only [Bool.and_eq_true, ne_eq, decide_eq_true_eq] at refused
      simp [refused]
    · rename_i free
      simp only [Bool.and_eq_true, Bool.not_eq_true', not_and, Bool.not_eq_false] at taken
      simp only [Bool.and_eq_true, ne_eq, decide_eq_true_eq, not_and, Decidable.not_not] at free
      exact ⟨fun read => ⟨taken, free, read⟩, fun ⟨_, _, read⟩ => read⟩

theorem judged_ne_none (name : String) (arguments : Arguments) :
    judged name arguments ≠ .ok none := by
  intro read
  unfold judged at read
  split at read
  · cases read
  · split at read
    · cases read
    · cases asked : request name arguments <;> rw [asked] at read <;> cases read

/-- The name of a command and items behind it. Force flags are for an import alone, and expected
addresses for the commands that open the vault. -/
inductive Means : List String → Request → Prop
  | mk {name : String} {items : List Item} {asked : Request} :
      (∀ item ∈ items, item.isForce = true → name = "import") →
        (∀ item ∈ items, item.address?.isSome = true →
          name ∈ ["unlock", "export-key", "change-password"]) →
        Asks (gathered items) name asked → Means (name :: spelled items) asked

theorem parse_spelled (name : String) (items : List Item) :
    parse (name :: spelled items) = judged name (gathered items) := by
  rw [parse_cons, sort_eq_ok_iff.mpr ⟨items, rfl, rfl⟩]
  rfl

theorem judged_gathered_eq_ok_iff {name : String} {items : List Item} {asked : Request} :
    judged name (gathered items) = .ok (some asked) ↔
      (∀ item ∈ items, item.isForce = true → name = "import") ∧
        (∀ item ∈ items, item.address?.isSome = true →
          name ∈ ["unlock", "export-key", "change-password"]) ∧
        Asks (gathered items) name asked := by
  rw [judged_eq_ok_iff, force_gathered_iff, expected_gathered_iff]
  simp only [forall_exists_index, and_imp]
  exact and_left_comm

theorem parse_eq_ok_none_iff {arguments : List String} :
    parse arguments = .ok none ↔ arguments = [] := by
  cases arguments with
  | nil => simp [parse]
  | cons name rest =>
      refine iff_of_false (fun read => ?_) (List.cons_ne_nil name rest)
      rw [parse_cons] at read
      obtain ⟨arguments, _, read⟩ := bind_eq_ok_iff.mp read
      exact judged_ne_none name arguments read

/-- A command line is read exactly if it is one of the grammar. -/
theorem parse_eq_ok_some_iff {arguments : List String} {asked : Request} :
    parse arguments = .ok (some asked) ↔ Means arguments asked := by
  constructor
  · intro read
    cases arguments with
    | nil => cases read
    | cons name rest =>
        have whole := read
        rw [parse_cons] at read
        obtain ⟨arguments, sorts, _⟩ := bind_eq_ok_iff.mp read
        obtain ⟨items, rfl, _⟩ := sort_eq_ok_iff.mp sorts
        rw [parse_spelled] at whole
        obtain ⟨forced, expected, asks⟩ := judged_gathered_eq_ok_iff.mp whole
        exact .mk forced expected asks
  · rintro ⟨forced, expected, asks⟩
    rw [parse_spelled]
    exact judged_gathered_eq_ok_iff.mpr ⟨forced, expected, asks⟩

/-- Items may be mixed in any way that keeps the order of the expected addresses. -/
theorem parse_spelled_of_perm {name : String} {items others : List Item} {asked : Request}
    (mixed : items.Perm others)
    (sameOrder : items.filterMap Item.address? = others.filterMap Item.address?) :
    parse (name :: spelled items) = .ok (some asked) ↔
      parse (name :: spelled others) = .ok (some asked) := by
  have force : (gathered items).force = (gathered others).force := mixed.any_eq
  have expected : (gathered items).expected = (gathered others).expected :=
    congrArg List.getLast? sameOrder
  have texts : (gathered items).others.Perm (gathered others).others :=
    mixed.filterMap Item.text?
  rw [parse_spelled, parse_spelled, judged_eq_ok_iff, judged_eq_ok_iff, force, expected]
  exact and_congr_right fun _ => and_congr_right fun _ =>
    ⟨fun asks => asks.of_perm force.symm expected.symm texts.symm,
      fun asks => asks.of_perm force expected texts⟩

end SeedVault.CommandLine
