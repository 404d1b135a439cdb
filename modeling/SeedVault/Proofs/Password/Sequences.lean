/-
Sequences in a password, such as abc and 321. A run is three characters of a sequence, and every run
is in exactly one of the maximal sequences, those that are not part of a longer one. So the number
of runs is the sum of the lengths of the maximal sequences, each less two, and it does not depend on
the end from which the password is read.
-/

import SeedVault.Password.Strength
import Mathlib.Algebra.BigOperators.Group.Finset.Piecewise
import Mathlib.Order.Interval.Finset.Nat
import Mathlib.Order.Preorder.Finite

namespace SeedVault

namespace Password

/-- Characters that stand next to one another: the place of the first one, and how many they are. -/
structure Stretch where
  start : Nat
  length : Nat
deriving DecidableEq

/-- The code point of the character at a place. -/
def code? (chars : List Char) (place : Nat) : Option Int :=
  chars[place]?.map fun char => char.toNat

/-- The code point changes by `step` from the character at a place to the next one. -/
def StepsAt (chars : List Char) (step : Int) (place : Nat) : Prop :=
  ∃ code ∈ code? chars place, code? chars (place + 1) = some (code + step)

instance (chars : List Char) (step : Int) : DecidablePred (StepsAt chars step) :=
  fun _ => Option.decidableExistsMem _

theorem StepsAt.unique {chars : List Char} {step other : Int} {place : Nat}
    (steps : StepsAt chars step place) (again : StepsAt chars other place) : step = other := by
  obtain ⟨code, isCode, next⟩ := steps
  obtain ⟨code', isCode', next'⟩ := again
  have same : code = code' := Option.mem_unique isCode isCode'
  have sameNext : code + step = code' + other := Option.some.inj (next.symm.trans next')
  omega

theorem StepsAt.inside {chars : List Char} {step : Int} {place : Nat}
    (steps : StepsAt chars step place) : place + 1 < chars.length := by
  obtain ⟨_, _, next⟩ := steps
  obtain ⟨_, isNext, _⟩ := Option.map_eq_some_iff.mp next
  exact (List.getElem?_eq_some_iff.mp isNext).1

theorem stepsAt_succ {chars : List Char} {step : Int} {place : Nat} (char : Char) :
    StepsAt (char :: chars) step (place + 1) ↔ StepsAt chars step place := by
  simp only [StepsAt, code?, List.getElem?_cons_succ]

theorem stepsAt_zero {chars : List Char} {step : Int} {first second : Char} :
    StepsAt (first :: second :: chars) step 0 ↔ (second.toNat : Int) = first.toNat + step := by
  simp [StepsAt, code?]

namespace Stretch

variable {chars : List Char} {stretch other inner outer : Stretch} {place : Nat}

/-- The place after the last character. -/
def stop (stretch : Stretch) : Nat :=
  stretch.start + stretch.length

/-- Stretches are ordered by inclusion. -/
instance : PartialOrder Stretch where
  le inner outer := outer.start ≤ inner.start ∧ inner.stop ≤ outer.stop
  le_refl _ := ⟨le_rfl, le_rfl⟩
  le_trans _ _ _ first second := ⟨second.1.trans first.1, first.2.trans second.2⟩
  le_antisymm left right first second := by
    obtain ⟨start, length⟩ := left
    obtain ⟨start', length'⟩ := right
    simp only [stop] at first second
    rw [mk.injEq]
    omega

theorem le_iff : inner ≤ outer ↔ outer.start ≤ inner.start ∧ inner.stop ≤ outer.stop := Iff.rfl

instance : DecidableLE Stretch := fun _ _ => inferInstanceAs (Decidable (_ ∧ _))

/-- The least stretch around two others. -/
def join (stretch other : Stretch) : Stretch where
  start := min stretch.start other.start
  length := max stretch.stop other.stop - min stretch.start other.start

theorem left_le_join (stretch other : Stretch) : stretch ≤ stretch.join other := by
  simp only [le_iff, join, stop]
  omega

theorem right_le_join (stretch other : Stretch) : other ≤ stretch.join other := by
  simp only [le_iff, join, stop]
  omega

/-- Three characters from a place on. -/
def triple (place : Nat) : Stretch where
  start := place
  length := 3

/-- The places from which on there are three characters in the stretch. -/
def triples (stretch : Stretch) : Finset Nat :=
  Finset.Ico stretch.start (stretch.stop - 2)

theorem mem_triples : place ∈ stretch.triples ↔ triple place ≤ stretch := by
  rw [triples, Finset.mem_Ico, le_iff]
  simp only [stop, triple]
  omega

theorem card_triples (stretch : Stretch) : stretch.triples.card = stretch.length - 2 := by
  rw [triples, Nat.card_Ico, stop]
  omega

/-- A stretch of at least three characters in which the code point always rises by one or always
falls by one. -/
def IsSequence (chars : List Char) (stretch : Stretch) : Prop :=
  3 ≤ stretch.length ∧
    ∃ step ∈ [1, -1], ∀ place ∈ Finset.Ico stretch.start (stretch.stop - 1),
      StepsAt chars step place

instance (chars : List Char) : DecidablePred (IsSequence chars) :=
  fun _ => inferInstanceAs (Decidable (_ ∧ _))

theorem IsSequence.inside (isSequence : stretch.IsSequence chars) :
    stretch.start + stretch.length ≤ chars.length := by
  obtain ⟨long, step, _, steps⟩ := isSequence
  have last : stretch.stop - 2 ∈ Finset.Ico stretch.start (stretch.stop - 1) := by
    rw [Finset.mem_Ico, stop]
    omega
  have inside := (steps _ last).inside
  rw [stop] at inside
  omega

/-- Three or more characters of a sequence are a sequence. -/
theorem IsSequence.of_le (isSequence : outer.IsSequence chars) (within : inner ≤ outer)
    (long : 3 ≤ inner.length) : inner.IsSequence chars := by
  obtain ⟨_, step, single, steps⟩ := isSequence
  refine ⟨long, step, single, fun place member => steps place ?_⟩
  rw [le_iff] at within
  rw [Finset.mem_Ico] at member ⊢
  omega

/-- Two sequences with three characters in common go on in the same direction, and so they make
up one sequence. -/
theorem IsSequence.join (isSequence : stretch.IsSequence chars)
    (isOther : other.IsSequence chars) (common : triple place ≤ stretch)
    (alsoCommon : triple place ≤ other) : (stretch.join other).IsSequence chars := by
  obtain ⟨long, step, single, steps⟩ := isSequence
  obtain ⟨_, step', _, steps'⟩ := isOther
  simp only [le_iff, stop, triple] at common alsoCommon
  -- Both go in the direction of the step from the first common character to the second one.
  have same : step = step' := by
    refine (steps place ?_).unique (steps' place ?_)
    all_goals
      rw [Finset.mem_Ico, stop]
      omega
  subst same
  refine ⟨?_, step, single, fun between member => ?_⟩
  · simp only [Stretch.join, stop]
    omega
  · -- The common characters leave no gap between the two stretches.
    have either : between ∈ Finset.Ico stretch.start (stretch.stop - 1) ∨
        between ∈ Finset.Ico other.start (other.stop - 1) := by
      simp only [Finset.mem_Ico, Stretch.join, stop] at member ⊢
      omega
    exact either.elim (steps between) (steps' between)

end Stretch

open Stretch

variable {chars rest : List Char} {stretch other : Stretch} {place : Nat}

/-- The sequences of a password. -/
def sequences (chars : List Char) : Finset Stretch :=
  ((Finset.range chars.length ×ˢ Finset.range (chars.length + 1)).image
    fun (start, length) => ⟨start, length⟩).filter (IsSequence chars)

theorem mem_sequences : stretch ∈ sequences chars ↔ stretch.IsSequence chars := by
  rw [sequences, Finset.mem_filter]
  refine and_iff_right_of_imp fun isSequence => ?_
  have long := isSequence.1
  have inside := isSequence.inside
  refine Finset.mem_image.mpr ⟨(stretch.start, stretch.length), ?_, rfl⟩
  rw [Finset.mem_product, Finset.mem_range, Finset.mem_range]
  omega

/-- The sequences of a password that are not part of a longer one. -/
def maximalSequences (chars : List Char) : Finset Stretch :=
  (sequences chars).filter fun stretch =>
    ∀ other ∈ sequences chars, stretch ≤ other → other = stretch

theorem mem_maximalSequences :
    stretch ∈ maximalSequences chars ↔ Maximal (IsSequence chars) stretch := by
  rw [maximalSequences, Finset.mem_filter]
  simp only [mem_sequences]
  constructor
  · rintro ⟨isSequence, longest⟩
    exact ⟨isSequence, fun other isOther within => (longest other isOther within).le⟩
  · intro maximal
    exact ⟨maximal.prop, fun other isOther within => (maximal.eq_of_le isOther within).symm⟩

theorem exists_maximal_of_isSequence (isSequence : stretch.IsSequence chars) :
    ∃ longest ∈ maximalSequences chars, stretch ≤ longest := by
  obtain ⟨longest, within, maximal⟩ :=
    (sequences chars).exists_le_maximal (mem_sequences.mpr isSequence)
  simp only [mem_sequences] at maximal
  exact ⟨longest, mem_maximalSequences.mpr maximal, within⟩

/-- Maximal sequences with three characters in common are one sequence. -/
theorem eq_of_triple_le (maximal : stretch ∈ maximalSequences chars)
    (isOther : other ∈ maximalSequences chars) (common : triple place ≤ stretch)
    (alsoCommon : triple place ≤ other) : stretch = other := by
  rw [mem_maximalSequences] at maximal isOther
  have joined := maximal.prop.join isOther.prop common alsoCommon
  have isJoin := maximal.eq_of_le joined (left_le_join stretch other)
  exact isJoin.trans (isOther.eq_of_le joined (right_le_join stretch other)).symm

/-- The places at which a run begins. -/
def runPlaces (chars : List Char) : Finset Nat :=
  (Finset.range chars.length).filter fun place => (triple place).IsSequence chars

theorem mem_runPlaces : place ∈ runPlaces chars ↔ (triple place).IsSequence chars := by
  rw [runPlaces, Finset.mem_filter, Finset.mem_range]
  refine and_iff_right_of_imp fun isSequence => ?_
  have inside : place + 3 ≤ chars.length := isSequence.inside
  omega

/-- The runs are the triples of the maximal sequences. -/
theorem runPlaces_eq_biUnion (chars : List Char) :
    runPlaces chars = (maximalSequences chars).biUnion triples := by
  ext place
  rw [mem_runPlaces, Finset.mem_biUnion]
  simp only [mem_triples]
  constructor
  · exact exists_maximal_of_isSequence
  · rintro ⟨longest, maximal, within⟩
    exact (mem_maximalSequences.mp maximal).prop.of_le within le_rfl

theorem card_runPlaces (chars : List Char) :
    (runPlaces chars).card = ∑ stretch ∈ maximalSequences chars, (stretch.length - 2) := by
  have disjoint : (maximalSequences chars : Set Stretch).PairwiseDisjoint triples := by
    intro stretch maximal other isOther different
    refine Finset.disjoint_left.mpr fun place member again => different ?_
    exact eq_of_triple_le maximal isOther (mem_triples.mp member) (mem_triples.mp again)
  rw [runPlaces_eq_biUnion, Finset.card_biUnion disjoint]
  exact Finset.sum_congr rfl fun stretch _ => card_triples stretch

theorem isRun_iff {first second third : Char} :
    isRun first second third = true ↔ ∃ step ∈ [(1 : Int), -1],
      (second.toNat : Int) = first.toNat + step ∧ (third.toNat : Int) = second.toNat + step := by
  simp only [isRun, Bool.or_eq_true, Bool.and_eq_true, beq_iff_eq, List.mem_cons,
    List.not_mem_nil, or_false, exists_eq_or_imp, exists_eq_left]
  omega

theorem isRun_reverse (first second third : Char) :
    isRun third second first = isRun first second third := by
  rw [isRun, isRun, Bool.or_comm, Bool.and_comm, Bool.and_comm (first.toNat == _)]

theorem isSequence_triple_iff :
    (triple place).IsSequence chars ↔
      ∃ step ∈ [1, -1], StepsAt chars step place ∧ StepsAt chars step (place + 1) := by
  have places : Finset.Ico (triple place).start ((triple place).stop - 1) =
      {place, place + 1} := by
    ext between
    simp only [Finset.mem_Ico, Finset.mem_insert, Finset.mem_singleton, stop, triple]
    omega
  have long : 3 ≤ (triple place).length := le_rfl
  rw [IsSequence, places, and_iff_right long]
  simp only [Finset.forall_mem_insert, Finset.mem_singleton, forall_eq]

theorem isSequence_triple_succ (char : Char) :
    (triple (place + 1)).IsSequence (char :: rest) ↔ (triple place).IsSequence rest := by
  simp only [isSequence_triple_iff, stepsAt_succ]

theorem isSequence_triple_zero {first second third : Char} :
    (triple 0).IsSequence (first :: second :: third :: rest) ↔
      isRun first second third = true := by
  simp only [isSequence_triple_iff, stepsAt_succ, stepsAt_zero, isRun_iff]

theorem not_isSequence_of_short (short : chars.length < 3) :
    ¬ stretch.IsSequence chars := by
  intro isSequence
  have long := isSequence.1
  have inside := isSequence.inside
  omega

/-- One more character in front may begin one more run, and it moves the others. -/
theorem countRuns_cons (char : Char) (rest : List Char) :
    countRuns (char :: rest) =
      countRuns rest + if (triple 0).IsSequence (char :: rest) then 1 else 0 := by
  match rest with
  | [] | [_] =>
      rw [if_neg (not_isSequence_of_short (by simp))]
      rfl
  | second :: third :: rest =>
      simp only [isSequence_triple_zero]
      rw [countRuns, Nat.add_comm]

theorem countRuns_eq_card (chars : List Char) : countRuns chars = (runPlaces chars).card := by
  induction chars with
  | nil => rfl
  | cons char rest ih =>
      rw [countRuns_cons, ih, runPlaces, runPlaces, Finset.card_filter, Finset.card_filter,
        List.length_cons, Finset.sum_range_succ']
      simp only [isSequence_triple_succ]

theorem countRuns_le (chars : List Char) : countRuns chars ≤ chars.length - 2 := by
  fun_induction countRuns chars with
  | case1 first second third rest ih =>
      simp only [List.length_cons] at ih ⊢
      split <;> omega
  | case2 => exact Nat.zero_le _

/-- One more character at the end may end one more run. -/
theorem countRuns_concat (chars : List Char) (first second third : Char) :
    countRuns (chars ++ [first, second, third]) =
      countRuns (chars ++ [first, second]) + if isRun first second third then 1 else 0 := by
  induction chars with
  | nil => simp [countRuns]
  | cons char chars ih =>
      match chars with
      | [] => simp [countRuns]
      | [_] => simp [countRuns, Nat.add_assoc]
      | _ :: _ :: _ =>
        simp only [List.cons_append] at ih ⊢
        rw [countRuns, ih, countRuns, Nat.add_assoc]

theorem countRuns_reverse (chars : List Char) : countRuns chars.reverse = countRuns chars := by
  induction chars with
  | nil => rfl
  | cons first rest ih =>
      match rest with
      | [] | [_] => rfl
      | second :: third :: rest =>
        simp only [List.reverse_cons, List.append_assoc, List.cons_append, List.nil_append] at ih ⊢
        rw [countRuns_concat, ih, isRun_reverse, countRuns, Nat.add_comm]

theorem Warning.message_eq_iff {warning : Warning} :
    warning.message = "Contains sequences like abc or 321" ↔ warning = .sequences := by
  cases warning <;> decide

theorem sequences_mem_warnings_iff {password : String} :
    Warning.sequences ∈ (analyse password).warnings ↔ 2 ≤ countRuns password.toList := by
  simp only [analyse]
  split
  · rename_i empty
    rw [List.isEmpty_iff.mp empty]
    decide
  · simp only [List.mem_append, List.mem_ite_nil_right, List.mem_singleton, reduceCtorEq,
      and_false, and_true, or_false, false_or, Nat.lt_iff_add_one_le]

theorem sequences_mem_messages_iff {password : String} :
    "Contains sequences like abc or 321" ∈ (analyse password).warnings.map Warning.message ↔
      2 ≤ countRuns password.toList := by
  simp only [List.mem_map, Warning.message_eq_iff, exists_eq_right, sequences_mem_warnings_iff]

/-- The number of runs of a password is the sum of the lengths of its maximal sequences, each less
two. So it is at most the number of characters less two, there is none in fewer than three
characters, and reading the password backwards changes nothing. There is a warning of sequences,
for the password and for its reverse alike, exactly if the maximal sequences have at least two
runs in all. -/
theorem runs_measure_sequences (password : String) :
    let chars := password.toList
    let total := ∑ stretch ∈ maximalSequences chars, (stretch.length - 2)
    countRuns chars = total ∧
    countRuns chars ≤ chars.length - 2 ∧
    (chars.length < 3 → countRuns chars = 0) ∧
    countRuns chars.reverse = countRuns chars ∧
    ∀ text ∈ [password, String.ofList chars.reverse],
      "Contains sequences like abc or 321" ∈ (analyse text).warnings.map Warning.message ↔
        2 ≤ total := by
  intro chars total
  have measured : countRuns chars = total :=
    (countRuns_eq_card chars).trans (card_runPlaces chars)
  have bounded := countRuns_le chars
  refine ⟨measured, bounded, ?short, countRuns_reverse chars, ?warned⟩
  case short =>
    intro short
    omega
  case warned =>
    intro text member
    rw [sequences_mem_messages_iff, ← measured]
    rcases List.mem_pair.mp member with rfl | rfl
    · rfl
    · rw [String.toList_ofList, countRuns_reverse]

/-- A rising sequence and a falling one share a character, and both count in full. -/
theorem runs_measure_sequences_shared :
    let chars := "abcdcb".toList
    maximalSequences chars = {⟨0, 4⟩, ⟨3, 3⟩} ∧ countRuns chars = 3 ∧
      countRuns chars.reverse = 3 ∧
      "Contains sequences like abc or 321" ∈ (analyse "abcdcb").warnings.map Warning.message ∧
      "Contains sequences like abc or 321" ∉ (analyse "abc").warnings.map Warning.message ∧
      "ba".toList.length < 3 ∧ countRuns "ba".toList = 0 := by
  intro chars
  have maximal : maximalSequences chars = {⟨0, 4⟩, ⟨3, 3⟩} := by decide
  have total : ∑ stretch ∈ maximalSequences chars, (stretch.length - 2) = 3 := by
    rw [maximal]
    decide
  have single : maximalSequences "abc".toList = {⟨0, 3⟩} := by decide
  obtain ⟨measured, _, _, reversed, warned⟩ := runs_measure_sequences "abcdcb"
  obtain ⟨_, _, _, _, unwarned⟩ := runs_measure_sequences "abc"
  obtain ⟨_, _, short, _⟩ := runs_measure_sequences "ba"
  refine ⟨maximal, measured.trans total, reversed.trans (measured.trans total), ?_, ?_,
    by decide, short (by decide)⟩
  · exact (warned "abcdcb" List.mem_cons_self).mpr (total ▸ by decide)
  · rw [unwarned "abc" List.mem_cons_self, single]
    decide

end Password

end SeedVault
