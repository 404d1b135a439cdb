/-
The values of JSON. Skipping takes exactly one value of any depth: what the open brackets still
ask for is kept apart from the value that is being read.
-/

import SeedVault.Json.Skip
import SeedVault.Proofs.Json.Number
import SeedVault.Proofs.Json.Quoted

namespace SeedVault.Json

def Bracket.opening : Bracket → Char
  | list => '['
  | object => '{'

theorem Bracket.isBlank_closing (bracket : Bracket) : isBlank bracket.closing = false := by
  cases bracket <;> rfl

theorem Bracket.closing_ne_comma (bracket : Bracket) : bracket.closing ≠ ',' := by
  cases bracket <;> decide

theorem EndsValue.closing (bracket : Bracket) (rest : List Char) :
    EndsValue (bracket.closing :: rest) := by
  cases bracket with
  | list => exact .cons (.inr (.inl rfl)) rest
  | object => exact .cons (.inr (.inr rfl)) rest

/-- A value without brackets. -/
inductive IsScalar : List Char → Prop
  | null : IsScalar ['n', 'u', 'l', 'l']
  | yes : IsScalar ['t', 'r', 'u', 'e']
  | no : IsScalar ['f', 'a', 'l', 's', 'e']
  | number {text : List Char} : IsNumber text → IsScalar text
  | text {written : List Char} : IsQuotable written → IsScalar ('"' :: written ++ ['"'])

/-- What stands in front of a value between brackets: nothing in a list, and a key with its colon
in an object. -/
inductive IsLead : Bracket → List Char → Prop
  | list : IsLead .list []
  | object {before written after : List Char} :
      Blank before → IsQuotable written → Blank after →
        IsLead .object (before ++ '"' :: written ++ '"' :: after ++ [':'])

/-- A part of a text: a value, or the items between two brackets. -/
inductive Part
  | value
  | items (bracket : Bracket)

/-- The texts of JSON, without white space around a value. -/
inductive IsJson : Part → List Char → Prop
  | scalar {text : List Char} : IsScalar text → IsJson .value text
  | empty {bracket : Bracket} {blank : List Char} :
      Blank blank → IsJson .value (bracket.opening :: blank ++ [bracket.closing])
  | filled {bracket : Bracket} {items : List Char} :
      IsJson (.items bracket) items →
        IsJson .value (bracket.opening :: items ++ [bracket.closing])
  | last {bracket : Bracket} {lead before value after : List Char} :
      IsLead bracket lead → Blank before → IsJson .value value → Blank after →
        IsJson (.items bracket) (lead ++ before ++ value ++ after)
  | more {bracket : Bracket} {lead before value after items : List Char} :
      IsLead bracket lead → Blank before → IsJson .value value → Blank after →
        IsJson (.items bracket) items →
          IsJson (.items bracket) (lead ++ before ++ value ++ after ++ ',' :: items)

theorem isBlank_of_isDigit {char : Char} (digit : isDigit char = true) : isBlank char = false := by
  rw [← Bool.not_eq_true]
  intro blank
  simp only [isBlank, Bool.or_eq_true, beq_iff_eq] at blank
  rcases blank with ((rfl | rfl) | rfl) | rfl <;> cases digit

theorem IsNumber.exists_first {text : List Char} (isNumber : IsNumber text) :
    ∃ first rest, text = first :: rest ∧ (first = '-' ∨ isDigit first = true) := by
  cases isNumber with
  | negative _ => exact ⟨_, _, rfl, .inl rfl⟩
  | plain isMagnitude =>
      obtain ⟨first, rest, same, digit⟩ := isMagnitude.exists_digit
      exact ⟨first, rest, same, .inr digit⟩

theorem IsScalar.exists_first {text : List Char} (isScalar : IsScalar text) :
    ∃ first rest, text = first :: rest ∧ isBlank first = false ∧ first ≠ ']' := by
  cases isScalar with
  | null | yes | no | text _ => exact ⟨_, _, rfl, rfl, by decide⟩
  | number isNumber =>
      obtain ⟨first, rest, same, rfl | digit⟩ := isNumber.exists_first
      · exact ⟨_, rest, same, rfl, by decide⟩
      · refine ⟨first, rest, same, isBlank_of_isDigit digit, ?_⟩
        rintro rfl
        cases digit

/-- A value starts with something other than the end of a list. -/
theorem IsJson.exists_first {value : List Char} (isJson : IsJson .value value) :
    ∃ first rest, value = first :: rest ∧ isBlank first = false ∧ first ≠ ']' := by
  cases isJson with
  | scalar isScalar => exact isScalar.exists_first
  | @empty bracket _ _ | @filled bracket _ _ =>
      refine ⟨bracket.opening, _, List.cons_append, ?_⟩
      cases bracket <;> exact ⟨rfl, by decide⟩

/-- What skipping the head of a value takes. -/
inductive IsHead : Head → List Char → Prop
  | opened {bracket : Bracket} : IsHead (.opened bracket) [bracket.opening]
  | whole {text : List Char} : IsScalar text → IsHead .whole text

theorem skipHead_sound {text rest : List Char} {head : Head}
    (skipped : skipHead text = .ok (head, rest)) :
    ∃ before written, Blank before ∧ IsHead head written ∧ text = before ++ written ++ rest := by
  have headed {tail written : List Char} (skips : skipBlank text = tail)
      (isHead : IsHead head written) (same : tail = written ++ rest) :
      ∃ before written, Blank before ∧ IsHead head written ∧ text = before ++ written ++ rest := by
    obtain ⟨before, blank, rfl⟩ := exists_blank_of_eq skips
    exact ⟨before, written, blank, isHead, by rw [same, List.append_assoc]⟩
  unfold skipHead at skipped
  split at skipped
  case h_1 => cases skipped
  case h_2 skips =>
    cases skipped
    exact headed skips .opened rfl
  case h_3 skips =>
    cases skipped
    exact headed skips .opened rfl
  case h_4 skips =>
    obtain ⟨rfl, read⟩ := map_pair_eq_ok_iff.mp skipped
    exact headed skips (.whole .null) (by rw [literal_eq_ok_iff.mp read]; rfl)
  case h_5 skips =>
    obtain ⟨rfl, read⟩ := map_pair_eq_ok_iff.mp skipped
    exact headed skips (.whole .yes) (by rw [literal_eq_ok_iff.mp read]; rfl)
  case h_6 skips =>
    obtain ⟨rfl, read⟩ := map_pair_eq_ok_iff.mp skipped
    exact headed skips (.whole .no) (by rw [literal_eq_ok_iff.mp read]; rfl)
  case h_7 skips =>
    obtain ⟨rfl, read⟩ := map_pair_eq_ok_iff.mp skipped
    obtain ⟨written, isQuotable, rfl⟩ := skipText_eq_ok_iff.mp read
    exact headed skips (.whole (.text isQuotable)) (by simp)
  case h_8 skips =>
    obtain ⟨rfl, read⟩ := map_pair_eq_ok_iff.mp skipped
    obtain ⟨magnitude, isMagnitude, rfl⟩ := skipNumber_sound read
    exact headed skips (.whole (.number (.negative isMagnitude))) rfl
  case h_9 skips =>
    split at skipped
    · obtain ⟨rfl, read⟩ := map_pair_eq_ok_iff.mp skipped
      obtain ⟨magnitude, isMagnitude, same⟩ := skipNumber_sound read
      exact headed skips (.whole (.number (.plain isMagnitude))) same
    · cases skipped

theorem skipHead_opened {before : List Char} (blank : Blank before) (bracket : Bracket)
    (rest : List Char) :
    skipHead (before ++ bracket.opening :: rest) = .ok (.opened bracket, rest) := by
  unfold skipHead
  cases bracket with
  | list | object =>
      rw [Bracket.opening, skipBlank_append_cons blank rfl]
      rfl

/-- A digit at the start of a value makes it a number. -/
theorem skipHead_digit {before : List Char} {first : Char} (blank : Blank before)
    (digit : isDigit first = true) (rest : List Char) :
    skipHead (before ++ first :: rest) = (skipNumber (first :: rest)).map (.whole, ·) := by
  unfold skipHead
  rw [skipBlank_append_cons blank (isBlank_of_isDigit digit)]
  split
  all_goals (rename_i same; cases same)
  case h_9 => rw [if_pos digit]
  all_goals cases digit

theorem skipHead_whole {before written rest : List Char} (blank : Blank before)
    (isScalar : IsScalar written) (ends : EndsValue rest) :
    skipHead (before ++ (written ++ rest)) = .ok (.whole, rest) := by
  cases isScalar with
  | null | yes | no =>
      unfold skipHead
      simp only [List.cons_append]
      rw [skipBlank_append_cons blank rfl]
      exact map_pair_eq_ok_iff.mpr ⟨rfl, literal_eq_ok_iff.mpr rfl⟩
  | text isQuotable =>
      unfold skipHead
      rw [List.append_assoc, List.cons_append, skipBlank_append_cons blank rfl]
      exact map_pair_eq_ok_iff.mpr ⟨rfl, skipText_complete isQuotable rest⟩
  | number isNumber =>
      have ended := EndsNumber.of_endsValue ends
      cases isNumber with
      | negative isMagnitude =>
          unfold skipHead
          rw [List.cons_append, skipBlank_append_cons blank rfl]
          exact map_pair_eq_ok_iff.mpr ⟨rfl, skipNumber_complete isMagnitude ended⟩
      | plain isMagnitude =>
          have skipped := skipNumber_complete isMagnitude ended
          obtain ⟨first, tail, rfl, digit⟩ := isMagnitude.exists_digit
          rw [List.cons_append, skipHead_digit blank digit]
          exact map_pair_eq_ok_iff.mpr ⟨rfl, skipped⟩

theorem skipColon_eq_ok_iff {text rest : List Char} :
    skipColon text = .ok rest ↔ ∃ before, Blank before ∧ text = before ++ ':' :: rest := by
  unfold skipColon
  constructor
  · intro skipped
    split at skipped
    · cases skipped
    · rename_i skips
      cases skipped
      exact exists_blank_of_eq skips
    · cases skipped
  · rintro ⟨before, blank, rfl⟩
    rw [skipBlank_append_cons blank rfl]
    rfl

/-- Skipping takes what stands in front of a value between brackets. -/
theorem skipKey_eq_ok_iff {bracket : Bracket} {text rest : List Char} :
    skipKey bracket text = .ok rest ↔ ∃ lead, IsLead bracket lead ∧ text = lead ++ rest := by
  unfold skipKey
  constructor
  · intro skipped
    cases bracket with
    | list =>
        cases skipped
        exact ⟨[], .list, rfl⟩
    | object =>
        dsimp only at skipped
        split at skipped
        · cases skipped
        · rename_i quoted skips
          obtain ⟨before, blank, rfl⟩ := exists_blank_of_eq skips
          cases textSkipped : skipText quoted with
          | error problem =>
              rw [textSkipped] at skipped
              cases skipped
          | ok between =>
              rw [textSkipped] at skipped
              obtain ⟨written, isQuotable, rfl⟩ := skipText_eq_ok_iff.mp textSkipped
              obtain ⟨after, blankAfter, rfl⟩ := skipColon_eq_ok_iff.mp skipped
              exact ⟨_, .object blank isQuotable blankAfter, by simp⟩
        · cases skipped
  · rintro ⟨lead, isLead, rfl⟩
    cases isLead with
    | list => rfl
    | @object before written after blank isQuotable blankAfter =>
        have laidOut : before ++ '"' :: written ++ '"' :: after ++ [':'] ++ rest =
            before ++ '"' :: (written ++ '"' :: (after ++ ':' :: rest)) := by simp
        rw [laidOut]
        dsimp only
        rw [skipBlank_append_cons blank rfl]
        change (skipText _).bind skipColon = _
        rw [skipText_complete isQuotable]
        exact skipColon_eq_ok_iff.mpr ⟨after, blankAfter, rfl⟩

/-- What follows a value between brackets, up to the closing one. -/
inductive IsTail (bracket : Bracket) : List Char → Prop
  | close {blank : List Char} : Blank blank → IsTail bracket (blank ++ [bracket.closing])
  | more {blank items : List Char} :
      Blank blank → IsJson (.items bracket) items →
        IsTail bracket (blank ++ ',' :: items ++ [bracket.closing])

/-- An item and what follows it are items and the closing bracket. -/
theorem IsTail.exists_items {bracket : Bracket} {lead before value tail : List Char}
    (isTail : IsTail bracket tail) (isLead : IsLead bracket lead) (blank : Blank before)
    (isJson : IsJson .value value) :
    ∃ items, IsJson (.items bracket) items ∧
      lead ++ before ++ value ++ tail = items ++ [bracket.closing] := by
  cases isTail with
  | close blankAfter => exact ⟨_, .last isLead blank isJson blankAfter, by simp⟩
  | more blankAfter areItems => exact ⟨_, .more isLead blank isJson blankAfter areItems, by simp⟩

/-- What is left to read of the values whose brackets are open, the innermost one first. -/
inductive Closes : List Bracket → List Char → Prop
  | nil : Closes [] []
  | cons {bracket : Bracket} {outer : List Bracket} {tail rest : List Char} :
      IsTail bracket tail → Closes outer rest → Closes (bracket :: outer) (tail ++ rest)

/-- What completes the open brackets, if something is due within the innermost one. -/
inductive Completes : Due → List Bracket → List Char → Prop
  | value {brackets : List Bracket} {before value rest : List Char} :
      Blank before → IsJson .value value → Closes brackets rest →
        Completes .value brackets (before ++ value ++ rest)
  | none : Completes .first [] []
  | empty {bracket : Bracket} {outer : List Bracket} {blank rest : List Char} :
      Blank blank → Closes outer rest →
        Completes .first (bracket :: outer) (blank ++ bracket.closing :: rest)
  | filled {bracket : Bracket} {outer : List Bracket} {items rest : List Char} :
      IsJson (.items bracket) items → Closes outer rest →
        Completes .first (bracket :: outer) (items ++ bracket.closing :: rest)
  | next {brackets : List Bracket} {rest : List Char} :
      Closes brackets rest → Completes .next brackets rest

/-- An item in front of what completes the brackets around it. -/
theorem exists_items_of_completes {bracket : Bracket} {outer : List Bracket}
    {lead middle : List Char} (isLead : IsLead bracket lead)
    (completes : Completes .value (bracket :: outer) middle) :
    ∃ items rest, IsJson (.items bracket) items ∧ Closes outer rest ∧
      lead ++ middle = items ++ bracket.closing :: rest := by
  cases completes with
  | value blank isJson closes =>
      cases closes with
      | cons isTail closes =>
          obtain ⟨items, areItems, same⟩ := isTail.exists_items isLead blank isJson
          refine ⟨items, _, areItems, closes, ?_⟩
          rw [List.append_cons, ← same]
          simp only [List.append_assoc]

/-- White space in front of an item belongs to it. -/
theorem exists_items_of_blank_completes {bracket : Bracket} {outer : List Bracket}
    {before lead middle : List Char} (blank : Blank before) (isLead : IsLead bracket lead)
    (completes : Completes .value (bracket :: outer) middle) :
    ∃ items rest, IsJson (.items bracket) items ∧ Closes outer rest ∧
      before ++ lead ++ middle = items ++ bracket.closing :: rest := by
  cases isLead with
  | list =>
      cases completes with
      | value blankInside isJson closes =>
          have completes := Completes.value (blank.append blankInside) isJson closes
          obtain ⟨items, rest, areItems, closes, same⟩ := exists_items_of_completes .list completes
          exact ⟨items, rest, areItems, closes, by simpa using same⟩
  | object blankInside isQuotable blankAfter =>
      have isLead := IsLead.object (blank.append blankInside) isQuotable blankAfter
      obtain ⟨items, rest, areItems, closes, same⟩ := exists_items_of_completes isLead completes
      exact ⟨items, rest, areItems, closes, by simpa using same⟩

/-- Skipping takes what completes the open brackets. The invariant of the loop is that what was
taken, together with what the brackets ask for, is a value. -/
theorem skipWithin_sound {due : Due} {brackets : List Bracket} {text rest : List Char}
    (skipped : skipWithin due brackets text = .ok rest) :
    ∃ taken, Completes due brackets taken ∧ text = taken ++ rest := by
  fun_induction skipWithin due brackets text with
  -- A value is due: its head is wrong, opens brackets, or is all of it.
  | case1 => cases skipped
  | case2 text brackets bracket after headSkipped ih =>
      obtain ⟨before, _, blank, isHead, rfl⟩ := skipHead_sound headSkipped
      obtain ⟨taken, completes, rfl⟩ := ih skipped
      cases isHead
      cases completes with
      | empty blankInside closes =>
          have isJson : IsJson .value (bracket.opening :: _ ++ [bracket.closing]) := .empty blankInside
          exact ⟨_, .value blank isJson closes, by simp⟩
      | filled areItems closes => exact ⟨_, .value blank (.filled areItems) closes, by simp⟩
  | case3 text brackets after headSkipped ih =>
      obtain ⟨before, written, blank, isHead, rfl⟩ := skipHead_sound headSkipped
      obtain ⟨taken, completes, rfl⟩ := ih skipped
      cases isHead with
      | whole isScalar =>
          cases completes with
          | next closes => exact ⟨_, .value blank (.scalar isScalar) closes, by simp⟩
  -- All brackets are closed.
  | case4 =>
      cases skipped
      exact ⟨[], .next .nil, rfl⟩
  | case5 =>
      cases skipped
      exact ⟨[], .none, rfl⟩
  -- After an item, the innermost brackets are closed or go on.
  | case6 => cases skipped
  | case7 text bracket outer after blankSkipped ih =>
      obtain ⟨before, blank, rfl⟩ := exists_blank_of_eq blankSkipped
      obtain ⟨taken, completes, rfl⟩ := ih skipped
      cases completes with
      | next closes => exact ⟨_, .next (.cons (.close blank) closes), by simp⟩
  | case8 => cases skipped
  | case9 text bracket outer after middle keySkipped blankSkipped different ih =>
      obtain ⟨before, blank, rfl⟩ := exists_blank_of_eq blankSkipped
      obtain ⟨lead, isLead, rfl⟩ := skipKey_eq_ok_iff.mp keySkipped
      obtain ⟨taken, completes, rfl⟩ := ih skipped
      obtain ⟨items, outside, areItems, closes, same⟩ := exists_items_of_completes isLead completes
      refine ⟨_, .next (.cons (.more blank areItems) closes), ?_⟩
      rw [← List.append_assoc lead, same]
      simp
  | case10 => cases skipped
  -- The innermost brackets, just opened, are closed or have a first item.
  | case11 => cases skipped
  | case12 text bracket outer after blankSkipped ih =>
      obtain ⟨before, blank, rfl⟩ := exists_blank_of_eq blankSkipped
      obtain ⟨taken, completes, rfl⟩ := ih skipped
      cases completes with
      | next closes => exact ⟨_, .empty blank closes, by simp⟩
  | case13 => cases skipped
  | case14 text bracket outer char after blankSkipped different middle keySkipped ih =>
      obtain ⟨before, blank, rfl⟩ := exists_blank_of_eq blankSkipped
      obtain ⟨lead, isLead, same⟩ := skipKey_eq_ok_iff.mp keySkipped
      obtain ⟨taken, completes, rfl⟩ := ih skipped
      obtain ⟨items, outside, areItems, closes, laidOut⟩ :=
        exists_items_of_blank_completes blank isLead completes
      refine ⟨_, .filled areItems closes, ?_⟩
      rw [← laidOut, same]
      simp

/-- Skips an item between brackets, and on to where the outermost of them is closed. -/
def skipItem (bracket : Bracket) (outer : List Bracket) (text : List Char) :
    Except Problem (List Char) :=
  (skipKey bracket text).bind (skipWithin .value (bracket :: outer))

theorem skipWithin_value_of_whole {text rest : List Char} (skipped : skipHead text = .ok (.whole, rest))
    (brackets : List Bracket) :
    skipWithin .value brackets text = skipWithin .next brackets rest := by
  rw [skipWithin]
  split
  all_goals (rename_i found; rw [skipped] at found; cases found)
  rfl

theorem skipWithin_value_of_opened {text rest : List Char} {bracket : Bracket}
    (skipped : skipHead text = .ok (.opened bracket, rest)) (brackets : List Bracket) :
    skipWithin .value brackets text = skipWithin .first (bracket :: brackets) rest := by
  rw [skipWithin]
  split
  all_goals (rename_i found; rw [skipped] at found; cases found)
  rfl

theorem skipWithin_value_of_blank {before : List Char} (blank : Blank before)
    (brackets : List Bracket) (text : List Char) :
    skipWithin .value brackets (before ++ text) = skipWithin .value brackets text := by
  have same : skipHead (before ++ text) = skipHead text := by
    rw [skipHead, skipHead, skipBlank_append blank]
  cases skipped : skipHead text with
  | error problem =>
      rw [skipWithin, skipWithin]
      split
      all_goals (rename_i found; rw [same, skipped] at found; cases found)
      split
      all_goals (rename_i found; rw [skipped] at found; cases found)
      rfl
  | ok found =>
      obtain ⟨head, rest⟩ := found
      cases head with
      | opened bracket =>
          rw [skipWithin_value_of_opened skipped, skipWithin_value_of_opened (same.trans skipped)]
      | whole => rw [skipWithin_value_of_whole skipped, skipWithin_value_of_whole (same.trans skipped)]

theorem skipWithin_first_cons {text rest : List Char} {char : Char}
    (skips : skipBlank text = char :: rest) (bracket : Bracket) (outer : List Bracket) :
    skipWithin .first (bracket :: outer) text =
      if char = bracket.closing then skipWithin .next outer rest
      else skipItem bracket outer (char :: rest) := by
  rw [skipWithin, skipItem]
  split
  all_goals (rename_i found; rw [skips] at found; cases found)
  cases skipKey bracket (char :: rest) <;> rfl

theorem skipWithin_next_cons {text rest : List Char} {char : Char}
    (skips : skipBlank text = char :: rest) (bracket : Bracket) (outer : List Bracket) :
    skipWithin .next (bracket :: outer) text =
      if char = bracket.closing then skipWithin .next outer rest
      else if char = ',' then skipItem bracket outer rest
      else .error bracket.endDue := by
  rw [skipWithin, skipItem]
  split
  all_goals (rename_i found; rw [skips] at found; cases found)
  cases skipKey bracket rest <;> rfl

theorem skipWithin_next_closing {blank : List Char} (isBlank : Blank blank) (bracket : Bracket)
    (outer : List Bracket) (rest : List Char) :
    skipWithin .next (bracket :: outer) (blank ++ bracket.closing :: rest) =
      skipWithin .next outer rest := by
  rw [skipWithin_next_cons (skipBlank_append_cons isBlank bracket.isBlank_closing rest), if_pos rfl]

theorem skipWithin_next_comma {blank : List Char} (isBlank : Blank blank) (bracket : Bracket)
    (outer : List Bracket) (rest : List Char) :
    skipWithin .next (bracket :: outer) (blank ++ ',' :: rest) = skipItem bracket outer rest := by
  rw [skipWithin_next_cons (skipBlank_append_cons isBlank rfl rest),
    if_neg bracket.closing_ne_comma.symm, if_pos rfl]

theorem skipItem_of_blank {before : List Char} (blank : Blank before) (bracket : Bracket)
    (outer : List Bracket) (text : List Char) :
    skipItem bracket outer (before ++ text) = skipItem bracket outer text := by
  cases bracket with
  | list => exact skipWithin_value_of_blank blank (.list :: outer) text
  | object => rw [skipItem, skipItem, skipKey, skipKey, skipBlank_append blank]

/-- Items start with something other than the closing bracket. -/
theorem IsJson.exists_first_item {bracket : Bracket} {items : List Char}
    (areItems : IsJson (.items bracket) items) :
    ∃ before first rest, Blank before ∧ items = before ++ first :: rest ∧ isBlank first = false ∧
      first ≠ bracket.closing := by
  have headed {lead before value : List Char} (rest : List Char) (isLead : IsLead bracket lead)
      (blank : Blank before) (isJson : IsJson .value value) :
      ∃ before' first rest', Blank before' ∧ lead ++ before ++ value ++ rest = before' ++ first :: rest' ∧
        isBlank first = false ∧ first ≠ bracket.closing := by
    cases isLead with
    | list =>
        obtain ⟨first, tail, rfl, solid, different⟩ := isJson.exists_first
        exact ⟨before, first, tail ++ rest, blank, by simp, solid, different⟩
    | object blankInside _ _ => exact ⟨_, '"', _, blankInside, by simp; rfl, rfl, by decide⟩
  cases areItems with
  | last isLead blank isJson blankAfter => exact headed _ isLead blank isJson
  | more isLead blank isJson blankAfter areItems =>
      obtain ⟨before, first, rest, found⟩ := headed _ isLead blank isJson
      refine ⟨before, first, rest, ?_⟩
      rw [List.append_assoc]
      exact found

/-- How skipping goes on after a value, or after the items between two brackets. -/
def Skips : Part → List Char → Prop
  | .value, text => ∀ {before rest : List Char}, Blank before → EndsValue rest →
      ∀ brackets, skipWithin .value brackets (before ++ (text ++ rest)) = skipWithin .next brackets rest
  | .items bracket, text => ∀ outer rest,
      skipItem bracket outer (text ++ bracket.closing :: rest) = skipWithin .next outer rest

/-- A lead is skipped, and then the value after it. -/
theorem skipItem_of_lead {bracket : Bracket} {lead before value rest : List Char}
    (isLead : IsLead bracket lead) (blank : Blank before) (skips : Skips .value value)
    (ends : EndsValue rest) (outer : List Bracket) :
    skipItem bracket outer (lead ++ (before ++ (value ++ rest))) =
      skipWithin .next (bracket :: outer) rest := by
  rw [skipItem, skipKey_eq_ok_iff.mpr ⟨lead, isLead, rfl⟩]
  exact skips blank ends (bracket :: outer)

theorem IsJson.skips {part : Part} {text : List Char} (isJson : IsJson part text) :
    Skips part text := by
  induction isJson with
  | scalar isScalar =>
      intro before rest blank ends brackets
      exact skipWithin_value_of_whole (skipHead_whole blank isScalar ends) brackets
  | @empty bracket inside blankInside =>
      intro before rest blank _ brackets
      have laidOut : before ++ (bracket.opening :: inside ++ [bracket.closing] ++ rest) =
          before ++ bracket.opening :: (inside ++ bracket.closing :: rest) := by simp
      rw [laidOut, skipWithin_value_of_opened (skipHead_opened blank bracket _),
        skipWithin_first_cons (skipBlank_append_cons blankInside bracket.isBlank_closing rest),
        if_pos rfl]
  | @filled bracket items areItems ih =>
      intro before rest blank _ brackets
      have laidOut : before ++ (bracket.opening :: items ++ [bracket.closing] ++ rest) =
          before ++ bracket.opening :: (items ++ bracket.closing :: rest) := by simp
      rw [laidOut, skipWithin_value_of_opened (skipHead_opened blank bracket _), ← ih brackets rest]
      obtain ⟨inside, first, tail, blankInside, rfl, solid, different⟩ := areItems.exists_first_item
      rw [List.append_assoc, List.cons_append, skipItem_of_blank blankInside,
        skipWithin_first_cons (skipBlank_append_cons blankInside solid _), if_neg different]
  | @last bracket lead before value after isLead blank isJson blankAfter ih =>
      intro outer rest
      have ends : EndsValue (after ++ bracket.closing :: rest) :=
        .append blankAfter (.closing bracket rest)
      simp only [List.append_assoc]
      rw [skipItem_of_lead isLead blank ih ends, skipWithin_next_closing blankAfter]
  | @more bracket lead before value after items isLead blank isJson blankAfter areItems ih ihItems =>
      intro outer rest
      have ends : EndsValue (after ++ ',' :: (items ++ bracket.closing :: rest)) :=
        .append blankAfter (.cons (.inl rfl) _)
      simp only [List.append_assoc, List.cons_append]
      rw [skipItem_of_lead isLead blank ih ends, skipWithin_next_comma blankAfter, ihItems]

/-- Skipping a value takes one, with the white space before it. -/
theorem skipValue_sound {text rest : List Char} (skipped : skipValue text = .ok rest) :
    ∃ before value, Blank before ∧ IsJson .value value ∧ text = before ++ (value ++ rest) := by
  obtain ⟨taken, completes, rfl⟩ := skipWithin_sound skipped
  cases completes with
  | value blank isJson closes =>
      cases closes
      exact ⟨_, _, blank, isJson, by simp⟩

theorem skipValue_complete {before value rest : List Char} (blank : Blank before)
    (isJson : IsJson .value value) (ends : EndsValue rest) :
    skipValue (before ++ (value ++ rest)) = .ok rest := by
  rw [skipValue, isJson.skips blank ends, skipWithin]

end SeedVault.Json
