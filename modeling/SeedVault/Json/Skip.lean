/-
Skipping a value of any depth. The brackets that are still open are kept in a
list, so the depth is bounded by nothing but the text.
-/

import SeedVault.Json.Number
import SeedVault.Json.Text

namespace SeedVault.Json

inductive Bracket
  | list
  | object
deriving DecidableEq

namespace Bracket

def closing : Bracket → Char
  | list => ']'
  | object => '}'

def endOfInput : Bracket → Problem
  | list => .endOfList
  | object => .endOfObject

def endDue : Bracket → Problem
  | list => .listEndDue
  | object => .objectEndDue

end Bracket

/-- What is read first when a value is due. -/
inductive Head
  | opened (bracket : Bracket)
  | whole

/-- Skips a value without brackets, or the opening bracket of another one. -/
def skipHead (text : List Char) : Except Problem (Head × List Char) :=
  match skipBlank text with
  | [] => .error .endOfValue
  | '[' :: rest => .ok (.opened .list, rest)
  | '{' :: rest => .ok (.opened .object, rest)
  | 'n' :: rest => (literal ['u', 'l', 'l'] rest).map (.whole, ·)
  | 't' :: rest => (literal ['r', 'u', 'e'] rest).map (.whole, ·)
  | 'f' :: rest => (literal ['a', 'l', 's', 'e'] rest).map (.whole, ·)
  | '"' :: rest => (skipText rest).map (.whole, ·)
  | '-' :: rest => (skipNumber rest).map (.whole, ·)
  | char :: rest =>
    if isDigit char then (skipNumber (char :: rest)).map (.whole, ·) else .error .valueDue

/-- Skips the colon after a key. -/
def skipColon (text : List Char) : Except Problem (List Char) :=
  match skipBlank text with
  | [] => .error .endOfObject
  | ':' :: rest => .ok rest
  | _ => .error .colonDue

/-- Skips what stands between an opening bracket or a comma and a value:
nothing in a list, and a key with its colon in an object. -/
def skipKey (bracket : Bracket) (text : List Char) : Except Problem (List Char) :=
  match bracket with
  | .list => .ok text
  | .object =>
    match skipBlank text with
    | [] => .error .endOfObject
    | '"' :: rest => (skipText rest).bind skipColon
    | _ => .error .keyDue

theorem map_pair_eq_ok {result : Except Problem (List Char)} {head kind : Head}
    {rest : List Char} (equal : result.map (kind, ·) = .ok (head, rest)) : result = .ok rest := by
  cases result <;> simp_all [Except.map]

theorem length_lt_of_skipHead {text rest : List Char} {head : Head}
    (skipped : skipHead text = .ok (head, rest)) : rest.length < text.length := by
  have blank := length_skipBlank_le text
  unfold skipHead at skipped
  split at skipped
  · simp at skipped
  all_goals (rename_i equation; rw [equation] at blank; simp only [List.length_cons] at blank)
  · cases skipped
    omega
  · cases skipped
    omega
  · have := length_literal_le (map_pair_eq_ok skipped)
    omega
  · have := length_literal_le (map_pair_eq_ok skipped)
    omega
  · have := length_literal_le (map_pair_eq_ok skipped)
    omega
  · have := length_lt_of_skipText (map_pair_eq_ok skipped)
    omega
  · have := length_lt_of_skipNumber (map_pair_eq_ok skipped)
    omega
  · split at skipped
    · have := length_lt_of_skipNumber (map_pair_eq_ok skipped)
      simp only [List.length_cons] at this
      omega
    · simp at skipped

theorem length_lt_of_skipColon {text rest : List Char} (skipped : skipColon text = .ok rest) :
    rest.length < text.length := by
  have blank := length_skipBlank_le text
  unfold skipColon at skipped
  split at skipped
  · simp at skipped
  · rename_i equation
    rw [equation] at blank
    cases skipped
    simp only [List.length_cons] at blank
    omega
  · simp at skipped

theorem length_le_of_skipKey {bracket : Bracket} {text rest : List Char}
    (skipped : skipKey bracket text = .ok rest) : rest.length ≤ text.length := by
  have blank := length_skipBlank_le text
  unfold skipKey at skipped
  split at skipped
  · cases skipped
    exact Nat.le_refl _
  · split at skipped
    · simp at skipped
    · rename_i equation
      rw [equation] at blank
      simp only [List.length_cons] at blank
      match textSkipped : skipText _, skipped with
      | .ok between, skipped =>
        have := length_lt_of_skipText textSkipped
        have := length_lt_of_skipColon skipped
        omega
    · simp at skipped

/-- What is due at a place within brackets. -/
inductive Due
  | value
  /-- The first item after an opening bracket, or the closing bracket. -/
  | first
  /-- A comma, or the closing bracket. -/
  | next

def Due.rank : Due → Nat
  | first => 1
  | _ => 0

/-- Skips up to the end of the outermost of the open brackets, or a single value
if none is open. -/
def skipWithin (due : Due) (brackets : List Bracket) (text : List Char) :
    Except Problem (List Char) :=
  match due, brackets with
  | .value, brackets =>
    match _headSkipped : skipHead text with
    | .error problem => .error problem
    | .ok (.opened bracket, rest) => skipWithin .first (bracket :: brackets) rest
    | .ok (.whole, rest) => skipWithin .next brackets rest
  | .next, [] => .ok text
  | .first, [] => .ok text
  | .next, bracket :: outer =>
    match _blankSkipped : skipBlank text with
    | [] => .error bracket.endOfInput
    | char :: rest =>
      if char = bracket.closing then skipWithin .next outer rest
      else if char = ',' then
        match _keySkipped : skipKey bracket rest with
        | .error problem => .error problem
        | .ok rest => skipWithin .value (bracket :: outer) rest
      else .error bracket.endDue
  | .first, bracket :: outer =>
    match _blankSkipped : skipBlank text with
    | [] => .error bracket.endOfInput
    | char :: rest =>
      if char = bracket.closing then skipWithin .next outer rest
      else
        match _keySkipped : skipKey bracket (char :: rest) with
        | .error problem => .error problem
        | .ok rest => skipWithin .value (bracket :: outer) rest
termination_by (text.length, due.rank)
decreasing_by
  · have := length_lt_of_skipHead _headSkipped
    exact Prod.Lex.left _ _ this
  · have := length_lt_of_skipHead _headSkipped
    exact Prod.Lex.left _ _ this
  · have := length_skipBlank_le text
    rw [_blankSkipped] at this
    exact Prod.Lex.left _ _ this
  · have := length_skipBlank_le text
    have := length_le_of_skipKey _keySkipped
    simp_all only [List.length_cons]
    exact Prod.Lex.left _ _ (by omega)
  · have := length_skipBlank_le text
    rw [_blankSkipped] at this
    exact Prod.Lex.left _ _ this
  · have blank := length_skipBlank_le text
    have := length_le_of_skipKey _keySkipped
    rw [_blankSkipped] at blank
    rcases Nat.lt_or_eq_of_le (Nat.le_trans this blank) with shorter | same
    · exact Prod.Lex.left _ _ shorter
    · rw [same]
      exact Prod.Lex.right _ (by simp [Due.rank])

theorem length_le_of_skipWithin {due : Due} {brackets : List Bracket} {text rest : List Char}
    (skipped : skipWithin due brackets text = .ok rest) : rest.length ≤ text.length := by
  fun_induction skipWithin due brackets text with
  | case1 => simp at skipped
  | case2 text brackets bracket after headSkipped ih =>
    have := length_lt_of_skipHead headSkipped
    have := ih skipped
    omega
  | case3 text brackets after headSkipped ih =>
    have := length_lt_of_skipHead headSkipped
    have := ih skipped
    omega
  | case4 => simp_all
  | case5 => simp_all
  | case6 => simp at skipped
  | case7 text bracket outer after blankSkipped ih =>
    have blank := length_skipBlank_le text
    rw [blankSkipped] at blank
    have := ih skipped
    simp only [List.length_cons] at blank
    omega
  | case8 => simp at skipped
  | case9 text bracket outer after middle keySkipped blankSkipped different ih =>
    have blank := length_skipBlank_le text
    rw [blankSkipped] at blank
    have := length_le_of_skipKey keySkipped
    have := ih skipped
    simp only [List.length_cons] at blank
    omega
  | case10 => simp at skipped
  | case11 => simp at skipped
  | case12 text bracket outer after blankSkipped ih =>
    have blank := length_skipBlank_le text
    rw [blankSkipped] at blank
    have := ih skipped
    simp only [List.length_cons] at blank
    omega
  | case13 => simp at skipped
  | case14 text bracket outer char after blankSkipped different middle keySkipped ih =>
    have blank := length_skipBlank_le text
    rw [blankSkipped] at blank
    have := length_le_of_skipKey keySkipped
    have := ih skipped
    omega

/-- Skips one value. -/
def skipValue (text : List Char) : Except Problem (List Char) :=
  skipWithin .value [] text

end SeedVault.Json
