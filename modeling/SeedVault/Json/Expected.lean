/-
Reading a value of which it is known what it should be.
-/

import SeedVault.Json.Number
import SeedVault.Json.Text

namespace SeedVault.Json

/-- Names the value that stands where another one is expected. -/
def mismatch (expected : String) (text : List Char) : Problem :=
  let wrong (found : Found) := Problem.wrongType found expected
  let named (read : Except Problem Found) : Problem :=
    match read with
    | .ok found => wrong found
    | .error problem => problem
  match text with
  | '[' :: _ => wrong .list
  | '{' :: _ => wrong .object
  | 'n' :: rest => named ((literal ['u', 'l', 'l'] rest).map fun _ => .null)
  | 't' :: rest => named ((literal ['r', 'u', 'e'] rest).map fun _ => .boolean true)
  | 'f' :: rest => named ((literal ['a', 'l', 's', 'e'] rest).map fun _ => .boolean false)
  | '"' :: rest => named ((readText rest).map fun (value, _) => .text value)
  | '-' :: rest => named (numberFound true rest)
  | char :: rest => if isDigit char then named (numberFound false (char :: rest)) else .valueDue
  | [] => .endOfValue

/-- Reads a text, from its quotation mark on. -/
def readString (text : List Char) : Reading String :=
  match skipBlank text with
  | [] => .error .endOfValue
  | '"' :: rest => readText rest
  | other => .error (mismatch "a string" other)

theorem map_eq_ok {α β : Type} {result : Except Problem (α × List Char)} {f : α → β}
    {value : β} {rest : List Char}
    (equal : (result.map fun (value, rest) => (f value, rest)) = .ok (value, rest)) :
    ∃ source, result = .ok (source, rest) := by
  match result, equal with
  | .ok (source, _), equal =>
    simp only [Except.map, Except.ok.injEq, Prod.mk.injEq] at equal
    exact ⟨source, by rw [equal.2]⟩

theorem length_lt_of_readString {text rest : List Char} {value : String}
    (read : readString text = .ok (value, rest)) : rest.length < text.length := by
  have blank := length_skipBlank_le text
  unfold readString at read
  split at read
  · simp at read
  · rename_i equation
    rw [equation] at blank
    have := length_lt_of_readText read
    simp only [List.length_cons] at blank
    omega
  · simp at read

end SeedVault.Json
