/-
The lines of a text. A text is cut after each line feed, so that only its last line can be
without one. In the bytes of a text the byte of a line feed is always a line feed.
-/

import SeedVault.Proofs.Text.Utf8
import SeedVault.Text.Blank

namespace SeedVault.Text

/-- A text in lines. Each of them ends with its only line feed, but the last may be without. -/
inductive InLines : List (List Char) → List Char → Prop
  | nothing : InLines [] []
  | last {line : List Char} : line ≠ [] → '\n' ∉ line → InLines [line] line
  | ended {body rest : List Char} {lines : List (List Char)} :
      '\n' ∉ body → InLines lines rest → InLines ((body ++ ['\n']) :: lines) (body ++ '\n' :: rest)

/-- No character is lost or moved. -/
theorem InLines.flatten_eq {lines : List (List Char)} {text : List Char}
    (inLines : InLines lines text) : lines.flatten = text := by
  induction inLines with
  | nothing => rfl
  | last _ _ => exact List.append_nil _
  | ended _ _ ih => rw [List.flatten_cons, ih, List.append_assoc, List.singleton_append]

/-- The other lines are a text of their own, and there is none after a line without an end. -/
theorem InLines.of_cons {line text : List Char} {lines : List (List Char)}
    (inLines : InLines (line :: lines) text) :
    line ≠ [] ∧ InLines lines lines.flatten ∧
      ((∃ body, '\n' ∉ body ∧ line = body ++ ['\n']) ∨ '\n' ∉ line ∧ lines = []) := by
  cases inLines with
  | last filled unbroken => exact ⟨filled, .nothing, .inr ⟨unbroken, rfl⟩⟩
  | @ended body rest lines unbroken inLines =>
      refine ⟨List.concat_ne_nil '\n' body, ?_, .inl ⟨body, unbroken, rfl⟩⟩
      rw [inLines.flatten_eq]
      exact inLines

def cutLines : List Char → List (List Char)
  | [] => []
  | char :: rest =>
    if char = '\n' then [char] :: cutLines rest
    else extendFirst char (cutLines rest)

/-- The lines of a text with their ends. -/
def lines (text : String) : List String :=
  (cutLines text.toList).map String.ofList

theorem cutLines_of_last {line : List Char} (filled : line ≠ []) (unbroken : '\n' ∉ line) :
    cutLines line = [line] := by
  induction line with
  | nil => exact absurd rfl filled
  | cons char line ih =>
      rw [List.mem_cons, not_or] at unbroken
      rw [cutLines, if_neg (Ne.symm unbroken.1)]
      cases line with
      | nil => rfl
      | cons next line =>
          rw [ih (List.cons_ne_nil next line) unbroken.2]
          rfl

theorem cutLines_of_ended {body : List Char} (unbroken : '\n' ∉ body) (rest : List Char) :
    cutLines (body ++ '\n' :: rest) = (body ++ ['\n']) :: cutLines rest := by
  induction body with
  | nil => rw [List.nil_append, cutLines, if_pos rfl, List.nil_append]
  | cons char body ih =>
      rw [List.mem_cons, not_or] at unbroken
      rw [List.cons_append, cutLines, if_neg (Ne.symm unbroken.1), ih unbroken.2]
      rfl

/-- A character in front of a text belongs to its first line. -/
theorem InLines.extend {lines : List (List Char)} {text : List Char} {char : Char}
    (inLines : InLines lines text) (other : char ≠ '\n') :
    InLines (extendFirst char lines) (char :: text) := by
  cases inLines with
  | nothing =>
      exact .last (List.cons_ne_nil char []) (by simpa using other.symm)
  | last _ unbroken =>
      exact .last (List.cons_ne_nil char _)
        (List.not_mem_cons_of_ne_of_not_mem other.symm unbroken)
  | @ended body rest lines unbroken inLines =>
      exact @InLines.ended (char :: body) rest lines
        (List.not_mem_cons_of_ne_of_not_mem other.symm unbroken) inLines

theorem inLines_cutLines (text : List Char) : InLines (cutLines text) text := by
  induction text with
  | nil => exact .nothing
  | cons char rest ih =>
      rw [cutLines]
      split
      · rename_i isEnd
        rw [isEnd]
        exact @InLines.ended [] rest _ List.not_mem_nil ih
      · rename_i other
        exact ih.extend other

/-- Every text is in lines in exactly one way. -/
theorem cutLines_eq_iff {text : List Char} {list : List (List Char)} :
    cutLines text = list ↔ InLines list text := by
  constructor
  · rintro rfl
    exact inLines_cutLines text
  · intro inLines
    induction inLines with
    | nothing => rfl
    | last filled unbroken => exact cutLines_of_last filled unbroken
    | ended unbroken _ ih => rw [cutLines_of_ended unbroken, ih]

/-- The lines of a text, as texts. -/
theorem lines_eq_iff {text : String} {list : List String} :
    lines text = list ↔ InLines (list.map String.toList) text.toList := by
  rw [← cutLines_eq_iff, lines]
  constructor
  · rintro rfl
    simp [Function.comp_def]
  · intro cut
    simp [cut, Function.comp_def]

theorem join_lines (text : String) : String.join (lines text) = text := by
  rw [← String.toList_inj, String.toList_join, List.flatMap_def]
  exact (lines_eq_iff.mp rfl).flatten_eq

/-- Only the character itself is written with the byte of a line feed. -/
theorem mem_utf8EncodeChar_iff {char : Char} : 10 ∈ String.utf8EncodeChar char ↔ char = '\n' := by
  by_cases small : char.toNat < 128
  · rw [utf8EncodeChar_of_lt small, List.mem_singleton]
    constructor
    · intro same
      have code := congrArg UInt8.toNat same
      rw [UInt8.toNat_ofNat_of_lt' (Nat.lt_trans small (by decide))] at code
      exact Char.toNat_inj.mp code.symm
    · rintro rfl
      rfl
  · constructor
    · intro member
      exact absurd (by decide) (not_lt_of_mem_utf8EncodeChar (Nat.le_of_not_lt small) member)
    · rintro rfl
      exact absurd (by decide) small

theorem mem_utf8_iff {text : String} : 10 ∈ utf8 text ↔ '\n' ∈ text.toList := by
  rw [utf8, List.mem_flatMap]
  simp only [mem_utf8EncodeChar_iff, exists_eq_right]

end SeedVault.Text
