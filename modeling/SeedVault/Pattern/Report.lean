/-
Telling what is wrong with a pattern: the pattern with marks under what is wrong.
-/

import SeedVault.Pattern.Problem
import SeedVault.Text.Cut

namespace SeedVault.Pattern

/-- A line without the carriage return at its end. -/
def withoutReturn (line : List Char) : List Char :=
  if line.getLast? = some '\r' then line.dropLast else line

/-- The lines of a pattern. What follows the last line feed is a line if it is not empty. -/
def lines (pattern : List Char) : List (List Char) :=
  let (first, others) := Text.cut '\n' pattern
  let parts := first :: others
  let last := parts.getLastD []
  parts.dropLast.map withoutReturn ++ if last.isEmpty then [] else [last]

/-- How many lines a place may be in. -/
def lineCount (pattern : List Char) : Nat :=
  (lines pattern).length + if pattern.getLast? = some '\n' then 1 else 0

/-- The marks under spans of one line, from a column on. -/
def marks (column : Nat) : List Span → String
  | [] => ""
  | span :: spans =>
    let blanks := span.start.column - column
    let count := max 1 (span.stop.column - span.start.column)
    String.ofList (List.replicate blanks ' ' ++ List.replicate count '^') ++
      marks (column + blanks + count) spans

namespace Fault

/-- The places of a fault in their order. -/
def spans (fault : Fault) : List Span :=
  fault.earlier.toList ++ [fault.span]

/-- What is written in front of a line: its number if there are several. -/
def margin (width number : Nat) : String :=
  if width = 0 then "    "
  else
    let digits := toString number
    String.ofList (List.replicate (width - digits.length) ' ') ++ digits ++ ": "

/-- A line of the pattern, and one more with marks if something in it is wrong. -/
def markedLine (fault : Fault) (width number : Nat) (line : List Char) : List String :=
  let marked := fault.spans.filter fun span => span.isOneLine && span.start.line = number
  let blanks := String.ofList (List.replicate (margin width number).length ' ')
  (margin width number ++ String.ofList line) ::
    if marked.isEmpty then [] else [blanks ++ marks 1 marked]

def markedLines (fault : Fault) (pattern : List Char) : List String :=
  let count := lineCount pattern
  let width := if count ≤ 1 then 0 else (toString count).length
  ((lines pattern).zipIdx 1).flatMap fun (line, number) => fault.markedLine width number line

/-- Says in words where the spans of several lines are. -/
def distances (fault : Fault) : List String :=
  (fault.spans.filter (!·.isOneLine)).map fun span =>
    s!"on line {span.start.line} (column {span.start.column}) " ++
      s!"through line {span.stop.line} (column {span.stop.column - 1})"

/-- The text that tells of a fault, without an end of line. Several lines are set off. -/
def report (fault : Fault) (pattern : List Char) : String :=
  let divider := if '\n' ∈ pattern then [String.ofList (List.replicate 79 '~')] else []
  let distances := if '\n' ∈ pattern then fault.distances else []
  "\n".intercalate <|
    ["regex parse error:"] ++ divider ++ fault.markedLines pattern ++ divider ++ distances ++
      [s!"error: {fault.problem.message}"]

end Fault

end SeedVault.Pattern
