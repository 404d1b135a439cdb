/-
What may be wrong with a pattern.
-/

import SeedVault.Pattern.Place

namespace SeedVault.Pattern

/-- How deep the parts of a pattern may be nested. -/
def nestingLimit : Nat := 250

/-- What is wrong, named by what is missing, or by what should not be there. -/
inductive Problem
  | groupUnclosed
  | groupUnopened
  | lookAround
  | nameEmpty
  | nameUnclosed
  | nameCharacter
  | nameTwice
  | flagUnfinished
  | flagUnknown
  | flagTwice
  | negationTwice
  | negationOfNothing
  | nothingToRepeat
  | countMissing
  | countTooLarge
  | countUnclosed
  | countsReversed
  | escapeUnfinished
  | escapeUnknown
  | backreference
  | hexEmpty
  | hexDigit
  | hexNoCharacter
  | boundaryUnclosed
  | boundaryUnknown
  | boundaryOrCountUnclosed
  | propertyLetter
  | classUnclosed
  | classEscape
  | rangeOfClass
  | rangeReversed
  | nestedTooDeep
  | unicodeOff
  | invalidUtf8
  | propertyUnknown
  | propertyValueUnknown
  | kindUnknown
  | caseUnknown
deriving DecidableEq

def Problem.message : Problem → String
  | groupUnclosed => "unclosed group"
  | groupUnopened => "unopened group"
  | lookAround => "look-around, including look-ahead and look-behind, is not supported"
  | nameEmpty => "empty capture group name"
  | nameUnclosed => "unclosed capture group name"
  | nameCharacter => "invalid capture group character"
  | nameTwice => "duplicate capture group name"
  | flagUnfinished => "expected flag but got end of regex"
  | flagUnknown => "unrecognized flag"
  | flagTwice => "duplicate flag"
  | negationTwice => "flag negation operator repeated"
  | negationOfNothing => "dangling flag negation operator"
  | nothingToRepeat => "repetition operator missing expression"
  | countMissing => "repetition quantifier expects a valid decimal"
  | countTooLarge => "decimal literal invalid"
  | countUnclosed => "unclosed counted repetition"
  | countsReversed => "invalid repetition count range, the start must be <= the end"
  | escapeUnfinished => "incomplete escape sequence, reached end of pattern prematurely"
  | escapeUnknown => "unrecognized escape sequence"
  | backreference => "backreferences are not supported"
  | hexEmpty => "hexadecimal literal empty"
  | hexDigit => "invalid hexadecimal digit"
  | hexNoCharacter => "hexadecimal literal is not a Unicode scalar value"
  | boundaryUnclosed =>
    "special word boundary assertion is either unclosed or contains an invalid character"
  | boundaryUnknown =>
    "unrecognized special word boundary assertion, valid choices are: " ++
      "start, end, start-half or end-half"
  | boundaryOrCountUnclosed =>
    "found either the beginning of a special word boundary or a bounded repetition on a " ++
      "\\b with an opening brace, but no closing brace"
  | propertyLetter => "invalid Unicode character class"
  | classUnclosed => "unclosed character class"
  | classEscape => "invalid escape sequence found in character class"
  | rangeOfClass => "invalid range boundary, must be a literal"
  | rangeReversed => "invalid character class range, the start must be <= the end"
  | nestedTooDeep =>
    s!"exceed the maximum number of nested parentheses/brackets ({nestingLimit})"
  | unicodeOff => "Unicode not allowed here"
  | invalidUtf8 => "pattern can match invalid UTF-8"
  | propertyUnknown => "Unicode property not found"
  | propertyValueUnknown => "Unicode property value not found"
  | kindUnknown =>
    "Unicode-aware Perl class not found (make sure the unicode-perl feature is enabled)"
  | caseUnknown =>
    "Unicode-aware case insensitivity matching is not available " ++
      "(make sure the unicode-case feature is enabled)"

/-- A problem and where it is. What must not be there twice has an earlier place too. -/
structure Fault where
  problem : Problem
  span : Span
  earlier : Option Span
deriving DecidableEq

def fail {α : Type} (problem : Problem) (span : Span) : Except Fault α :=
  .error ⟨problem, span, none⟩

end SeedVault.Pattern
