/-
Patterns for lines of text: regular expressions. What a pattern matches is no question
here, only whether it can be used, and if not, why.
-/

import SeedVault.Pattern.Automaton
import SeedVault.Pattern.Beginning
import SeedVault.Pattern.Meaning
import SeedVault.Pattern.Nesting
import SeedVault.Pattern.Reader
import SeedVault.Pattern.Report

namespace SeedVault.Pattern

/-- Why a pattern cannot be used. -/
inductive Refusal
  | fault (cause : Fault)
  | needsWords
  | tooLarge
deriving DecidableEq

/-- The text that tells why a pattern cannot be used. -/
def Refusal.report (pattern : String) : Refusal → String
  | .fault cause => cause.report pattern.toList
  | .needsWords => "error building NFA"
  | .tooLarge => s!"Compiled regex exceeds size limit of {Extent.sizeLimit} bytes."

/-- The form of a pattern that means something. -/
def Form.ofPattern (pattern : String) : Except Fault Form := do
  let node ← Node.ofPattern pattern.toList
  node.checkNesting
  let (_, form) ← node.form {}
  return form

namespace Form

/-- Whether one must know all words of Unicode to match a form. -/
def needsWords (form : Form) : Bool :=
  form.any fun form =>
    match form with
    | .look (.word _ isUnicode) => isUnicode
    | _ => false

/-- Why a form cannot be used, if it cannot. Its automata are made one after the other. -/
def refusal? (form : Form) : Option Refusal :=
  if form.isPlain then none
  else if (Extent.ofForm .forward form).isTooLarge then some .tooLarge
  else if form.needsWords then some .needsWords
  else if (Extent.ofForm .backward form).isTooLarge then some .tooLarge
  else none

end Form

/-- Why a pattern cannot be used, if it cannot. -/
def refusal? (pattern : String) : Option Refusal :=
  match Form.ofPattern pattern with
  | .error cause => some (.fault cause)
  | .ok form => form.refusal?

end SeedVault.Pattern
