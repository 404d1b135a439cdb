/-
The filter of the log. It says which lines are written: a list of directives, each of
which names a part of the program, a level, or both, and after a slash a pattern that
lines must match. What cannot be understood is passed over, and told.
-/

import SeedVault.Pattern
import SeedVault.Text.Blank
import SeedVault.Text.Cut

namespace SeedVault.Log

/-- How much is written. -/
inductive Level
  | off
  | error
  | warn
  | info
  | debug
  | trace
deriving DecidableEq

namespace Level

def all : List Level :=
  [off, error, warn, info, debug, trace]

def name : Level → String
  | off => "off"
  | error => "error"
  | warn => "warn"
  | info => "info"
  | debug => "debug"
  | trace => "trace"

/-- The level with the given name, in letters of either case. -/
def ofText? (text : String) : Option Level :=
  all.find? fun level => level.name.toList = text.toList.map Char.toLower

end Level

/-- Why a part of a filter is passed over. -/
inductive FilterProblem
  | badDirective (directive : String)
  | manySlashes (filter : String)
  | badPattern (pattern : String) (cause : Pattern.Refusal)
deriving DecidableEq

def FilterProblem.message : FilterProblem → String
  | badDirective directive => s!"invalid logging spec '{directive}'"
  | manySlashes filter => s!"invalid logging spec '{filter}' (too many '/'s)"
  | badPattern pattern cause => s!"invalid regex filter - {cause.report pattern}"

namespace Filter

/-- The problem of a directive. Without an equals sign every text is the name of a part
or of a level, and with one the level may be missing. -/
def directiveProblem? (directive : String) : Option FilterProblem :=
  match Text.parts '=' directive with
  | (_, []) => none
  | (_, [written]) =>
    let level := Text.trim written
    if level = "" ∨ (Level.ofText? level).isSome then none else some (.badDirective level)
  | _ => some (.badDirective directive)

/-- The problems of a list of directives. -/
def directiveProblems (directives : String) : List FilterProblem :=
  let (first, others) := Text.parts ',' directives
  (first :: others).filterMap fun directive => directiveProblem? (Text.trim directive)

/-- The problem of a pattern. -/
def patternProblem? (pattern : String) : Option FilterProblem :=
  (Pattern.refusal? pattern).map (.badPattern pattern)

/-- The problems of a filter, in the order of its parts. A filter with more than one slash
is passed over as a whole. -/
def problems (filter : String) : List FilterProblem :=
  match Text.parts '/' filter with
  | (directives, []) => directiveProblems directives
  | (directives, [pattern]) => directiveProblems directives ++ (patternProblem? pattern).toList
  | _ => [.manySlashes filter]

end Filter

end SeedVault.Log
