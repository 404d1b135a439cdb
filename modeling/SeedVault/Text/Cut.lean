/-
Cutting a text at a character.
-/

namespace SeedVault.Text

/-- Cuts a text at every separator: the part before the first one, and the others. -/
def cut (separator : Char) : List Char → List Char × List (List Char)
  | [] => ([], [])
  | char :: rest =>
    let (part, parts) := cut separator rest
    if char = separator then ([], part :: parts) else (char :: part, parts)

/-- The parts of a text between the separators, of which there is at least one. -/
def parts (separator : Char) (text : String) : String × List String :=
  let (part, others) := cut separator text.toList
  (String.ofList part, others.map String.ofList)

end SeedVault.Text
