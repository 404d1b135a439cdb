/-
Lower case, as far as a comparison with an ASCII text can tell.
-/

namespace SeedVault.Text

/-- The characters that a character becomes in lower case. Besides the ASCII
capitals only the Kelvin sign and the dotted capital I become something with an
ASCII letter in it; all others are left alone, because whatever they become
occurs in no ASCII text. -/
def lowerChar (char : Char) : List Char :=
  if char = '\u212a' then ['k']
  else if char = '\u0130' then ['i', '\u0307']
  else [char.toLower]

def lower (text : String) : String :=
  String.ofList (text.toList.flatMap lowerChar)

end SeedVault.Text
