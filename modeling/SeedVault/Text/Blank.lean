/-
White space: trimming a text and splitting it into words.
-/

namespace SeedVault.Text

/-- The characters with the Unicode property White_Space. -/
def isBlank (char : Char) : Bool :=
  let code := char.toNat
  (0x09 ≤ code && code ≤ 0x0d) || code == 0x20 || code == 0x85 || code == 0xa0 ||
    code == 0x1680 || (0x2000 ≤ code && code ≤ 0x200a) || code == 0x2028 || code == 0x2029 ||
    code == 0x202f || code == 0x205f || code == 0x3000

/-- Puts a character in front of the first word. -/
def extendFirst (char : Char) : List (List Char) → List (List Char)
  | [] => [[char]]
  | word :: words => (char :: word) :: words

/-- The maximal stretches without white space. -/
def splitBlank : List Char → List (List Char)
  | [] => []
  | char :: rest =>
    if isBlank char then splitBlank rest
    else if rest.head?.all isBlank then [char] :: splitBlank rest
    else extendFirst char (splitBlank rest)

def words (text : String) : List String :=
  (splitBlank text.toList).map String.ofList

def trimChars (chars : List Char) : List Char :=
  ((chars.dropWhile isBlank).reverse.dropWhile isBlank).reverse

/-- The text without white space at either end. -/
def trim (text : String) : String :=
  String.ofList (trimChars text.toList)

end SeedVault.Text
