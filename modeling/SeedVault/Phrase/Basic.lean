/-
Recovery phrases: twelve words that spell 128 bits of entropy and a checksum of
four bits, eleven bits a word.
-/

import SeedVault.Hash.Sha2
import SeedVault.Phrase.Wordlist
import SeedVault.Text.Blank

namespace SeedVault

/-- A recovery phrase is determined by the entropy it encodes. -/
structure Phrase where
  entropy : Bytes 16
deriving DecidableEq

/-- Why something is not a recovery phrase. -/
inductive PhraseError
  | entropySize (found : Nat)
  | wordCount (found : Nat)
  | unknownWord (place : Nat)
  | checksum
deriving DecidableEq

namespace PhraseError

def message : PhraseError → String
  | entropySize found => s!"expected 16 bytes of entropy, got {found}"
  | wordCount found => s!"expected 12 words, got {found}"
  | unknownWord place => s!"word {place} is not in the wordlist"
  | checksum => "the mnemonic has an invalid checksum"

end PhraseError

namespace Phrase

/-- The top four bits of the hash of the entropy. -/
def checksum (entropy : Bytes 16) : Nat :=
  (sha256 entropy.toList)[0].toNat / 16

/-- The 132 bits that the words spell. -/
def number (phrase : Phrase) : Nat :=
  phrase.entropy.toNat * 16 + checksum phrase.entropy

/-- The bits of the word at a place, the first word having the highest ones. -/
def index (phrase : Phrase) (place : Fin 12) : Fin 2048 :=
  Fin.ofNat 2048 (phrase.number >>> (11 * (11 - place.val)))

def word (phrase : Phrase) (place : Fin 12) : String :=
  Wordlist.word (phrase.index place)

def words (phrase : Phrase) : List String :=
  (List.finRange 12).map phrase.word

def text (phrase : Phrase) : String :=
  " ".intercalate phrase.words

/-- The phrase for 16 bytes of entropy. -/
def ofEntropy (entropy : List UInt8) : Except PhraseError Phrase :=
  match Bytes.ofList? entropy with
  | some bytes => .ok ⟨bytes⟩
  | none => .error (.entropySize entropy.length)

/-- The number that a list of words spells in base 2048. -/
def numberOf (indices : List (Fin 2048)) : Nat :=
  indices.foldl (fun number index => number * 2048 + index.val) 0

/-- The phrase that a text spells whose words are all in the list. -/
def ofKnownWords (text : String) : Except PhraseError Phrase :=
  let number := numberOf ((Text.words text).filterMap Wordlist.index?)
  let entropy := Bytes.ofNat 16 (number / 16)
  if checksum entropy = number % 16 then .ok ⟨entropy⟩ else .error .checksum

/-- The phrase with the given words. The count is checked first, then each word
in turn, and the checksum last, on the words joined to a text. -/
def ofWords (words : List String) : Except PhraseError Phrase :=
  if words.length ≠ 12 then .error (.wordCount words.length)
  else
    match words.findIdx? (fun word => (Wordlist.index? word).isNone) with
    | some place => .error (.unknownWord (place + 1))
    | none => ofKnownWords (" ".intercalate words)

/-- The phrase in a text, its words separated by any white space. -/
def ofText (text : String) : Except PhraseError Phrase :=
  ofWords (Text.words text)

end Phrase

end SeedVault
