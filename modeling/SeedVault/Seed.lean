/-
Wallet seeds, and the three ways in which a text may denote one.
-/

import SeedVault.Hash.Hmac
import SeedVault.Hex
import SeedVault.Phrase.Basic
import SeedVault.Random.Entropy

namespace SeedVault

/-- A wallet seed of 32 bytes. -/
structure Seed where
  bytes : Bytes 32
deriving DecidableEq

/-- Why a text that is no phrase does not denote a seed. -/
inductive SeedTextError
  | empty
  | notHex
  | badDigit (fault : Hex.Fault)
deriving DecidableEq

/-- Why there is no seed. -/
inductive SeedError
  | phrase (cause : PhraseError)
  | text (cause : SeedTextError)
  | randomness
deriving DecidableEq

namespace SeedTextError

def detail : SeedTextError → String
  | empty => "input is empty"
  | notHex => "expected 64 hex characters"
  | badDigit fault => fault.detail

end SeedTextError

/-- What a failed draw of random bytes is reported as. -/
def randomnessMessage : String :=
  "Secure random number generator unavailable: entropy exhausted"

namespace SeedError

def message : SeedError → String
  | phrase cause => s!"Invalid mnemonic: {cause.message}"
  | text cause => s!"Invalid seed: {cause.detail}"
  | randomness => randomnessMessage

end SeedError

/-- A new phrase. -/
def Phrase.generate {m : Type → Type} [Monad m] [Entropy m] : ExceptT SeedError m Phrase :=
  Phrase.mk <$> Entropy.drawOr .randomness 16

namespace Seed

/-- Whether two seeds are the same, decided without stopping at a difference. -/
def same (left right : Seed) : Bool :=
  left.bytes.same right.bytes

/-- Whether a text is 64 hexadecimal digits. -/
def isHex (text : String) : Bool :=
  let codes := Text.utf8 text
  codes.length == 64 && codes.all Hex.isDigit

/-- The seed that 64 hexadecimal digits denote. -/
def ofHex (text : String) : Except SeedError Seed :=
  if isHex text then
    match Hex.decode 32 text with
    | .ok bytes => .ok ⟨bytes⟩
    | .error fault => .error (.text (.badDigit fault))
  else .error (.text .notHex)

def toHex (seed : Seed) : String :=
  Hex.encode seed.bytes.toList

/-- Stretches a phrase: the seed is the first half of the stretched key. -/
def ofPhrase (phrase : Phrase) : Seed where
  bytes :=
    let key := stretchSha512 (Text.utf8 phrase.text) (Text.utf8 "mnemonic") 2048
    Vector.ofFn fun index => key[index.val]

/-- The seed of a text that is taken as it stands. -/
def ofText (text : String) : Seed where
  bytes := sha256 (Text.utf8 text)

/-- Whether a text has two or more words, whatever they are. -/
def isPhraseShaped (text : String) : Bool :=
  2 ≤ (Text.words text).length

/-- The seed that a text typed by the user denotes: 64 digits are the seed
itself, two or more words must be a phrase, and any other word is hashed. -/
def resolve (input : String) : Except SeedError Seed :=
  let text := Text.trim input
  if text.isEmpty then .error (.text .empty)
  else if isHex text then ofHex text
  else if isPhraseShaped text then
    match Phrase.ofText text with
    | .ok phrase => .ok (ofPhrase phrase)
    | .error cause => .error (.phrase cause)
  else .ok (ofText text)

/-- What a log may show of a seed. -/
def redacted (_ : Seed) : String :=
  "Seed(..)"

end Seed

end SeedVault
