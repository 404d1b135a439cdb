/-
The backup check: before a new phrase is sealed, some of its words are asked
back.
-/

import SeedVault.Random.ChaCha
import SeedVault.Random.Sample
import SeedVault.Seed
import SeedVault.Text.LowerCase

namespace SeedVault

/-- The places of the words that are asked back, in ascending order. -/
structure Challenge where
  places : List (Fin 12)
  ascending : places.Pairwise (· < ·)
deriving DecidableEq

namespace Challenge

/-- The challenge for the given places; repeated ones count once, and those
beyond the phrase are dropped. -/
def ofPlaces (places : List Nat) : Challenge where
  places := (List.finRange 12).filter fun place => place.val ∈ places
  ascending := (List.pairwise_lt_finRange 12).filter _

/-- How many words a challenge asks for if `count` are wanted. -/
def clampCount (count : Nat) : Nat :=
  min (max count 1) 12

/-- A challenge drawn from a stream of random words. -/
def ofStream (count : Nat) (stream : Nat → UInt32) : Challenge :=
  ofPlaces (Sample.distinct 12 (clampCount count) stream)

/-- The challenge that a key of random bytes selects. -/
def ofKey (count : Nat) (key : Bytes 32) : Challenge :=
  ofStream count (ChaCha.stream key)

/-- A new challenge. -/
def random {m : Type → Type} [Monad m] [Entropy m] (count : Nat) : ExceptT SeedError m Challenge :=
  ofKey count <$> Entropy.drawOr .randomness 32

/-- The form in which answers are compared. -/
def normalForm (answer : String) : String :=
  Text.lower (Text.trim answer)

/-- Whether the answers are the words asked for, one per place and in order. -/
def verify (challenge : Challenge) (phrase : Phrase) (answers : List String) : Bool :=
  answers.map normalForm == challenge.places.map phrase.word

/-- What a log may show of a challenge. -/
def described (challenge : Challenge) : String :=
  let places := ", ".intercalate (challenge.places.map fun place => toString place.val)
  s!"BackupChallenge \x7b positions: [{places}] \x7d"

end Challenge

end SeedVault
