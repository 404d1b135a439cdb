/-
Addresses and keys of an account. The public key is a hash of the seed, and the
address spells the public key.
-/

import SeedVault.Seed

namespace SeedVault

/-- An account address. Two spellings of one public key are one address. -/
structure Address where
  publicKey : Bytes 32
deriving DecidableEq

/-- Why a text is no address. -/
inductive AddressError
  | missingMark
  | size (found : Nat)
  | notHex
deriving DecidableEq

namespace AddressError

def detail : AddressError → String
  | missingMark => "missing \"k:\" prefix"
  | size found => s!"expected 64 hex characters after the prefix, got {found}"
  | notHex => "public key part is not hex"

def message (error : AddressError) : String :=
  s!"Invalid address: {error.detail}"

end AddressError

namespace Address

/-- The public key in hexadecimal. -/
def digits (address : Address) : String :=
  Hex.encode address.publicKey.toList

/-- The written form: the mark `k:` and 64 lower-case digits. -/
def text (address : Address) : String :=
  s!"k:{address.digits}"

/-- Reads an address, with digits of either case. -/
def parse (text : String) : Except AddressError Address :=
  match text.toList with
  | 'k' :: ':' :: rest =>
    let digits := String.ofList rest
    match Hex.decode 32 digits with
    | .ok publicKey => .ok ⟨publicKey⟩
    | .error (.length found) => .error (.size found)
    | .error (.digit _ _) => .error .notHex
  | _ => .error .missingMark

/-- What a log may show of an address. -/
def described (address : Address) : String :=
  s!"Address(\"{address.text}\")"

end Address

/-- The keys of an account. -/
structure KeyPair where
  publicKey : Bytes 32
  /-- The seed followed by the public key. -/
  privateKey : Bytes 64
  address : Address
deriving DecidableEq

namespace KeyPair

/-- The keys of the account with the given seed. -/
def derive (seed : Seed) : KeyPair :=
  let publicKey := sha256 (seed.bytes.toList ++ [1])
  ⟨publicKey, seed.bytes ++ publicKey, ⟨publicKey⟩⟩

/-- Whether two key pairs are the same. The private keys are compared without
stopping at a difference. -/
def same (left right : KeyPair) : Bool :=
  left.publicKey == right.publicKey && left.privateKey.same right.privateKey &&
    left.address == right.address

def publicKeyText (keys : KeyPair) : String :=
  Hex.encode keys.publicKey.toList

def privateKeyText (keys : KeyPair) : String :=
  Hex.encode keys.privateKey.toList

/-- What a log may show of the keys. -/
def redacted (keys : KeyPair) : String :=
  s!"KeyPair \x7b public_key: \"{keys.publicKeyText}\", private_key: \"..\", " ++
    s!"address: {keys.address.described} \x7d"

end KeyPair

end SeedVault
