/-
Addresses in JSON.
-/

import SeedVault.Account
import SeedVault.Json.Expected

namespace SeedVault.Address

/-- Why a JSON text is not an address. -/
inductive JsonError
  | json (problem : Json.Problem)
  | address (cause : AddressError)
deriving DecidableEq

def JsonError.message : JsonError → String
  | json problem => problem.message
  | address cause => cause.message

/-- Reads an address from a JSON text; what follows it is looked at last. -/
def ofJson (text : String) : Except JsonError Address := do
  let (written, rest) ← (Json.readString text.toList).mapError .json
  let address ← (parse written).mapError .address
  (Json.atEnd rest).mapError .json
  return address

/-- The JSON form. An address has no characters that need an escape. -/
def toJson (address : Address) : String :=
  "\"" ++ address.text ++ "\""

end SeedVault.Address
