/-
The written form of a vault: a JSON object with a text of hexadecimal digits for
each field.
-/

import SeedVault.Hex
import SeedVault.Vault.Basic

namespace SeedVault.Vault

/-- The names of the fields that the vault has, with their digits. -/
def members (vault : Vault) : List (String × String) :=
  [ (Field.ciphertext.name, Hex.encode vault.ciphertext.toList),
    (Field.salt.name, Hex.encode vault.salt.toList),
    (Field.iv.name, Hex.encode vault.iv.toList) ] ++
  (vault.mac.map fun mac => (Field.mac.name, Hex.encode mac.toList)).toList

/-- The form without white space. -/
def compactText (vault : Vault) : String :=
  "\x7b" ++ ",".intercalate (vault.members.map fun (name, digits) =>
    "\"" ++ name ++ "\":\"" ++ digits ++ "\"") ++ "\x7d"

/-- The form with one field a line. -/
def prettyText (vault : Vault) : String :=
  "\x7b\n" ++ ",\n".intercalate (vault.members.map fun (name, digits) =>
    "  \"" ++ name ++ "\": \"" ++ digits ++ "\"") ++ "\n\x7d"

end SeedVault.Vault
