/-
Writing a vault as a part of a larger text: its fields become the texts of a
record, and the record is written like any other object.
-/

import SeedVault.Json.Quote
import SeedVault.Vault.Record

namespace SeedVault.Vault

/-- The members that are written for a record: none for a tag that it does not have. -/
def Record.members (record : Record) : List (String × String) :=
  [ (Field.ciphertext.name, record.ciphertext),
    (Field.salt.name, record.salt),
    (Field.iv.name, record.iv) ] ++
  (record.mac.map fun mac => (Field.mac.name, mac)).toList

/-- The written form of a record, without white space. -/
def Record.text (record : Record) : String :=
  "\x7b" ++ ",".intercalate (record.members.map fun (name, value) =>
    Json.quote name ++ ":" ++ Json.quote value) ++ "\x7d"

/-- The texts of the fields as they are written. -/
def record (vault : Vault) : Record where
  ciphertext := Hex.encode vault.ciphertext.toList
  salt := Hex.encode vault.salt.toList
  iv := Hex.encode vault.iv.toList
  mac := vault.mac.map fun mac => Hex.encode mac.toList

/-- The written form of a vault as a part of a larger text. -/
def embeddedText (vault : Vault) : String :=
  vault.record.text

end SeedVault.Vault
