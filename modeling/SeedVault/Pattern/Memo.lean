/-
What is already known of a key. Each key has a place, and of the keys with the same place
only the last one is remembered.
-/

import Std.Data.HashMap

namespace SeedVault.Pattern

structure Memo where
  places : Nat
  entries : Std.HashMap Nat (List Nat × Nat)

namespace Memo

def empty (places : Nat) : Memo :=
  ⟨places, ∅⟩

/-- A number that depends on all parts of a key. -/
def digest (key : List Nat) : UInt64 :=
  key.foldl (fun digest part => (digest ^^^ part.toUInt64) * 1099511628211) 14695981039346656037

def place (memo : Memo) (key : List Nat) : Nat :=
  (digest key).toNat % memo.places

def find? (memo : Memo) (key : List Nat) : Option Nat :=
  match memo.entries[memo.place key]? with
  | some (found, value) => if found = key then some value else none
  | none => none

def insert (memo : Memo) (key : List Nat) (value : Nat) : Memo :=
  { memo with entries := memo.entries.insert (memo.place key) (key, value) }

end Memo

end SeedVault.Pattern
