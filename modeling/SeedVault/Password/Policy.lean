/-
The hard rules for a new vault password: a minimum length, and a confirmation
that equals it. All else about a password only gives warnings.
-/

import SeedVault.Password.Strength

namespace SeedVault

/-- Why a new password is refused. -/
inductive PasswordError
  | tooShort (least found : Nat)
  | mismatch
deriving DecidableEq

def PasswordError.message : PasswordError → String
  | tooShort least found =>
    s!"Password too weak: must be at least {least} characters (got {found})"
  | mismatch => "Passwords do not match"

namespace Password

/-- No policy made by `Policy.ofMinLength` asks for fewer characters. -/
def leastLength : Nat := 8

/-- The rule for new passwords. -/
structure Policy where
  minLength : Nat := leastLength
deriving DecidableEq

namespace Policy

/-- The policy with a minimum length, raised to the least one. -/
def ofMinLength (minLength : Nat) : Policy :=
  ⟨max minLength leastLength⟩

def checkLength (policy : Policy) (password : String) : Except PasswordError Unit :=
  if password.length < policy.minLength then
    .error (.tooShort policy.minLength password.length)
  else .ok ()

/-- Checks a new password and its confirmation. -/
def check (policy : Policy) (password confirmation : String) : Except PasswordError Analysis :=
  match policy.checkLength password with
  | .error cause => .error cause
  | .ok () => if password = confirmation then .ok (analyse password) else .error .mismatch

end Policy

end Password

end SeedVault
