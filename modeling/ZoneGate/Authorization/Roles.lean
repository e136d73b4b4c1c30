import ZoneGate.Py.Str

/-!
# Who works where

Roles are compared without their `ROLE_` prefix, surrounding whitespace and letter case.
-/

namespace ZoneGate

open Py

variable [Unicode]

/-- `role_cargo_operator ` and `CARGO_OPERATOR` are the same job. -/
def normalizeRole (role : Option String) : String :=
  removePrefix "ROLE_" (upper (strip (role.getD "")))

/-- The roles that work in the field; everyone else belongs on the console. -/
def fieldRoles : List String := ["CARGO_OPERATOR"]

/-- Cargo personnel use the mobile app and never the console. -/
def isFieldRole (role : Option String) : Bool := normalizeRole role ∈ fieldRoles

/-- Whether someone in `role` may settle a hold that requires `requiredAuthority`.  A hold that
names no authority cannot be settled by anyone. -/
def holdsAuthority (role requiredAuthority : Option String) : Bool :=
  match requiredAuthority with
  | none => false
  | some authority =>
      if authority = "" then false else normalizeRole role = normalizeRole (some authority)

end ZoneGate
