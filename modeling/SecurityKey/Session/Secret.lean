import SecurityKey.Bytes
import SecurityKey.Error

/-!
# Derived secrets

The two derivation schemes and the secrets that they give.  A secret may be cut to one of
a few lengths; it is never shown, only its length is.
-/

set_option autoImplicit false

namespace SecurityKey

/-- A derivation scheme. -/
inductive Mode where
  /-- The device signs an identity. -/
  | legacy
  /-- The device shares a session key with the owner of a peer key. -/
  | modern
  deriving DecidableEq, Repr

namespace Mode

/-- The scheme that a flag asks for. -/
def ofLegacyFlag (flag : Bool) : Mode := if flag then .legacy else .modern

/-- The name of a scheme. -/
def name : Mode → String
  | .legacy => "Legacy"
  | .modern => "Modern"

/-- The length of the secret that a scheme gives, in bytes. -/
def secretLength : Mode → Nat
  | .legacy => 64
  | .modern => 32

end Mode

/-- A secret that a device has derived. -/
structure DerivedSecret where
  bytes : Bytes
  deriving DecidableEq, Repr

namespace DerivedSecret

/-- The lengths that a secret may be cut to, in bytes. -/
def lengths : List Nat := [16, 24, 32, 64]

/-- The first `length` bytes of a secret, when it has that many and the length is one of
those allowed. -/
def truncate (length : Nat) (secret : DerivedSecret) : Except Error DerivedSecret :=
  if length ∈ lengths ∧ length ≤ secret.bytes.length then
    .ok ⟨secret.bytes.take length⟩
  else
    .error (.argument (.secretLength length secret.bytes.length))

/-- A secret is shown by its length only. -/
def describe (secret : DerivedSecret) : String :=
  "DerivedSecret(" ++ toString secret.bytes.length ++ " bytes)"

end DerivedSecret

end SecurityKey
