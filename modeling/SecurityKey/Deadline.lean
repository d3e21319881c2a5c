import SecurityKey.Error

/-!
# Deadlines

Work that takes time may have a limit, in milliseconds.  It is cut off exactly when it
takes longer than the limit: work that ends at the limit is in time.  No limit means to
wait as long as it takes.
-/

set_option autoImplicit false

namespace SecurityKey

/-- How long something may take in milliseconds, if there is a limit. -/
abbrev Deadline := Option Nat

namespace Deadline

/-- Whether work that takes `delay` milliseconds ends in time. -/
def allows (deadline : Deadline) (delay : Nat) : Bool :=
  match deadline with
  | none => true
  | some limit => delay ≤ limit

/-- What is left of a deadline after `delay` milliseconds. -/
def after (deadline : Deadline) (delay : Nat) : Deadline := deadline.map (· - delay)

/-- The outcome of work that takes `delay` milliseconds. -/
def within {α : Type} (deadline : Deadline) (delay : Nat) (outcome : Except Error α) :
    Except Error α :=
  if deadline.allows delay then outcome else .error .timeout

end Deadline

end SecurityKey
