import SecurityKey.Bytes
import SecurityKey.Error

/-!
# Wire types and tags

Every field of an object starts with a tag, a varint that holds the field's
number and the wire type of its value.  The wire type alone decides how many
bytes the value takes, so a reader can pass over a field that it does not know.

Four wire types are in use.  The codes of groups and the reserved codes are
refused: `WireType.ofCode_code` and `WireType.code_of_ofCode` say that a code is
accepted exactly when it is the code of a wire type.
-/

set_option autoImplicit false

namespace SecurityKey

/-- How the value of a field lies on the wire. -/
inductive WireType where
  | varint
  | fixed64
  | lengthDelimited
  | fixed32
  deriving DecidableEq, Repr

namespace WireType

/-- The number of a wire type in a tag. -/
def code : WireType → Nat
  | .varint => 0
  | .fixed64 => 1
  | .lengthDelimited => 2
  | .fixed32 => 5

/-- The wire type with a given number. -/
def ofCode : Nat → Except Error WireType
  | 0 => .ok .varint
  | 1 => .ok .fixed64
  | 2 => .ok .lengthDelimited
  | 5 => .ok .fixed32
  | _ => .error (.encoding .unknownWireType)

/-- The tag of field `id` with this wire type. -/
def tag (wire : WireType) (id : UInt32) : Nat := id.toNat * 8 + wire.code

theorem ofCode_code (wire : WireType) : ofCode wire.code = .ok wire := by
  cases wire <;> rfl

theorem code_of_ofCode {number : Nat} {wire : WireType} (accepted : ofCode number = .ok wire) :
    wire.code = number := by
  unfold ofCode at accepted
  split at accepted <;> cases accepted <;> rfl

theorem code_lt (wire : WireType) : wire.code < 8 := by
  cases wire <;> decide

end WireType

/-! ## What a read accepts -/

namespace Expectation

/-- The wire types in which an expected value may arrive.  Integers come in three
widths, everything else in one form. -/
def admits : Expectation → WireType → Bool
  | .unsignedInteger, wire | .integer, wire => wire != .lengthDelimited
  | .boolean, wire | .enumeration, wire => wire == .varint
  | .string, wire | .binary, wire | .object, wire => wire == .lengthDelimited

/-- Refuses a wire type in which the expected value cannot arrive. -/
def require (expectation : Expectation) (wire : WireType) : Except Error Unit :=
  if expectation.admits wire then
    .ok ()
  else
    .error (.schema (.unexpectedWireType expectation wire.code))

end Expectation

/-- The number of containers that may be open at once, in a writer and in a reader. -/
def maximumDepth : Nat := 100

/-- The refusal of a container that would exceed `maximumDepth`. -/
def tooDeep : Error := .schema (.maximumDepth maximumDepth)

end SecurityKey
