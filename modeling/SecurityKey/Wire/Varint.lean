import SecurityKey.Bytes
import SecurityKey.Error

/-!
# Varints

An unsigned number travels as a varint: groups of seven bits, least significant
group first, with the top bit of a byte set when another group follows.

Reading is strict.  The value must fit the width that the reader asks for, and a
last group of zeros is refused, so every value has exactly one accepted form.
A refused varint consumes nothing, because `Varint.decode` returns the rest of
its source only on success.

`Varint.decode_length_lt` says that a varint takes at least one byte, which is
what ends every loop that reads values one after the other.
-/

set_option autoImplicit false

namespace SecurityKey

namespace Varint

/-! ## Writing -/

/-- The varint form of a number. -/
def encode (value : Nat) : Bytes :=
  if value < 128 then
    [UInt8.ofNat value]
  else
    UInt8.ofNat (value % 128 + 128) :: encode (value / 128)

/-- The number of bytes that `encode` writes: one for every seven bits begun. -/
def encodedLength (value : Nat) : Nat :=
  (Nat.log2 (value ||| 1) + 7) / 7

/-! ## Reading -/

/-- The refusal of a varint that does not fit `bits` bits.  The true value is not
known at that point, so the first value past the limit stands in for it, which
for 64 bits is the limit itself. -/
def overflow (bits : Nat) : Error :=
  .schema (.smallerInteger (min (2 ^ bits) (2 ^ 64 - 1)) (2 ^ bits - 1))

/-- Reads the remaining groups of a varint, of which `shift` bits with the value
`value` have been read. -/
def decodeFrom (bits shift value : Nat) : Bytes → Except Error (Nat × Bytes)
  | [] => .error (.encoding .varintEnd)
  | byte :: rest =>
      let group := byte.toNat % 128
      if bits ≤ shift then
        .error (.encoding .varintTooLong)
      else if 2 ^ (bits - shift) ≤ group then
        .error (overflow bits)
      else if byte = 0 ∧ shift ≠ 0 then
        .error (.encoding .varintZeroGroup)
      else if byte < 128 then
        .ok (value + group * 2 ^ shift, rest)
      else
        decodeFrom bits (shift + 7) (value + group * 2 ^ shift) rest

/-- Reads a varint of at most `bits` bits from the front of `source`. -/
def decode (bits : Nat) (source : Bytes) : Except Error (Nat × Bytes) :=
  decodeFrom bits 0 0 source

/-! ## Varints take bytes -/

theorem decodeFrom_length_lt {bits shift value number : Nat} {source rest : Bytes}
    (decoded : decodeFrom bits shift value source = .ok (number, rest)) :
    rest.length < source.length := by
  induction source generalizing shift value with
  | nil => simp [decodeFrom] at decoded
  | cons byte tail hypothesis =>
      simp only [decodeFrom] at decoded
      split at decoded
      · cases decoded
      · split at decoded
        · cases decoded
        · split at decoded
          · cases decoded
          · split at decoded
            · cases decoded
              simp
            · have shorter := hypothesis decoded
              simp only [List.length_cons]
              omega

/-- A varint that is read takes at least one byte. -/
theorem decode_length_lt {bits number : Nat} {source rest : Bytes}
    (decoded : decode bits source = .ok (number, rest)) : rest.length < source.length :=
  decodeFrom_length_lt decoded

end Varint

end SecurityKey
