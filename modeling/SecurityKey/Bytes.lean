/-!
# Byte strings

Everything that crosses the link to a key is a byte string.  A byte string is a
list of bytes, read from the front, so that a reader is a function to what it
took and what is left.

Text is carried as UTF-8.  `Bytes.text?` gives back exactly the byte strings
that `Bytes.ofText` produces: `Bytes.text?_ofText` and `Bytes.ofText_of_text?`
are the two directions.  Fixed-width numbers are big-endian in report headers
and little-endian in fixed wire values.
-/

set_option autoImplicit false

-- A power is the one that the numbers come with, also where one from a monoid is at hand, so
-- that a width means the same in the program and in what is proved about it.
attribute [instance (1100), default_instance 20000] instPowNat

namespace SecurityKey

/-- A byte string, first byte first. -/
abbrev Bytes := List UInt8

namespace Bytes

/-! ## Text -/

/-- The UTF-8 encoding of a text. -/
def ofText (text : String) : Bytes := text.toUTF8.data.toList

/-- The text that a byte string encodes, when it is valid UTF-8. -/
def text? (bytes : Bytes) : Option String := String.fromUTF8? ⟨bytes.toArray⟩

/-- Decoding an encoded text gives the text back. -/
theorem text?_ofText (text : String) : text? (ofText text) = some text := by
  have same : (⟨(ofText text).toArray⟩ : ByteArray) = text.toUTF8 := by
    simp [ofText]
  have valid : text.toUTF8.IsValidUTF8 := text.isValidUTF8
  rw [text?, same]
  simp only [String.fromUTF8?, valid, ↓reduceDIte]
  rfl

/-- A byte string that decodes is the encoding of what it decodes to. -/
theorem ofText_of_text? {bytes : Bytes} {text : String} (decoded : text? bytes = some text) :
    ofText text = bytes := by
  simp only [text?, String.fromUTF8?] at decoded
  split at decoded
  · cases decoded
    simp [ofText, String.fromUTF8, String.toUTF8]
  · cases decoded

/-! ## Fixed-width numbers -/

/-- The number that a byte string spells, most significant byte first. -/
def bigEndian (bytes : Bytes) : Nat :=
  bytes.foldl (fun value byte => value * 256 + byte.toNat) 0

/-- The number that a byte string spells, least significant byte first. -/
def littleEndian : Bytes → Nat
  | [] => 0
  | byte :: rest => byte.toNat + 256 * littleEndian rest

/-- The `width` low bytes of a number, most significant byte first. -/
def ofBigEndian : (width : Nat) → Nat → Bytes
  | 0, _ => []
  | width + 1, value => UInt8.ofNat (value / 256 ^ width) :: ofBigEndian width value

@[simp] theorem length_ofBigEndian (width value : Nat) :
    (ofBigEndian width value).length = width := by
  induction width with
  | zero => rfl
  | succ width hypothesis => simp [ofBigEndian, hypothesis]

theorem foldl_bigEndian_eq (bytes : Bytes) (start : Nat) :
    bytes.foldl (fun value byte => value * 256 + byte.toNat) start =
      start * 256 ^ bytes.length + bigEndian bytes := by
  induction bytes generalizing start with
  | nil => simp [bigEndian]
  | cons byte rest hypothesis =>
      rw [bigEndian, List.foldl_cons, List.foldl_cons, hypothesis, hypothesis (0 * 256 + _),
        List.length_cons, Nat.pow_succ', ← Nat.mul_assoc, Nat.zero_mul, Nat.zero_add,
        Nat.add_mul, Nat.add_assoc]

theorem bigEndian_cons (byte : UInt8) (rest : Bytes) :
    bigEndian (byte :: rest) = byte.toNat * 256 ^ rest.length + bigEndian rest := by
  rw [bigEndian, List.foldl_cons, foldl_bigEndian_eq, Nat.zero_mul, Nat.zero_add]

theorem foldl_bigEndian_lt (bytes : Bytes) (start : Nat) :
    bytes.foldl (fun value byte => value * 256 + byte.toNat) start <
      (start + 1) * 256 ^ bytes.length := by
  induction bytes generalizing start with
  | nil => simp
  | cons byte rest hypothesis =>
      have small := byte.toNat_lt
      calc (byte :: rest).foldl (fun value byte => value * 256 + byte.toNat) start
          < (start * 256 + byte.toNat + 1) * 256 ^ rest.length := hypothesis _
        _ ≤ ((start + 1) * 256) * 256 ^ rest.length := Nat.mul_le_mul_right _ (by omega)
        _ = (start + 1) * 256 ^ (rest.length + 1) := by
              rw [Nat.mul_assoc, Nat.pow_succ, Nat.mul_comm 256]

/-- A byte string spells a number that its width has room for. -/
theorem bigEndian_lt (bytes : Bytes) : bigEndian bytes < 256 ^ bytes.length := by
  have bound := foldl_bigEndian_lt bytes 0
  rwa [Nat.zero_add, Nat.one_mul] at bound

/-! ## Padding -/

/-- A byte string cut or filled with zero bytes on the right to `size` bytes. -/
def fit (size : Nat) (bytes : Bytes) : Bytes :=
  bytes.take size ++ List.replicate (size - bytes.length) 0

@[simp] theorem length_fit (size : Nat) (bytes : Bytes) : (fit size bytes).length = size := by
  simp [fit]
  omega

end Bytes

/-! ## Blobs of a fixed size -/

/-- A byte string of exactly `size` bytes. -/
structure FixedBytes (size : Nat) where
  bytes : Bytes
  length_bytes : bytes.length = size

namespace FixedBytes

variable {size : Nat}

@[ext] theorem ext {first second : FixedBytes size} (same : first.bytes = second.bytes) :
    first = second := by
  cases first
  cases second
  cases same
  rfl

/-- The blob of zero bytes. -/
def zero (size : Nat) : FixedBytes size := ⟨List.replicate size 0, by simp⟩

/-- The blob that holds `bytes`, cut or filled with zero bytes on the right. -/
def ofBytes (size : Nat) (bytes : Bytes) : FixedBytes size := ⟨bytes.fit size, by simp⟩

/-- Bytes of the right size are kept as they are. -/
@[simp] theorem ofBytes_bytes (blob : FixedBytes size) : ofBytes size blob.bytes = blob := by
  obtain ⟨bytes, rfl⟩ := blob
  simp [ofBytes, Bytes.fit]

end FixedBytes

end SecurityKey
