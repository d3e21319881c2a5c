import SecurityKey.Wire.Kind
import SecurityKey.Wire.Varint

/-!
# Reading from the front of a body

A `Scan` reads from the front of a byte string, the body of one container, and
leaves the rest.  A scan that fails also says what it left: a length prefix that
promises too many bytes has been consumed when the failure is noticed, whereas a
broken varint consumes nothing.

The scans here are the primitives of the wire format.  The object reader and
the field model are both built from them, so that a value which is passed over
and a value which is read take the same bytes.

`Scan.Shrinks` and `Scan.Narrows` say that a successful scan leaves less, or no
more, than it found.
-/

set_option autoImplicit false

namespace SecurityKey

/-- A reader of the front of a byte string. -/
abbrev Scan := EStateM Error Bytes

namespace Scan

variable {α β : Type}

/-! ## How much a scan takes -/

/-- A scan that takes at least one byte whenever it succeeds. -/
def Shrinks (scan : Scan α) : Prop :=
  ∀ (source rest : Bytes) (value : α), scan source = .ok value rest → rest.length < source.length

/-- A scan that never leaves more than it found when it succeeds. -/
def Narrows (scan : Scan α) : Prop :=
  ∀ (source rest : Bytes) (value : α), scan source = .ok value rest → rest.length ≤ source.length

theorem Shrinks.narrows {scan : Scan α} (shrinks : scan.Shrinks) : scan.Narrows :=
  fun source rest value run => Nat.le_of_lt (shrinks source rest value run)

theorem narrows_pure (value : α) : Narrows (pure value : Scan α) := by
  intro source rest result run
  cases run
  exact Nat.le_refl _

theorem narrows_throw (error : Error) : Narrows (throw error : Scan α) := by
  intro source rest result run
  cases run

theorem Narrows.bind {scan : Scan α} {next : α → Scan β} (first : scan.Narrows)
    (second : ∀ value, (next value).Narrows) : Narrows (scan >>= next) := by
  intro source rest result run
  change EStateM.bind scan next source = _ at run
  unfold EStateM.bind at run
  split at run
  · next value middle ran => exact Nat.le_trans (second value _ _ _ run) (first _ _ _ ran)
  · cases run

theorem Narrows.map {scan : Scan α} (function : α → β) (narrows : scan.Narrows) :
    Narrows (function <$> scan) := by
  intro source rest result run
  change EStateM.map function scan source = _ at run
  unfold EStateM.map at run
  split at run
  · next value middle ran =>
      cases run
      exact narrows _ _ _ ran
  · cases run

theorem Shrinks.bind {scan : Scan α} {next : α → Scan β} (first : scan.Shrinks)
    (second : ∀ value, (next value).Narrows) : Shrinks (scan >>= next) := by
  intro source rest result run
  change EStateM.bind scan next source = _ at run
  unfold EStateM.bind at run
  split at run
  · next value middle ran => exact Nat.lt_of_le_of_lt (second value _ _ _ run) (first _ _ _ ran)
  · cases run

/-! ## Steps that take nothing -/

/-- A result that was computed without reading. -/
def lift (result : Except Error α) : Scan α :=
  match result with
  | .ok value => pure value
  | .error error => throw error

theorem narrows_lift (result : Except Error α) : Narrows (lift result) := by
  cases result with
  | ok value => exact narrows_pure value
  | error error => exact narrows_throw error

/-! ## Varints and runs of bytes -/

/-- Takes a varint of at most `bits` bits. -/
def varint (bits : Nat) : Scan Nat := fun source =>
  match Varint.decode bits source with
  | .ok (value, rest) => .ok value rest
  | .error error => .error error source

/-- Takes exactly `count` bytes. -/
def take (count : Nat) (short : EncodingFault) : Scan Bytes := fun source =>
  if count ≤ source.length then
    .ok (source.take count) (source.drop count)
  else
    .error (.encoding short) source

theorem shrinks_varint (bits : Nat) : Shrinks (varint bits) := by
  intro source rest value run
  unfold varint at run
  split at run
  · next decoded =>
      cases run
      exact Varint.decode_length_lt decoded
  · cases run

theorem narrows_take (count : Nat) (short : EncodingFault) : Narrows (take count short) := by
  intro source rest value run
  unfold take at run
  split at run
  · cases run
    simp
  · cases run

/-- Takes a length prefix and the body that it announces. -/
def delimited : Scan Bytes := do
  let length ← varint 64
  take length .shortBytes

/-- Takes a number of a fixed width in bytes. -/
def fixed (width : Nat) : Scan Nat :=
  Bytes.littleEndian <$> take width .shortFixed

theorem narrows_delimited : Narrows delimited :=
  (shrinks_varint 64).narrows.bind fun length => narrows_take length .shortBytes

theorem narrows_fixed (width : Nat) : Narrows (fixed width) :=
  (narrows_take width .shortFixed).map _

/-! ## Fields -/

/-- Takes a tag: the number of a field and the wire type of its value. -/
def tag : Scan (UInt32 × WireType) := do
  let tag ← varint 32
  let wire ← lift (WireType.ofCode (tag % 8))
  pure (UInt32.ofNat (tag / 8), wire)

/-- Passes over a value of the given wire type. -/
def skip : WireType → Scan Unit
  | .varint => discard (varint 64)
  | .fixed64 => discard (take 8 .shortFixed)
  | .lengthDelimited => discard delimited
  | .fixed32 => discard (take 4 .shortFixed)

theorem shrinks_tag : Shrinks tag :=
  (shrinks_varint 32).bind fun _ => (narrows_lift _).bind fun _ => narrows_pure _

theorem narrows_skip (wire : WireType) : Narrows (skip wire) := by
  cases wire
  · exact (shrinks_varint 64).narrows.map _
  · exact (narrows_take 8 .shortFixed).map _
  · exact narrows_delimited.map _
  · exact (narrows_take 4 .shortFixed).map _

/-! ## Values -/

/-- Takes an unsigned integer in any of the three integer wire types. -/
def unsigned : WireType → Scan UInt64
  | .fixed32 => UInt64.ofNat <$> fixed 4
  | .fixed64 => UInt64.ofNat <$> fixed 8
  | _ => UInt64.ofNat <$> varint 64

/-- Takes a signed integer.  A 32-bit value is sign-extended, and a varint holds
the 64-bit two's complement. -/
def integer : WireType → Scan Int64
  | .fixed32 => (fun value => (Int32.ofBitVec (BitVec.ofNat 32 value)).toInt64) <$> fixed 4
  | .fixed64 => (fun value => Int64.ofBitVec (BitVec.ofNat 64 value)) <$> fixed 8
  | _ => (fun value => Int64.ofBitVec (BitVec.ofNat 64 value)) <$> varint 64

/-- Takes a boolean, a varint that must be 0 or 1. -/
def boolean : Scan Bool := do
  match ← varint 64 with
  | 0 => pure false
  | 1 => pure true
  | value => throw (.schema (.smallerInteger value 1))

/-- Takes a text, a length-delimited body that must be valid UTF-8. -/
def text : Scan String := do
  match (← delimited).text? with
  | some text => pure text
  | none => throw (.encoding .invalidText)

/-- Takes a blob, a length-delimited body that must have exactly `size` bytes. -/
def fixedBytes (size : Nat) : Scan (FixedBytes size) := do
  let body ← delimited
  if exact : body.length = size then
    pure ⟨body, exact⟩
  else
    throw (.schema (.fixedBinary size body.length))

/-- Takes the ordinal of an enumeration. -/
def ordinal : Scan UInt64 := UInt64.ofNat <$> varint 64

theorem narrows_unsigned (wire : WireType) : Narrows (unsigned wire) := by
  cases wire
  · exact (shrinks_varint 64).narrows.map _
  · exact (narrows_fixed 8).map _
  · exact (shrinks_varint 64).narrows.map _
  · exact (narrows_fixed 4).map _

theorem narrows_integer (wire : WireType) : Narrows (integer wire) := by
  cases wire
  · exact (shrinks_varint 64).narrows.map _
  · exact (narrows_fixed 8).map _
  · exact (shrinks_varint 64).narrows.map _
  · exact (narrows_fixed 4).map _

theorem narrows_boolean : Narrows boolean := by
  refine (shrinks_varint 64).narrows.bind fun value => ?_
  split
  · exact narrows_pure _
  · exact narrows_pure _
  · exact narrows_throw _

theorem narrows_text : Narrows text := by
  refine narrows_delimited.bind fun body => ?_
  split
  · exact narrows_pure _
  · exact narrows_throw _

theorem narrows_fixedBytes (size : Nat) : Narrows (fixedBytes size) := by
  refine narrows_delimited.bind fun body => ?_
  split
  · exact narrows_pure _
  · exact narrows_throw _

theorem narrows_ordinal : Narrows ordinal :=
  (shrinks_varint 64).narrows.map _

end Scan

end SecurityKey
