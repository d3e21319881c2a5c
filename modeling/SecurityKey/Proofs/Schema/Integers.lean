import SecurityKey.Proofs.Schema.Places

/-!
# Integers on the wire

An integer comes in one of three wire types: as a varint, in eight bytes or in four.  A negative
number is sent in two's complement, of 64 bits in a varint and of as many as there are bytes
otherwise (`Sends`).  What a field makes of a number of 64 bits does not depend on the wire type
that it comes in: it is the number, or the one refusal of a number that is too small or too large
for the field (`IntegerKind.receive`), and the bytes that are taken are those of the number
(`IntegerKind.decode_alike`).

Four bytes are read as a number of 32 bits and then extended, by zeros or by the sign, and only
what is left after that is narrowed to the width of the field.  So the main step is that
reading any of the three forms gives the same number of 64 bits (`reads_unsigned_of_sends`,
`reads_integer_of_sends`).
-/

set_option autoImplicit false

namespace SecurityKey

/-! ## Numbers in bytes -/

namespace Bytes

/-- The `width` low bytes of a number, least significant byte first. -/
def ofLittleEndian : (width : Nat) → Nat → Bytes
  | 0, _ => []
  | width + 1, value => UInt8.ofNat value :: ofLittleEndian width (value / 256)

@[simp] theorem length_ofLittleEndian (width value : Nat) :
    (ofLittleEndian width value).length = width := by
  induction width generalizing value with
  | zero => rfl
  | succ width hypothesis => rw [ofLittleEndian, List.length_cons, hypothesis]

theorem littleEndian_ofLittleEndian {width value : Nat} (fits : value < 256 ^ width) :
    littleEndian (ofLittleEndian width value) = value := by
  induction width generalizing value with
  | zero =>
      rw [Nat.pow_zero] at fits
      exact (Nat.lt_one_iff.mp fits).symm
  | succ width hypothesis =>
      have rest : value / 256 < 256 ^ width :=
        Nat.div_lt_of_lt_mul (by rwa [Nat.pow_succ'] at fits)
      rw [ofLittleEndian, littleEndian, hypothesis rest, UInt8.toNat_ofNat']
      exact Nat.mod_add_div value 256

end Bytes

/-- The least number that can be told in so many bits. -/
def leastInteger (signed : Bool) (bits : Nat) : Int :=
  if signed then -2 ^ (bits - 1) else 0

/-- The greatest number that can be told in so many bits. -/
def greatestInteger (signed : Bool) (bits : Nat) : Int :=
  if signed then 2 ^ (bits - 1) - 1 else 2 ^ bits - 1

/-- Whether a number can be told in so many bits. -/
def FitsBits (signed : Bool) (bits : Nat) (value : Int) : Prop :=
  leastInteger signed bits ≤ value ∧ value ≤ greatestInteger signed bits

instance (signed : Bool) (bits : Nat) (value : Int) : Decidable (FitsBits signed bits value) :=
  inferInstanceAs (Decidable (_ ∧ _))

/-- The bits of a number as a number that is not negative: its two's complement. -/
def residue (bits : Nat) (value : Int) : Nat := (value % (2 ^ bits : Nat)).toNat

theorem residue_lt (bits : Nat) (value : Int) : residue bits value < 2 ^ bits := by
  have positive : (0 : Int) < (2 ^ bits : Nat) := Int.natCast_pos.mpr (Nat.two_pow_pos bits)
  have below := Int.emod_lt_of_pos value positive
  have least := Int.emod_nonneg value (Int.ne_of_gt positive)
  rw [residue]
  omega

theorem ofNat_residue (bits : Nat) (value : Int) :
    BitVec.ofNat bits (residue bits value) = BitVec.ofInt bits value := by
  refine BitVec.eq_of_toNat_eq ?_
  rw [BitVec.toNat_ofNat, BitVec.toNat_ofInt, Nat.mod_eq_of_lt (residue_lt bits value), residue]

/-- A number that is not negative is its own complement. -/
theorem residue_of_fits {bits : Nat} {value : Int} (fits : FitsBits false bits value) :
    residue bits value = value.toNat := by
  obtain ⟨least, greatest⟩ := fits
  have above : 0 ≤ value := least
  have below : value ≤ 2 ^ bits - 1 := greatest
  have power : ((2 ^ bits : Nat) : Int) = 2 ^ bits := Int.natCast_pow 2 bits
  rw [residue, Int.emod_eq_of_lt above (by omega)]

/-- The forms in which a number is sent. -/
inductive Sends (signed : Bool) (value : Int) : WireType → Bytes → Prop where
  | varint : Sends signed value .varint (Varint.encode (residue 64 value))
  | fixed64 : Sends signed value .fixed64 (Bytes.ofLittleEndian 8 (residue 64 value))
  | fixed32 (fits : FitsBits signed 32 value) :
      Sends signed value .fixed32 (Bytes.ofLittleEndian 4 (residue 32 value))

section Forms

variable {signed : Bool} {value : Int} {wire : WireType} {payload : Bytes}

theorem Sends.scalar (sent : Sends signed value wire payload) : wire ≠ .lengthDelimited := by
  cases sent with
  | varint | fixed64 | fixed32 => nofun

theorem reads_fixed {width number : Nat} (fits : number < 256 ^ width) :
    (Scan.fixed width).Reads (Bytes.ofLittleEndian width number) (.ok number) := by
  have taken := (Scan.reads_take (Bytes.ofLittleEndian width number) .shortFixed).map
    Bytes.littleEndian
  rw [Bytes.length_ofLittleEndian] at taken
  change Scan.Reads _ _ (.ok (Bytes.ofLittleEndian width number).littleEndian) at taken
  rwa [Bytes.littleEndian_ofLittleEndian fits] at taken

/-- A number that is not negative, read in any form. -/
theorem reads_unsigned_of_sends (wide : FitsBits false 64 value)
    (sent : Sends false value wire payload) :
    (Scan.unsigned wire).Reads payload (.ok (UInt64.ofNat value.toNat)) := by
  cases sent with
  | varint =>
      rw [← residue_of_fits wide]
      exact (Scan.reads_varint (by decide) (residue_lt 64 value)).map UInt64.ofNat
  | fixed64 =>
      rw [← residue_of_fits wide]
      exact (reads_fixed (residue_lt 64 value)).map UInt64.ofNat
  | fixed32 fits =>
      rw [← residue_of_fits fits]
      exact (reads_fixed (residue_lt 32 value)).map UInt64.ofNat

/-- A number with a sign, read in any form. -/
theorem reads_integer_of_sends (sent : Sends true value wire payload) :
    (Scan.integer wire).Reads payload (.ok (Int64.ofInt value)) := by
  have whole : Int64.ofBitVec (BitVec.ofNat 64 (residue 64 value)) = Int64.ofInt value := by
    rw [ofNat_residue, Int64.ofBitVec_ofInt]
  cases sent with
  | varint =>
      rw [← whole]
      exact (Scan.reads_varint (by decide) (residue_lt 64 value)).map _
  | fixed64 =>
      rw [← whole]
      exact (reads_fixed (residue_lt 64 value)).map _
  | fixed32 fits =>
      have extended : (Int32.ofBitVec (BitVec.ofNat 32 (residue 32 value))).toInt64 =
          Int64.ofInt value := by
        rw [ofNat_residue, Int32.ofBitVec_ofInt]
        exact Int32.toInt64_ofInt fits.1 fits.2
      rw [← extended]
      exact (reads_fixed (residue_lt 32 value)).map _

end Forms

/-! ## Fields -/

/-- The fields that hold an integer. -/
inductive IntegerKind where
  | u32
  | u64
  | i32
  | i64

namespace IntegerKind

/-- The shape of such a field. -/
def shape : IntegerKind → Shape
  | .u32 => .u32
  | .u64 => .u64
  | .i32 => .i32
  | .i64 => .i64

/-- Whether the numbers have a sign. -/
def signed : IntegerKind → Bool
  | .u32 | .u64 => false
  | .i32 | .i64 => true

/-- The bits that a field has room for. -/
def bits : IntegerKind → Nat
  | .u32 | .i32 => 32
  | .u64 | .i64 => 64

/-- The value of a field that is a number. -/
def ofInt : (kind : IntegerKind) → Int → kind.shape.Value
  | .u32, value => UInt32.ofNat value.toNat
  | .u64, value => UInt64.ofNat value.toNat
  | .i32, value => Int32.ofInt value
  | .i64, value => Int64.ofInt value

/-- The number that the value of a field is. -/
def toInt : (kind : IntegerKind) → kind.shape.Value → Int
  | .u32, (value : UInt32) => value.toNat
  | .u64, (value : UInt64) => value.toNat
  | .i32, (value : Int32) => value.toInt
  | .i64, (value : Int64) => value.toInt

/-- What a field makes of a number: the number, or the refusal of one that is too small or too
large for the field. -/
def receive (kind : IntegerKind) (value : Int) : Except Error kind.shape.Value :=
  if value < leastInteger kind.signed kind.bits then
    .error (.schema (.largerInteger value (leastInteger kind.signed kind.bits)))
  else if greatestInteger kind.signed kind.bits < value then
    .error (.schema
      (.smallerInteger value.toNat (greatestInteger kind.signed kind.bits).toNat))
  else
    .ok (kind.ofInt value)

section Receive

variable (kind : IntegerKind) {value : Int}

theorem receive_of_fits (fits : FitsBits kind.signed kind.bits value) :
    kind.receive value = .ok (kind.ofInt value) := by
  rw [receive, if_neg (Int.not_lt.mpr fits.1), if_neg (Int.not_lt.mpr fits.2)]

theorem receive_of_less (less : value < leastInteger kind.signed kind.bits) :
    kind.receive value =
      .error (.schema (.largerInteger value (leastInteger kind.signed kind.bits))) :=
  if_pos less

theorem receive_of_greater (least : leastInteger kind.signed kind.bits ≤ value)
    (greater : greatestInteger kind.signed kind.bits < value) :
    kind.receive value = .error (.schema
      (.smallerInteger value.toNat (greatestInteger kind.signed kind.bits).toNat)) := by
  rw [receive, if_neg (Int.not_lt.mpr least), if_pos greater]

/-- A number that a field has room for is kept. -/
theorem toInt_ofInt (fits : FitsBits kind.signed kind.bits value) :
    kind.toInt (kind.ofInt value) = value := by
  obtain ⟨least, greatest⟩ := fits
  cases kind with
  | u32 =>
      have above : 0 ≤ value := least
      have below : value ≤ 2 ^ 32 - 1 := greatest
      have kept : (UInt32.ofNat value.toNat).toNat = value.toNat :=
        UInt32.toNat_ofNat_of_lt' (show value.toNat < 2 ^ 32 by omega)
      exact (congrArg Int.ofNat kept).trans (Int.toNat_of_nonneg least)
  | u64 =>
      have above : 0 ≤ value := least
      have below : value ≤ 2 ^ 64 - 1 := greatest
      have kept : (UInt64.ofNat value.toNat).toNat = value.toNat :=
        UInt64.toNat_ofNat_of_lt' (show value.toNat < 2 ^ 64 by omega)
      exact (congrArg Int.ofNat kept).trans (Int.toNat_of_nonneg least)
  | i32 => exact Int32.toInt_ofInt_of_le least (Int.lt_of_le_sub_one greatest)
  | i64 => exact Int64.toInt_ofInt_of_le least (Int.lt_of_le_sub_one greatest)

theorem ofInt_toInt : (kind : IntegerKind) → (number : kind.shape.Value) →
    kind.ofInt (kind.toInt number) = number
  | .u32, (_ : UInt32) => UInt32.ofNat_toNat
  | .u64, (_ : UInt64) => UInt64.ofNat_toNat
  | .i32, (number : Int32) => Int32.ofInt_toInt number
  | .i64, (number : Int64) => Int64.ofInt_toInt number

theorem receive_eq_ok_iff {number : kind.shape.Value} :
    kind.receive value = .ok number ↔
      FitsBits kind.signed kind.bits value ∧ kind.toInt number = value := by
  constructor
  · intro received
    rw [receive] at received
    split at received
    · cases received
    · rename_i least
      split at received
      · cases received
      · rename_i greatest
        cases received
        have fits : FitsBits kind.signed kind.bits value :=
          ⟨Int.not_lt.mp least, Int.not_lt.mp greatest⟩
        exact ⟨fits, toInt_ofInt kind fits⟩
  · rintro ⟨fits, rfl⟩
    rw [receive_of_fits kind fits, ofInt_toInt]

end Receive
end IntegerKind

/-! ## Narrowing -/

theorem narrowUnsigned_ofNat {value : Int} (wide : FitsBits false 64 value) :
    narrowUnsigned (UInt64.ofNat value.toNat) = IntegerKind.u32.receive value := by
  have above : 0 ≤ value := wide.1
  have below : value ≤ 2 ^ 64 - 1 := wide.2
  have kept : (UInt64.ofNat value.toNat).toNat = value.toNat :=
    UInt64.toNat_ofNat_of_lt' (show value.toNat < 2 ^ 64 by omega)
  rw [narrowUnsigned, kept]
  by_cases small : value ≤ 2 ^ 32 - 1
  · rw [if_pos (by omega), UInt64.toUInt32_ofNat']
    exact (IntegerKind.receive_of_fits .u32 ⟨above, small⟩).symm
  · rw [if_neg (by omega)]
    exact (IntegerKind.receive_of_greater .u32 above (Int.not_le.mp small)).symm

theorem narrowSigned_ofInt {value : Int} (wide : FitsBits true 64 value) :
    narrowSigned (Int64.ofInt value) = IntegerKind.i32.receive value := by
  have kept : (Int64.ofInt value).toInt = value := IntegerKind.toInt_ofInt .i64 wide
  rw [narrowSigned, kept]
  by_cases less : value < -2 ^ 31
  · rw [if_pos less]
    exact (IntegerKind.receive_of_less .i32 less).symm
  · rw [if_neg less]
    by_cases greater : 2 ^ 31 ≤ value
    · rw [if_pos greater]
      exact (IntegerKind.receive_of_greater .i32 (Int.not_lt.mp less)
        (Int.sub_one_lt_of_le greater)).symm
    · rw [if_neg greater, Int64.toInt32_ofInt]
      exact (IntegerKind.receive_of_fits .i32
        ⟨Int.not_lt.mp less, Int.le_sub_one_of_lt (Int.not_le.mp greater)⟩).symm

/-! ## What a field makes of a number -/

namespace IntegerKind

/-- One occurrence of a field, in any form, is read as what the field makes of the number. -/
theorem reads_receive (nested : Option NestedDecoder) (kind : IntegerKind) {value : Int}
    (wide : FitsBits kind.signed 64 value) {wire : WireType} {payload : Bytes}
    (sent : Sends kind.signed value wire payload) (storage : kind.shape.Value) :
    (kind.shape.decode nested wire storage).Reads payload (kind.receive value) := by
  have scalar : (wire != .lengthDelimited) = true := bne_iff_ne.mpr sent.scalar
  have unsigned : Expectation.unsignedInteger.require wire = .ok () :=
    Expectation.require_eq_ok_iff.mpr scalar
  have signed : Expectation.integer.require wire = .ok () :=
    Expectation.require_eq_ok_iff.mpr scalar
  cases kind with
  | u32 =>
      have read := reads_unsigned_of_sends wide sent
      rw [← List.append_nil payload]
      refine Scan.Reads.after_lift (read.bind ?_) unsigned
      rw [narrowUnsigned_ofNat wide]
      exact Scan.reads_lift _
  | u64 =>
      have read := reads_unsigned_of_sends wide sent
      rw [receive_of_fits .u64 wide]
      refine Scan.Reads.after_lift ?_ unsigned
      exact read
  | i32 =>
      have read := reads_integer_of_sends sent
      rw [← List.append_nil payload]
      refine Scan.Reads.after_lift (read.bind ?_) signed
      rw [narrowSigned_ofInt wide]
      exact Scan.reads_lift _
  | i64 =>
      have read := reads_integer_of_sends sent
      rw [receive_of_fits .i64 wide]
      refine Scan.Reads.after_lift ?_ signed
      exact read

/-- **Integers do not depend on their wire type.**  Whatever number of 64 bits is sent to a field,
and in whatever form, the field makes the same of it: the number when there is room for it, and
otherwise one and the same refusal.  Just the bytes of the number are taken, also when it is
refused, so an object goes on with the bytes behind them or ends with the refusal. -/
theorem decode_alike (kind : IntegerKind) (value : Int) (wide : FitsBits kind.signed 64 value) :
    (∀ number : kind.shape.Value, kind.receive value = .ok number ↔
      FitsBits kind.signed kind.bits value ∧ kind.toInt number = value) ∧
    ∀ (wire : WireType) (payload : Bytes), Sends kind.signed value wire payload →
      (∀ (nested : Option NestedDecoder) (storage : kind.shape.Value),
        (kind.shape.decode nested wire storage).Reads payload (kind.receive value)) ∧
      ∀ (nested : Option NestedDecoder) (schema : Schema) (id : UInt32)
        (place : schema.Place id kind.shape) (draft : schema.Draft) (rest : Bytes),
        id.toNat < 2 ^ 29 →
          schema.decodeFields nested draft (Varint.encode (wire.tag id) ++ payload ++ rest) =
            kind.receive value >>= fun number =>
              schema.decodeFields nested (place.set (number, true) draft) rest := by
  refine ⟨fun number => receive_eq_ok_iff kind, fun wire payload sent => ⟨?_, ?_⟩⟩
  · intro nested storage
    exact reads_receive nested kind wide sent storage
  · intro nested schema id place draft rest small
    have read := (reads_receive nested kind wide sent (place.get draft).1).map
      fun number => place.set (number, true) draft
    rw [← Schema.decodeOccurrence_place wire place draft] at read
    rw [decodeFields_occurrence small read.settles, map_eq_pure_bind]
    cases kind.receive value with
    | error error => rfl
    | ok number => rfl

/-- The number before zero, which a signed field of 32 bits has room for, and the number behind
the greatest one of 32 bits, which it refuses. -/
theorem decode_alike_of_borders :
    (IntegerKind.i32.shape.decode none .varint (0 : Int32)).Reads
        [255, 255, 255, 255, 255, 255, 255, 255, 255, 1] (.ok (-1 : Int32)) ∧
      (IntegerKind.i32.shape.decode none .fixed32 (0 : Int32)).Reads [255, 255, 255, 255]
        (.ok (-1 : Int32)) ∧
      (IntegerKind.i32.shape.decode none .varint (0 : Int32)).Reads [128, 128, 128, 128, 8]
        (.error (.schema (.smallerInteger 2147483648 2147483647))) ∧
      (IntegerKind.i32.shape.decode none .fixed64 (0 : Int32)).Reads [0, 0, 0, 128, 0, 0, 0, 0]
        (.error (.schema (.smallerInteger 2147483648 2147483647))) := by
  obtain ⟨_, kept⟩ := decode_alike .i32 (-1) (by decide)
  obtain ⟨_, refused⟩ := decode_alike .i32 2147483648 (by decide)
  have varint : Varint.encode (residue 64 (-1)) =
      [255, 255, 255, 255, 255, 255, 255, 255, 255, 1] := by decide +kernel
  have fixed32 : Bytes.ofLittleEndian 4 (residue 32 (-1)) = [255, 255, 255, 255] := by
    decide +kernel
  have largeVarint : Varint.encode (residue 64 2147483648) = [128, 128, 128, 128, 8] := by
    decide +kernel
  have largeFixed64 : Bytes.ofLittleEndian 8 (residue 64 2147483648) =
      [0, 0, 0, 128, 0, 0, 0, 0] := by decide +kernel
  refine ⟨?_, ?_, ?_, ?_⟩
  · rw [← varint]
    exact (kept _ _ .varint).1 none (0 : Int32)
  · rw [← fixed32]
    exact (kept _ _ (.fixed32 (by decide))).1 none (0 : Int32)
  · rw [← largeVarint]
    exact (refused _ _ .varint).1 none (0 : Int32)
  · rw [← largeFixed64]
    exact (refused _ _ .fixed64).1 none (0 : Int32)

end IntegerKind
end SecurityKey
