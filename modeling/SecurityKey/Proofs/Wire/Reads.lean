import Mathlib.Tactic.Ring
import SecurityKey.Proofs.Steps
import SecurityKey.Wire.Cursor
import SecurityKey.Wire.Writer

/-!
# Reading what was written

A scan reads some bytes with a result when, whatever comes behind these bytes, it takes just
them and comes to that result (`Scan.Reads`).  The scans of the wire format read what the
writer makes of a value: a varint (`reads_varint`), a tag (`reads_tag`), a body behind its
length (`reads_delimited`), and the values that are made of these.

A varint is read back group by group (`Varint.decodeFrom_encode`): the groups that have been
read are the value so far, and the checks of the reader hold for a value within the bits that
are left.  Nothing else is read as this value (`Varint.decode_eq_ok_iff`).

A scan that may also fail over some bytes is settled by them when what comes behind cannot
change its result (`Scan.Settles`).  What it left when it failed is then of no interest.
-/

set_option autoImplicit false

namespace SecurityKey

/-! ## Varints -/

namespace Varint

theorem decodeFrom_encode {bits : Nat} (value shift start : Nat) (rest : Bytes)
    (room : shift < bits) (fits : value < 2 ^ (bits - shift))
    (further : shift ≠ 0 → value ≠ 0) :
    decodeFrom bits shift start (encode value ++ rest) =
      .ok (start + value * 2 ^ shift, rest) := by
  fun_induction encode value generalizing shift start with
  | case1 value last =>
      have byte : (UInt8.ofNat value).toNat = value := by
        rw [UInt8.toNat_ofNat']
        omega
      have filled : ¬(UInt8.ofNat value = 0 ∧ shift ≠ 0) := by
        rintro ⟨zero, later⟩
        have none := congrArg UInt8.toNat zero
        rw [byte] at none
        exact further later none
      have small : UInt8.ofNat value < 128 := by
        rw [UInt8.lt_iff_toNat_lt, byte]
        exact last
      simp only [List.cons_append, List.nil_append, decodeFrom, byte, Nat.mod_eq_of_lt last,
        if_neg (Nat.not_le.mpr room), if_neg (Nat.not_le.mpr fits), if_neg filled, if_pos small]
  | case2 value more hypothesis =>
      have byte : (UInt8.ofNat (value % 128 + 128)).toNat = value % 128 + 128 := by
        rw [UInt8.toNat_ofNat']
        omega
      have group : (value % 128 + 128) % 128 = value % 128 := by omega
      have filled : ¬(UInt8.ofNat (value % 128 + 128) = 0 ∧ shift ≠ 0) := by
        rintro ⟨zero, _⟩
        have none := congrArg UInt8.toNat zero
        rw [byte] at none
        exact absurd none (by simp)
      have large : ¬UInt8.ofNat (value % 128 + 128) < 128 := by
        rw [UInt8.lt_iff_toNat_lt, byte]
        simp
      have fitting : ¬2 ^ (bits - shift) ≤ value % 128 := by
        have whole := Nat.mod_le value 128
        omega
      -- A value that needs another group leaves at least eight bits of room.
      have wide : 7 < bits - shift := by
        rcases Nat.lt_or_ge 7 (bits - shift) with wide | narrow
        · exact wide
        · have bound : 2 ^ (bits - shift) ≤ 2 ^ 7 := Nat.pow_le_pow_right (by decide) narrow
          omega
      have split : 2 ^ (bits - shift) = 2 ^ (bits - (shift + 7)) * 128 := by
        rw [show bits - shift = bits - (shift + 7) + 7 by omega, Nat.pow_add]
      have next := hypothesis (shift + 7) (start + value % 128 * 2 ^ shift) (by omega)
        (by rw [Nat.div_lt_iff_lt_mul (by decide)]; omega) (by omega)
      simp only [List.cons_append, decodeFrom, byte, group, if_neg (Nat.not_le.mpr room),
        if_neg fitting, if_neg filled, if_neg large, next, Except.ok.injEq, Prod.mk.injEq,
        and_true]
      calc start + value % 128 * 2 ^ shift + value / 128 * 2 ^ (shift + 7)
          = start + (value % 128 + 128 * (value / 128)) * 2 ^ shift := by
            rw [Nat.pow_add]
            ring
        _ = start + value * 2 ^ shift := by rw [Nat.mod_add_div]

/-- A number that fits is read back, whatever comes behind it. -/
theorem decode_encode {bits value : Nat} (positive : 0 < bits) (fits : value < 2 ^ bits)
    (rest : Bytes) : decode bits (encode value ++ rest) = .ok (value, rest) := by
  have read := decodeFrom_encode value 0 0 rest positive fits (fun moved => absurd rfl moved)
  rw [decode, read, Nat.zero_add, Nat.pow_zero, Nat.mul_one]

theorem source_of_decodeFrom {bits shift start number : Nat} {source rest : Bytes}
    (decoded : decodeFrom bits shift start source = .ok (number, rest)) :
    ∃ value, number = start + value * 2 ^ shift ∧ value < 2 ^ (bits - shift) ∧
      (shift ≠ 0 → value ≠ 0) ∧ source = encode value ++ rest := by
  induction source generalizing shift start with
  | nil => cases decoded
  | cons byte tail hypothesis =>
      simp only [decodeFrom] at decoded
      split at decoded
      · cases decoded
      split at decoded
      · cases decoded
      rename_i _ fitting
      split at decoded
      · cases decoded
      rename_i filled
      split at decoded
      · rename_i small
        cases decoded
        have last : byte.toNat < 128 := UInt8.lt_iff_toNat_lt.mp small
        rw [Nat.mod_eq_of_lt last] at fitting ⊢
        refine ⟨byte.toNat, rfl, by omega, ?_, ?_⟩
        · intro moved zero
          exact filled ⟨UInt8.toNat_inj.mp zero, moved⟩
        · rw [encode, if_pos last, UInt8.ofNat_toNat]
          rfl
      · rename_i large
        have more : 128 ≤ byte.toNat := by
          rw [UInt8.lt_iff_toNat_lt] at large
          exact Nat.not_lt.mp large
        have bound := byte.toNat_lt
        obtain ⟨value, rfl, fits, further, rfl⟩ := hypothesis decoded
        have positive := further (by omega)
        -- A further group that is not zero needs at least one bit of its own.
        have room : bits - shift = bits - (shift + 7) + 7 := by
          rcases Nat.eq_zero_or_pos (bits - (shift + 7)) with none | some
          · rw [none, Nat.pow_zero] at fits
            omega
          · omega
        refine ⟨byte.toNat % 128 + value * 128, ?_, ?_, by omega, ?_⟩
        · rw [Nat.pow_add]
          ring
        · rw [room, Nat.pow_add]
          omega
        · have group : (byte.toNat % 128 + value * 128) % 128 + 128 = byte.toNat := by omega
          have others : (byte.toNat % 128 + value * 128) / 128 = value := by omega
          rw [encode.eq_def (byte.toNat % 128 + value * 128), if_neg (by omega), group, others,
            UInt8.ofNat_toNat]
          rfl

/-- A varint is read exactly where a number that fits was written. -/
theorem decode_eq_ok_iff {bits value : Nat} (positive : 0 < bits) {source rest : Bytes} :
    decode bits source = .ok (value, rest) ↔
      value < 2 ^ bits ∧ source = encode value ++ rest := by
  constructor
  · intro decoded
    obtain ⟨number, same, fits, _, source⟩ := source_of_decodeFrom decoded
    rw [Nat.zero_add, Nat.pow_zero, Nat.mul_one] at same
    subst same
    exact ⟨fits, source⟩
  · rintro ⟨fits, rfl⟩
    exact decode_encode positive fits rest

/-- A number that does not fit is refused, when its last group begins within the width.  There
are `more` groups behind the first one. -/
theorem decodeFrom_encode_of_large {bits shift : Nat} (value start more : Nat) (rest : Bytes)
    (room : shift + 7 * more < bits) (last : bits ≤ shift + 7 * more + 7)
    (groups : value < 2 ^ (7 * more + 7)) (large : 2 ^ (bits - shift) ≤ value) :
    decodeFrom bits shift start (encode value ++ rest) = .error (overflow bits) := by
  induction more generalizing value shift start with
  | zero =>
      have single : value < 128 := groups
      have byte : (UInt8.ofNat value).toNat % 128 = value := by
        rw [UInt8.toNat_ofNat']
        omega
      have within : ¬bits ≤ shift := Nat.not_le.mpr room
      rw [encode, if_pos single]
      simp only [List.cons_append, List.nil_append, decodeFrom, byte, if_neg within, if_pos large]
  | succ more hypothesis =>
      have wide : 2 ^ (bits - shift) = 2 ^ (bits - (shift + 7)) * 128 := by
        rw [show bits - shift = bits - (shift + 7) + 7 by omega, Nat.pow_add]
      have positive : 0 < 2 ^ (bits - (shift + 7)) := Nat.two_pow_pos _
      have split : 2 ^ (7 * (more + 1) + 7) = 2 ^ (7 * more + 7) * 128 := by
        rw [show 7 * (more + 1) + 7 = 7 * more + 7 + 7 by omega, Nat.pow_add]
      have byte : (UInt8.ofNat (value % 128 + 128)).toNat = value % 128 + 128 := by
        rw [UInt8.toNat_ofNat']
        omega
      have group : (value % 128 + 128) % 128 = value % 128 := by omega
      have filled : ¬(UInt8.ofNat (value % 128 + 128) = 0 ∧ shift ≠ 0) := by
        rintro ⟨zero, _⟩
        have none := congrArg UInt8.toNat zero
        rw [byte] at none
        exact absurd none (by simp)
      have further : ¬UInt8.ofNat (value % 128 + 128) < 128 := by
        rw [UInt8.lt_iff_toNat_lt, byte]
        simp
      have next := hypothesis (value / 128) (start + value % 128 * 2 ^ shift)
        (by omega : shift + 7 + 7 * more < bits) (by omega) (by omega) (by omega)
      rw [encode, if_neg (by omega)]
      simp only [List.cons_append, decodeFrom, byte, group,
        if_neg (by omega : ¬bits ≤ shift), if_neg (by omega : ¬2 ^ (bits - shift) ≤ value % 128),
        if_neg filled, if_neg further]
      exact next

/-- A number takes at least one byte. -/
theorem isEmpty_encode_append (value : Nat) (rest : Bytes) :
    (encode value ++ rest).isEmpty = false := by
  rw [encode]
  split
  · rfl
  · rfl

end Varint

/-! ## Scans -/

namespace Scan

variable {α β : Type}

/-- A scan that takes some bytes, no more and no less, and comes to a result. -/
def Reads (scan : Scan α) (bytes : Bytes) (result : Except Error α) : Prop :=
  ∀ rest, scan (bytes ++ rest) = lift result rest

theorem reads_lift (result : Except Error α) : (lift result).Reads [] result :=
  fun _ => rfl

theorem reads_pure (value : α) : Reads (pure value) [] (.ok value) := fun _ => rfl

theorem Reads.map {scan : Scan α} {bytes : Bytes} {result : Except Error α}
    (reads : scan.Reads bytes result) (function : α → β) :
    (function <$> scan).Reads bytes (function <$> result) := by
  intro rest
  change EStateM.map function scan _ = _
  rw [EStateM.map, reads rest]
  cases result with
  | ok value => rfl
  | error error => rfl

theorem Reads.bind_pure {scan : Scan α} {bytes : Bytes} {result : Except Error α}
    (reads : scan.Reads bytes result) (function : α → β) :
    (scan >>= fun value => pure (function value)).Reads bytes (function <$> result) := by
  rw [bind_pure_comp]
  exact reads.map function

/-- A scan that reads some bytes and one that reads those behind them. -/
theorem Reads.bind {scan : Scan α} {next : α → Scan β} {first second : Bytes} {value : α}
    {result : Except Error β} (reads : scan.Reads first (.ok value))
    (others : (next value).Reads second result) :
    (scan >>= next).Reads (first ++ second) result := by
  intro rest
  rw [List.append_assoc, run_bind_of_ok (reads (second ++ rest))]
  exact others rest

/-- A check that passes takes nothing. -/
theorem Reads.after_lift {check : Except Error α} {next : α → Scan β} {bytes : Bytes}
    {value : α} {result : Except Error β} (others : (next value).Reads bytes result)
    (passes : check = .ok value) : (lift check >>= next).Reads bytes result := by
  subst passes
  exact (reads_lift (.ok value)).bind others

/-! ## Settled scans -/

/-- Some bytes settle what a scan comes to: whatever comes behind them, it takes just them and
gives a value, or it fails with an error. -/
def Settles (scan : Scan α) (bytes : Bytes) : Except Error α → Prop
  | .ok value => ∀ rest, scan (bytes ++ rest) = .ok value rest
  | .error error => ∀ rest, ∃ left, scan (bytes ++ rest) = .error error left

theorem Reads.settles {scan : Scan α} {bytes : Bytes} {result : Except Error α}
    (reads : scan.Reads bytes result) : scan.Settles bytes result := by
  cases result with
  | ok value => exact reads
  | error error => exact fun rest => ⟨rest, reads rest⟩

theorem settles_throw (error : Error) (bytes : Bytes) :
    Settles (throw error : Scan α) bytes (.error error) :=
  fun rest => ⟨bytes ++ rest, rfl⟩

theorem Settles.map {scan : Scan α} {bytes : Bytes} {result : Except Error α}
    (settles : scan.Settles bytes result) (function : α → β) :
    (function <$> scan).Settles bytes (function <$> result) := by
  cases result with
  | ok value =>
      intro rest
      change EStateM.map function scan _ = _
      rw [EStateM.map, settles rest]
  | error error =>
      intro rest
      obtain ⟨left, failed⟩ := settles rest
      refine ⟨left, ?_⟩
      change EStateM.map function scan _ = _
      rw [EStateM.map, failed]

theorem Settles.bind_pure {scan : Scan α} {bytes : Bytes} {result : Except Error α}
    (settles : scan.Settles bytes result) (function : α → β) :
    (scan >>= fun value => pure (function value)).Settles bytes (function <$> result) := by
  rw [bind_pure_comp]
  exact settles.map function

/-- What follows on a settled scan without taking anything is settled by the same bytes. -/
theorem Settles.bind {scan : Scan α} {next : α → Scan β} {bytes : Bytes}
    {result : Except Error α} {after : α → Except Error β}
    (settles : scan.Settles bytes result)
    (others : ∀ value, (next value).Settles [] (after value)) :
    (scan >>= next).Settles bytes (result >>= after) := by
  cases result with
  | error error =>
      intro rest
      obtain ⟨left, failed⟩ := settles rest
      exact ⟨left, run_bind_of_error failed next⟩
  | ok value =>
      have continued : ∀ rest, (scan >>= next) (bytes ++ rest) = next value rest :=
        fun rest => run_bind_of_ok (settles rest) next
      have behind := others value
      change Settles _ _ (after value)
      cases last : after value with
      | ok final =>
          rw [last] at behind
          exact fun rest => (continued rest).trans (behind rest)
      | error error =>
          rw [last] at behind
          intro rest
          obtain ⟨left, failed⟩ := behind rest
          exact ⟨left, (continued rest).trans failed⟩

/-- A settled scan that gives a value has taken just the bytes that settle it. -/
theorem Settles.eq_ok {scan : Scan α} {bytes rest left : Bytes} {result : Except Error α}
    {value : α} (settles : scan.Settles bytes result)
    (run : scan (bytes ++ rest) = .ok value left) : result = .ok value ∧ rest = left := by
  cases result with
  | ok found =>
      have same := (settles rest).symm.trans run
      cases same
      exact ⟨rfl, rfl⟩
  | error error =>
      obtain ⟨behind, failed⟩ := settles rest
      cases failed.symm.trans run

/-- A settled scan comes to what it comes to when nothing follows. -/
theorem Settles.outcome_eq {scan : Scan α} {bytes : Bytes} {result : Except Error α}
    (settles : scan.Settles bytes result) : outcome (scan bytes) = result := by
  cases result with
  | ok value =>
      have run := settles []
      rw [List.append_nil] at run
      rw [run]
      rfl
  | error error =>
      obtain ⟨left, run⟩ := settles []
      rw [List.append_nil] at run
      rw [run]
      rfl

/-! ## Numbers, runs and bodies -/

theorem reads_varint {bits value : Nat} (positive : 0 < bits) (fits : value < 2 ^ bits) :
    (varint bits).Reads (Varint.encode value) (.ok value) := by
  intro rest
  rw [varint, Varint.decode_encode positive fits]
  rfl

theorem reads_take (bytes : Bytes) (short : EncodingFault) :
    (take bytes.length short).Reads bytes (.ok bytes) := by
  intro rest
  have enough : bytes.length ≤ (bytes ++ rest).length := by simp
  rw [take, if_pos enough, List.take_left, List.drop_left]
  rfl

/-- A body is read back behind its length. -/
theorem reads_delimited {body : Bytes} (fits : body.length < 2 ^ 64) :
    delimited.Reads (Varint.encode body.length ++ body) (.ok body) :=
  (reads_varint (by decide) fits).bind (reads_take body .shortBytes)

/-- A tag is read back when the number of the field leaves room for the wire type. -/
theorem reads_tag {id : UInt32} (small : id.toNat < 2 ^ 29) (wire : WireType) :
    tag.Reads (Varint.encode (wire.tag id)) (.ok (id, wire)) := by
  have low := wire.code_lt
  have fits : wire.tag id < 2 ^ 32 := by
    rw [WireType.tag]
    omega
  have code : wire.tag id % 8 = wire.code := by
    rw [WireType.tag]
    omega
  have number : wire.tag id / 8 = id.toNat := by
    rw [WireType.tag]
    omega
  rw [← List.append_nil (Varint.encode _), tag]
  refine (reads_varint (by decide) fits).bind ?_
  rw [code, number, UInt32.ofNat_toNat]
  exact Reads.after_lift (reads_pure (id, wire)) wire.ofCode_code

/-- A tag is refused when the number of the field leaves no room for the wire type. -/
theorem tag_of_large {id : UInt32} (large : 2 ^ 29 ≤ id.toNat) (wire : WireType) (rest : Bytes) :
    tag (Varint.encode (wire.tag id) ++ rest) =
      .error (Varint.overflow 32) (Varint.encode (wire.tag id) ++ rest) := by
  have bound := id.toNat_lt
  have low := wire.code_lt
  have refused : Varint.decode 32 (Varint.encode (wire.tag id) ++ rest) =
      .error (Varint.overflow 32) := by
    refine Varint.decodeFrom_encode_of_large _ 0 4 rest (by decide) (by decide) ?_ ?_
    · rw [WireType.tag]
      omega
    · rw [WireType.tag]
      omega
  refine run_bind_of_error ?_ _
  rw [varint, refused]

/-! ## Values -/

theorem reads_unsigned (value : UInt64) :
    (unsigned .varint).Reads (Varint.encode value.toNat) (.ok value) := by
  have read := (reads_varint (by decide) value.toNat_lt).map UInt64.ofNat
  change Reads _ _ (.ok (UInt64.ofNat value.toNat)) at read
  rwa [UInt64.ofNat_toNat] at read

theorem reads_ordinal (value : UInt64) :
    ordinal.Reads (Varint.encode value.toNat) (.ok value) := reads_unsigned value

theorem reads_boolean (value : Bool) :
    boolean.Reads (Varint.encode value.toNat) (.ok value) := by
  have fits : value.toNat < 2 ^ 64 := by cases value <;> decide
  rw [← List.append_nil (Varint.encode _), boolean]
  refine (reads_varint (by decide) fits).bind ?_
  cases value with
  | false => exact reads_pure false
  | true => exact reads_pure true

theorem reads_text {text : String} (fits : (Bytes.ofText text).length < 2 ^ 64) :
    Scan.text.Reads (Varint.encode (Bytes.ofText text).length ++ Bytes.ofText text)
      (.ok text) := by
  rw [← List.append_nil (Varint.encode _ ++ _), Scan.text]
  refine (reads_delimited fits).bind ?_
  rw [Bytes.text?_ofText]
  exact reads_pure text

theorem reads_fixedBytes {size : Nat} {blob : FixedBytes size}
    (fits : blob.bytes.length < 2 ^ 64) :
    (fixedBytes size).Reads (Varint.encode blob.bytes.length ++ blob.bytes) (.ok blob) := by
  rw [← List.append_nil (Varint.encode _ ++ _), fixedBytes]
  refine (reads_delimited fits).bind ?_
  rw [dif_pos blob.length_bytes]
  exact reads_pure blob

end Scan
end SecurityKey
