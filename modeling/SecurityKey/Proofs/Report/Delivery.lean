import Mathlib.Tactic.Ring
import SecurityKey.Report.Reassembler

/-!
# Reports of one message, put together again

A report holds what it was made of at its front, and zero bytes behind.  So the first
report of a message declares the number and the length of the message (`push_first`), and
a further report brings the next chunk of the payload (`push_continuation`).

A reassembler that has taken some reports of a message holds the payload bytes of those
reports, and it settles when none are left.  Both statements are about one report; a
reader and a device that take the reports of a message one after the other follow from
them by induction on what is left of the payload.
-/

set_option autoImplicit false

namespace SecurityKey

/-! ## Big-endian numbers -/

namespace Bytes

theorem foldl_ofBigEndian (width value start : Nat) :
    (ofBigEndian width value).foldl (fun value byte => value * 256 + byte.toNat) start =
      start * 256 ^ width + value % 256 ^ width := by
  induction width generalizing start with
  | zero => simp [ofBigEndian, Nat.mod_one]
  | succ width hypothesis =>
      have split : value % 256 ^ (width + 1) =
          value % 256 ^ width + 256 ^ width * (value / 256 ^ width % 256) := Nat.mod_pow_succ
      rw [ofBigEndian, List.foldl_cons, hypothesis, UInt8.toNat_ofNat', split]
      norm_num only
      ring

/-- A number that fits a width is the one that its big-endian bytes spell. -/
theorem bigEndian_ofBigEndian {width value : Nat} (fits : value < 256 ^ width) :
    bigEndian (ofBigEndian width value) = value := by
  rw [bigEndian, foldl_ofBigEndian, Nat.zero_mul, Nat.zero_add, Nat.mod_eq_of_lt fits]

/-- Bytes that fit are filled with zero bytes behind. -/
theorem fit_of_le {size : Nat} {bytes : Bytes} (fits : bytes.length ≤ size) :
    fit size bytes = bytes ++ List.replicate (size - bytes.length) 0 := by
  rw [fit, List.take_of_length_le fits]

/-- As many bytes as the whole has and at most as many as the cut allows are the bytes of the
cut, whatever is filled in behind them to the cut. -/
theorem take_fill (payload : Bytes) (size : Nat) :
    (payload.take size ++ List.replicate (size - payload.length) 0).take payload.length =
      payload.take size := by
  by_cases fits : payload.length ≤ size
  · rw [List.take_of_length_le fits]
    exact List.take_left' rfl
  · have none : size - payload.length = 0 := by omega
    rw [none, List.replicate_zero, List.append_nil]
    exact List.take_of_length_le (by simp)

end Bytes

theorem FixedBytes.bytes_ofBytes (size : Nat) (bytes : Bytes) :
    (FixedBytes.ofBytes size bytes).bytes = bytes.fit size := rfl

/-! ## The bytes of a report -/

namespace Report

/-- The first report of a message: mark, number, length, and the first chunk of the payload. -/
theorem bytes_first (message : RawMessage) :
    (first message).bytes =
      magic ++ (Bytes.ofBigEndian 2 message.id.toNat ++
        (Bytes.ofBigEndian 4 message.payload.length ++
          (message.payload.take firstChunk ++
            List.replicate (firstChunk - message.payload.length) 0))) := by
  have room : reportSize - (magic ++ Bytes.ofBigEndian 2 message.id.toNat ++
      Bytes.ofBigEndian 4 message.payload.length ++ message.payload.take firstChunk).length =
        firstChunk - message.payload.length := by
    simp only [magic, firstChunk, headerLength, reportSize, List.length_append, List.length_cons,
      List.length_nil, Bytes.length_ofBigEndian, List.length_take]
    omega
  rw [first, FixedBytes.bytes_ofBytes, Bytes.fit_of_le, room]
  · simp only [List.append_assoc]
  · simp only [magic, firstChunk, headerLength, reportSize, List.length_append, List.length_cons,
      List.length_nil, Bytes.length_ofBigEndian, List.length_take]
    omega

/-- A further report: the marker, and a chunk of the payload. -/
theorem bytes_further (payload : Bytes) :
    (FixedBytes.ofBytes reportSize (marker :: payload.take continuationChunk)).bytes =
      marker :: (payload.take continuationChunk ++
        List.replicate (continuationChunk - payload.length) 0) := by
  have room : reportSize - (marker :: payload.take continuationChunk).length =
      continuationChunk - payload.length := by
    simp only [continuationChunk, reportSize, List.length_cons, List.length_take]
    omega
  rw [FixedBytes.bytes_ofBytes, Bytes.fit_of_le, room]
  · rfl
  · simp only [continuationChunk, reportSize, List.length_cons, List.length_take]
    omega

end Report

/-! ## What a reassembler makes of them -/

namespace Reassembler

/-- The first report of a message settles what it has room for. -/
theorem push_first {message : RawMessage}
    (fits : message.payload.length ≤ Report.maximumPayload) :
    push (Report.first message) .idle =
      settle message.id message.payload.length (message.payload.take Report.firstChunk) .idle := by
  have id : Bytes.bigEndian (Bytes.ofBigEndian 2 message.id.toNat) = message.id.toNat :=
    Bytes.bigEndian_ofBigEndian message.id.toNat_lt
  have length : Bytes.bigEndian (Bytes.ofBigEndian 4 message.payload.length) =
      message.payload.length := by
    apply Bytes.bigEndian_ofBigEndian
    simp only [Report.maximumPayload] at fits
    omega
  have mark : (Report.first message).bytes.take 3 = Report.magic := by
    rw [Report.bytes_first]
    exact List.take_left' rfl
  have afterMark : (Report.first message).bytes.drop 3 =
      Bytes.ofBigEndian 2 message.id.toNat ++ (Bytes.ofBigEndian 4 message.payload.length ++
        (message.payload.take Report.firstChunk ++
          List.replicate (Report.firstChunk - message.payload.length) 0)) := by
    rw [Report.bytes_first]
    exact List.drop_left' rfl
  have afterId : (Report.first message).bytes.drop 5 =
      Bytes.ofBigEndian 4 message.payload.length ++ (message.payload.take Report.firstChunk ++
        List.replicate (Report.firstChunk - message.payload.length) 0) := by
    rw [show (5 : Nat) = 3 + 2 from rfl, ← List.drop_drop, afterMark]
    exact List.drop_left' (Bytes.length_ofBigEndian 2 _)
  have afterLength : (Report.first message).bytes.drop Report.headerLength =
      message.payload.take Report.firstChunk ++
        List.replicate (Report.firstChunk - message.payload.length) 0 := by
    rw [show Report.headerLength = 5 + 4 from rfl, ← List.drop_drop, afterId]
    exact List.drop_left' (Bytes.length_ofBigEndian 4 _)
  rw [push_idle, if_pos mark, afterMark, afterId, afterLength,
    List.take_left' (Bytes.length_ofBigEndian 2 _),
    List.take_left' (Bytes.length_ofBigEndian 4 _)]
  simp only [id, length, UInt16.ofNat_toNat, Bytes.take_fill]

/-- A further report settles the next chunk of what is left of the payload. -/
theorem push_continuation (id : UInt16) {length : Nat} {received rest : Bytes}
    (total : received.length + rest.length = length) :
    push (FixedBytes.ofBytes reportSize (Report.marker :: rest.take Report.continuationChunk))
        (.collecting id length received) =
      settle id length (received ++ rest.take Report.continuationChunk)
        (.collecting id length received) := by
  have left : length - received.length = rest.length := by omega
  rw [push_collecting, Report.bytes_further, List.head?_cons, if_pos rfl, left]
  simp only [List.drop_succ_cons, List.drop_zero, Bytes.take_fill]

end Reassembler

end SecurityKey
