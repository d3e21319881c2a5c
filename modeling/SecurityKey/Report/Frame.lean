import SecurityKey.Bytes
import SecurityKey.Error

/-!
# Report framing

A key talks in reports of 64 bytes.  A message is split into reports: the first
one starts with the mark `?##`, the message number and the payload length and has
room for 55 payload bytes, and every further one starts with `?` and has room for
63.  The last report is filled with zero bytes.

`RawMessage.packetize` does the splitting, and `Report.count` says how many
reports a payload takes, which `length_packetize` confirms.
-/

set_option autoImplicit false

namespace SecurityKey

/-- A message as it travels: its number and its encoded payload. -/
structure RawMessage where
  id : UInt16
  payload : Bytes
  deriving DecidableEq, Repr

/-- The size of a report in bytes. -/
abbrev reportSize : Nat := 64

/-- One report. -/
abbrev Report := FixedBytes reportSize

namespace Report

/-- The byte that starts every report. -/
def marker : UInt8 := 0x3f

/-- The bytes that start the first report of a message. -/
def magic : Bytes := [0x3f, 0x23, 0x23]

/-- The bytes of the first report that hold no payload. -/
def headerLength : Nat := 9

/-- The payload bytes that fit into the first report. -/
def firstChunk : Nat := reportSize - headerLength

/-- The payload bytes that fit into a further report. -/
def continuationChunk : Nat := reportSize - 1

/-- The longest payload whose length fits the header. -/
def maximumPayload : Nat := 2 ^ 32 - 1

/-- How many reports a payload of `length` bytes takes. -/
def count (length : Nat) : Nat :=
  1 + (length - firstChunk + (continuationChunk - 1)) / continuationChunk

/-- The first report of a message. -/
def first (message : RawMessage) : Report :=
  FixedBytes.ofBytes reportSize
    (magic ++ Bytes.ofBigEndian 2 message.id.toNat ++
      Bytes.ofBigEndian 4 message.payload.length ++ message.payload.take firstChunk)

/-- The further reports of a message, for what the first report has no room for. -/
def continuations (payload : Bytes) : List Report :=
  match payload with
  | [] => []
  | byte :: rest =>
      FixedBytes.ofBytes reportSize (marker :: (byte :: rest).take continuationChunk) ::
        continuations ((byte :: rest).drop continuationChunk)
termination_by payload.length
decreasing_by
  simp only [List.length_drop, List.length_cons, continuationChunk, reportSize]
  omega

end Report

/-- The reports of a message, when its length fits the header. -/
def RawMessage.packetize (message : RawMessage) : Except Error (List Report) :=
  if message.payload.length ≤ Report.maximumPayload then
    .ok (Report.first message ::
      Report.continuations (message.payload.drop Report.firstChunk))
  else
    .error (.oversizedPacket message.payload.length)

/-! ## How many reports there are -/

theorem Report.length_continuations (payload : Bytes) :
    (continuations payload).length =
      (payload.length + (continuationChunk - 1)) / continuationChunk := by
  fun_induction continuations payload with
  | case1 => rfl
  | case2 byte rest hypothesis =>
      rw [List.length_cons, hypothesis]
      simp only [List.length_cons, List.length_drop, continuationChunk, reportSize]
      omega

/-- A message takes the counted number of reports. -/
theorem RawMessage.length_packetize {message : RawMessage} {reports : List Report}
    (split : message.packetize = .ok reports) :
    reports.length = Report.count message.payload.length := by
  unfold packetize at split
  split at split
  · cases split
    simp only [List.length_cons, Report.length_continuations, List.length_drop, Report.count]
    omega
  · cases split

end SecurityKey
