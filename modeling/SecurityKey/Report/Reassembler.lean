import SecurityKey.Report.Frame

/-!
# Putting reports together

A `Reassembler` takes one report after the other and gives the message back at the
report that completes it.  It is idle between messages.  Inside a message it knows
the number and the length that the first report declared, and the payload bytes that
have arrived.

A first report without the mark is refused and leaves the reassembler idle; a further
report without its marker is refused and makes it idle again.

Every report inside a message brings at least one byte of it, so a message is complete
after finitely many reports, whatever they hold: `missing_push`.
-/

set_option autoImplicit false

namespace SecurityKey

/-- The state between two reports. -/
inductive Reassembler where
  /-- The next report starts a message. -/
  | idle
  /-- A message of `length` bytes is under way, of which `received` have arrived. -/
  | collecting (id : UInt16) (length : Nat) (received : Bytes)

namespace Reassembler

/-- Whether a message is under way. -/
def inProgress : Reassembler → Bool
  | .idle => false
  | .collecting .. => true

/-- Gives the message when all of its payload has arrived, and waits for more otherwise. -/
def settle (id : UInt16) (length : Nat) (received : Bytes) :
    EStateM Error Reassembler (Option RawMessage) := do
  if received.length < length then
    set (Reassembler.collecting id length received)
    pure none
  else
    set Reassembler.idle
    pure (some ⟨id, received⟩)

/-- Takes one report. -/
def push (report : Report) : EStateM Error Reassembler (Option RawMessage) := do
  match ← get with
  | .idle =>
      if report.bytes.take 3 = Report.magic then
        let id := UInt16.ofNat (Bytes.bigEndian ((report.bytes.drop 3).take 2))
        let length := Bytes.bigEndian ((report.bytes.drop 5).take 4)
        settle id length ((report.bytes.drop Report.headerLength).take length)
      else
        throw (.encoding .reportMagic)
  | .collecting id length received =>
      if report.bytes.head? = some Report.marker then
        settle id length
          (received ++ (report.bytes.drop 1).take (length - received.length))
      else
        set Reassembler.idle
        throw (.encoding .continuationMarker)

/-- Gives up the message that is under way. -/
def reset : EStateM Error Reassembler Unit := set Reassembler.idle

/-! ## How much a message may still take -/

/-- A bound on the payload bytes that are still to come. -/
def missing : Reassembler → Nat
  | .idle => 2 ^ 32
  | .collecting _ length received => length - received.length

theorem settle_eq (id : UInt16) (length : Nat) (received : Bytes) (assembler : Reassembler) :
    settle id length received assembler =
      if received.length < length then
        .ok none (.collecting id length received)
      else
        .ok (some ⟨id, received⟩) .idle := by
  unfold settle
  split <;> rfl

theorem push_idle (report : Report) :
    push report .idle =
      if report.bytes.take 3 = Report.magic then
        let id := UInt16.ofNat (Bytes.bigEndian ((report.bytes.drop 3).take 2))
        let length := Bytes.bigEndian ((report.bytes.drop 5).take 4)
        settle id length ((report.bytes.drop Report.headerLength).take length) .idle
      else
        .error (.encoding .reportMagic) .idle := by
  change (if report.bytes.take 3 = Report.magic then _ else _ : EStateM _ _ _) _ = _
  split <;> rfl

theorem push_collecting (report : Report) (id : UInt16) (length : Nat) (received : Bytes) :
    push report (.collecting id length received) =
      if report.bytes.head? = some Report.marker then
        settle id length (received ++ (report.bytes.drop 1).take (length - received.length))
          (.collecting id length received)
      else
        .error (.encoding .continuationMarker) .idle := by
  change (if report.bytes.head? = some Report.marker then _ else _ : EStateM _ _ _) _ = _
  split <;> rfl

/-- A report that does not complete its message leaves less of it to come. -/
theorem missing_push {report : Report} {assembler next : Reassembler}
    (run : push report assembler = .ok none next) : next.missing < assembler.missing := by
  cases assembler with
  | idle =>
      rw [push_idle] at run
      split at run
      · rw [settle_eq] at run
        split at run
        · rename_i more
          cases run
          have bound := Bytes.bigEndian_lt ((report.bytes.drop 5).take 4)
          have short : ((report.bytes.drop 5).take 4).length = 4 := by
            simp [report.length_bytes, reportSize]
          rw [short] at bound
          simp only [missing]
          omega
        · cases run
      · cases run
  | collecting id length received =>
      rw [push_collecting] at run
      split at run
      · rw [settle_eq] at run
        split at run
        · rename_i more
          cases run
          simp only [missing, List.length_append, List.length_take, List.length_drop,
            report.length_bytes, reportSize] at more ⊢
          omega
        · cases run
      · cases run

end Reassembler

end SecurityKey
