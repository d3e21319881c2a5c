import SecurityKey.Proofs.Link.Traffic

/-!
# The counters of a channel

The counters of a channel over a device in memory are a full account of its traffic
(`counts_traffic`).  Sends that succeeded, receives that succeeded and garbled reports are
counted one by one, whatever fails between them.  No operation tells how many reports it
read, but every report that was ever queued has been read or still waits.

Counters are added field by field (`Metrics.plus`), and what one operation adds is the tally
of that operation alone (`Moves.metrics_eq`).
-/

set_option autoImplicit false

namespace SecurityKey

/-! ## Counters that are added -/

namespace Metrics

/-- Counts what two sets of counters have counted. -/
def plus (first second : Metrics) : Metrics where
  messagesSent := first.messagesSent + second.messagesSent
  messagesReceived := first.messagesReceived + second.messagesReceived
  reportsSent := first.reportsSent + second.reportsSent
  reportsReceived := first.reportsReceived + second.reportsReceived
  bytesSent := first.bytesSent + second.bytesSent
  bytesReceived := first.bytesReceived + second.bytesReceived
  interactions := first.interactions + second.interactions
  protocolErrors := first.protocolErrors + second.protocolErrors

theorem plus_assoc (first second third : Metrics) :
    (first.plus second).plus third = first.plus (second.plus third) := by
  simp only [plus, UInt64.add_assoc]

theorem plus_zero (metrics : Metrics) : metrics.plus zero = metrics := by
  simp only [plus, zero, UInt64.add_zero]

theorem zero_plus (metrics : Metrics) : zero.plus metrics = metrics := by
  simp only [plus, zero, UInt64.zero_add]

/-- Reports are counted one by one. -/
theorem iterate_reportReceived (count : Nat) (metrics : Metrics) :
    reportReceived^[count] metrics =
      { metrics with reportsReceived := metrics.reportsReceived + .ofNat count } := by
  induction count generalizing metrics with
  | zero =>
      change metrics = { metrics with reportsReceived := metrics.reportsReceived + 0 }
      rw [UInt64.add_zero]
  | succ count hypothesis =>
      rw [Function.iterate_succ_apply, hypothesis, Nat.add_comm, UInt64.ofNat_add,
        ← UInt64.add_assoc]
      rfl

end Metrics

namespace Channel

/-- What is to be counted of some traffic in which some reports were read. -/
def tally (traffic : List Entry) (read : Nat) : Metrics where
  messagesSent := .ofNat (sent traffic).length
  messagesReceived := .ofNat (received traffic).length
  reportsSent := .ofNat (reportCount (sent traffic))
  reportsReceived := .ofNat read
  bytesSent := .ofNat ((sent traffic).map (·.payload.length)).sum
  bytesReceived := .ofNat ((received traffic).map (·.payload.length)).sum
  interactions := 0
  protocolErrors := .ofNat (garbled traffic).length

/-- What is counted of the first operation and of the others is added. -/
theorem tally_cons (entry : Entry) (rest : List Entry) (read others : Nat) :
    tally (entry :: rest) (read + others) = (tally [entry] read).plus (tally rest others) := by
  simp only [tally, Metrics.plus, sent, received, garbled, filterMap_cons_eq, List.filterMap_nil,
    List.append_nil, List.length_append, reportCount_append, List.map_append, List.sum_append,
    UInt64.ofNat_add, UInt64.add_zero]

/-! ## One operation -/

namespace Moves

variable {entry : Entry} {before after : Channel MemoryLink}

/-- A move counts itself and the reports that it has read, and no report is lost. -/
theorem metrics_eq (moves : Moves entry before after) :
    ∃ read, after.metrics = before.metrics.plus (tally [entry] read) ∧
      read + after.link.inbound.length =
        before.link.inbound.length +
          reportCount (queuedReplies before.link.reactions [entry]) := by
  obtain ⟨operation, result⟩ := entry
  cases operation with
  | send message =>
      obtain ⟨reports, replied, inbound⟩ := moves.inbound_of_send
      refine ⟨0, ?_, ?_⟩
      · cases moves with
        | tooLong | refused => exact (Metrics.plus_zero _).symm
        | sent =>
            change before.metrics.messageSent _ _ =
              before.metrics.plus ⟨1, 0, .ofNat (Report.count message.payload.length), 0,
                .ofNat message.payload.length, 0, 0, 0⟩
            simp only [Metrics.plus, Metrics.messageSent, UInt64.add_zero]
      · rw [inbound, List.length_append, replied.length_eq, Nat.zero_add]
  | receive =>
      have nothing : queuedReplies before.link.reactions [(.receive, result)] = [] := by
        rw [queuedReplies_singleton]
        rfl
      rw [nothing]
      cases moves with
      | @received message _ reports queue inbound =>
          refine ⟨reports.length, ?_, ?_⟩
          · simp only [countReceived, afterReports, Metrics.iterate_reportReceived]
            change Metrics.messageReceived _ _ =
              before.metrics.plus ⟨0, 1, 0, .ofNat reports.length, 0,
                .ofNat message.payload.length, 0, 0⟩
            simp only [Metrics.plus, Metrics.messageReceived, UInt64.add_zero]
          · rw [inbound, List.length_append]
            rfl
      | @garbled fault _ reports queue inbound =>
          refine ⟨reports.length, ?_, ?_⟩
          · simp only [countError, afterReports, Metrics.iterate_reportReceived]
            change Metrics.protocolError _ =
              before.metrics.plus ⟨0, 0, 0, .ofNat reports.length, 0, 0, 0, 1⟩
            simp only [Metrics.plus, Metrics.protocolError, UInt64.add_zero]
          · rw [inbound, List.length_append]
            rfl
      | @exhausted _ reports inbound =>
          refine ⟨reports.length, ?_, ?_⟩
          · simp only [afterReports, Metrics.iterate_reportReceived]
            change _ = before.metrics.plus ⟨0, 0, 0, .ofNat reports.length, 0, 0, 0, 0⟩
            simp only [Metrics.plus, UInt64.add_zero]
          · rw [inbound, List.length_append]
            rfl

/-- The reports of every message that reached the device were written, whether it failed or
not. -/
theorem reportsWritten_eq (moves : Moves entry before after) :
    after.link.reportsWritten =
      before.link.reportsWritten + reportCount (entry.handed?.toList.filter (·.framable)) := by
  cases moves with
  | tooLong long =>
      rw [Entry.handed?, Option.toList_some, List.filter_cons, long]
      rfl
  | sent fits | refused fits =>
      rw [Entry.handed?, Option.toList_some, List.filter_cons, fits]
      rfl
  | received | garbled | exhausted => rfl

end Moves

/-! ## Operations in a row -/

section Idle

variable (operations : List Operation) {channel : Channel MemoryLink}
  (idle : channel.link.assembler = .idle)
include idle

theorem metrics_afterOperations :
    ∃ read, (channel.afterOperations operations).metrics =
        channel.metrics.plus (tally (channel.traffic operations) read) ∧
      read + (channel.afterOperations operations).link.inbound.length =
        channel.link.inbound.length +
          reportCount (queuedReplies channel.link.reactions (channel.traffic operations)) := by
  induction operations generalizing channel with
  | nil => exact ⟨0, (Metrics.plus_zero _).symm, Nat.zero_add _⟩
  | cons operation rest hypothesis =>
      have moves := moves_step operation idle
      obtain ⟨read, counted, kept⟩ := moves.metrics_eq
      obtain ⟨others, total, left⟩ := hypothesis (moves.assembler_eq.trans idle)
      rw [moves.reactions_eq] at left
      refine ⟨read + others, ?_, ?_⟩
      · rw [afterOperations_cons, total, counted, Metrics.plus_assoc, traffic_cons, tally_cons]
      · rw [afterOperations_cons, traffic_cons, queuedReplies_cons, reportCount_append]
        omega

theorem reportsWritten_afterOperations :
    (channel.afterOperations operations).link.reportsWritten =
      channel.link.reportsWritten +
        reportCount ((handed (channel.traffic operations)).filter (·.framable)) := by
  induction operations generalizing channel with
  | nil => rfl
  | cons operation rest hypothesis =>
      have moves := moves_step operation idle
      rw [afterOperations_cons, hypothesis (moves.assembler_eq.trans idle),
        moves.reportsWritten_eq, traffic_cons, handed, handed, filterMap_cons_eq,
        List.filter_append, reportCount_append, Nat.add_assoc]

end Idle

/-- Whatever the host does on a channel over a device in memory, the counters account for it.
Sends and receives are counted when they succeed, and a receive that fails counts as an error
when a report was garbled.  The device has counted the reports of all messages that could be
framed, also of those that it refused.  Every report that was ever queued, with the first ones
or as a reply, was read or waits. -/
theorem counts_traffic (queue : List Report) (reactions : List Reaction) (writeTimeout : Nat)
    (readTimeout : Deadline) (operations : List Operation) :
    let first := ofLink (.ofQueue queue reactions) writeTimeout readTimeout
    let traffic := first.traffic operations
    let last := first.afterOperations operations
    last.link.reportsWritten = reportCount ((handed traffic).filter (·.framable)) ∧
    (∃ read, last.metrics = tally traffic read ∧
      read + last.link.inbound.length =
        queue.length + reportCount (queuedReplies reactions traffic)) ∧
    ((∀ reaction ∈ reactions, reaction.Framable) →
      queuedReplies reactions traffic = replies reactions traffic) := by
  intro first traffic last
  have idle : first.link.assembler = .idle := rfl
  obtain ⟨read, counted, kept⟩ := metrics_afterOperations operations idle
  refine ⟨?_, ⟨read, ?_, kept⟩, queuedReplies_traffic operations idle⟩
  · exact (reportsWritten_afterOperations operations idle).trans (Nat.zero_add _)
  · exact counted.trans (Metrics.zero_plus _)

end Channel
end SecurityKey
