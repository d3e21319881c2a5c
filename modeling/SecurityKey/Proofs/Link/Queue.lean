import Mathlib.Algebra.GroupWithZero.Nat
import Mathlib.Data.List.TakeWhile
import SecurityKey.Link.Memory

/-!
# Messages that wait

The reports of messages that wait to be read stand one message behind the other
(`Queued`).  A device in memory queues its replies until one of them is too long for a
report header: those before it stay in the queue, and the device fails there
(`queueAll_eq`).  What this means for the reaction to a message of the host is said by
`react_eq`: which replies are queued (`Reaction.queued`) and whether the device fails
(`Reaction.failure`).
-/

set_option autoImplicit false

namespace SecurityKey

/-! ## Queues -/

/-- The reports in which messages wait to be read, one message after the other. -/
inductive Queued : List RawMessage → List Report → Prop where
  | nil : Queued [] []
  | cons {message : RawMessage} {rest : List RawMessage} {reports queue : List Report}
      (framed : message.packetize = .ok reports) (others : Queued rest queue) :
      Queued (message :: rest) (reports ++ queue)

/-- Messages that wait behind others. -/
theorem Queued.append {first second : List RawMessage} {queue reports : List Report}
    (earlier : Queued first queue) (later : Queued second reports) :
    Queued (first ++ second) (queue ++ reports) := by
  induction earlier with
  | nil => exact later
  | cons framed _ hypothesis =>
      rw [List.append_assoc]
      exact .cons framed hypothesis

/-- Messages that are framed one after the other. -/
theorem Queued.concat {messages : List RawMessage} {queue reports : List Report}
    {message : RawMessage} (queued : Queued messages queue)
    (framed : message.packetize = .ok reports) :
    Queued (messages ++ [message]) (queue ++ reports) := by
  have single := Queued.cons framed .nil
  rw [List.append_nil] at single
  exact queued.append single

/-- The number of reports that messages take. -/
def reportCount (messages : List RawMessage) : Nat :=
  (messages.map fun message => Report.count message.payload.length).sum

theorem reportCount_append (first second : List RawMessage) :
    reportCount (first ++ second) = reportCount first + reportCount second := by
  rw [reportCount, List.map_append, List.sum_append]
  rfl

theorem Queued.length_eq {messages : List RawMessage} {queue : List Report}
    (queued : Queued messages queue) : queue.length = reportCount messages := by
  induction queued with
  | nil => rfl
  | cons framed _ hypothesis =>
      rw [List.length_append, RawMessage.length_packetize framed, hypothesis]
      rfl

/-! ## What a device queues -/

/-- Whether the length of a message fits a report header. -/
def RawMessage.framable (message : RawMessage) : Bool :=
  decide (message.payload.length ≤ Report.maximumPayload)

theorem RawMessage.exists_packetize {message : RawMessage} (fits : message.framable = true) :
    ∃ reports, message.packetize = .ok reports :=
  ⟨_, if_pos (of_decide_eq_true fits)⟩

theorem RawMessage.packetize_of_not_framable {message : RawMessage}
    (long : message.framable = false) :
    message.packetize = .error (.oversizedPacket message.payload.length) :=
  if_neg (of_decide_eq_false long)

/-- Messages of which none is too long. -/
theorem takeWhile_framable {messages : List RawMessage}
    (whole : messages.find? (!·.framable) = none) :
    messages.takeWhile RawMessage.framable = messages := by
  rw [List.find?_eq_none] at whole
  rw [List.takeWhile_eq_self_iff]
  intro message member
  have fits := whole message member
  rwa [Bool.not_eq_true', Bool.not_eq_false] at fits

namespace MemoryLink

/-- A device queues messages up to the first one that is too long, and fails there. -/
theorem queueAll_eq (messages : List RawMessage) (link : MemoryLink) :
    ∃ reports, Queued (messages.takeWhile RawMessage.framable) reports ∧
      queueAll messages link =
        match messages.find? (!·.framable) with
        | none => .ok () { link with inbound := link.inbound ++ reports }
        | some long =>
            .error (.oversizedPacket long.payload.length)
              { link with inbound := link.inbound ++ reports } := by
  induction messages generalizing link with
  | nil =>
      refine ⟨[], .nil, ?_⟩
      rw [List.append_nil]
      rfl
  | cons message rest hypothesis =>
      cases fits : message.framable with
      | false =>
          refine ⟨[], ?_, ?_⟩
          · rw [List.takeWhile_cons, fits]
            exact .nil
          · rw [queueAll, RawMessage.packetize_of_not_framable fits, List.find?_cons, fits,
              List.append_nil]
            rfl
      | true =>
          obtain ⟨first, framed⟩ := RawMessage.exists_packetize fits
          obtain ⟨reports, others, ran⟩ :=
            hypothesis { link with inbound := link.inbound ++ first }
          refine ⟨first ++ reports, ?_, ?_⟩
          · rw [List.takeWhile_cons, fits]
            exact .cons framed others
          · rw [queueAll, framed, List.find?_cons, fits]
            dsimp only [Bool.not_true]
            rw [ran, List.append_assoc]
            rfl

end MemoryLink

/-- What a device has queued without a failure are the reports of the messages. -/
theorem queued_of_queueAll {messages : List RawMessage} {link next : MemoryLink}
    (run : MemoryLink.queueAll messages link = .ok () next) :
    ∃ queue, Queued messages queue ∧ next = { link with inbound := link.inbound ++ queue } := by
  obtain ⟨queue, queued, ran⟩ := MemoryLink.queueAll_eq messages link
  rw [run] at ran
  split at ran
  · rename_i whole
    cases ran
    rw [takeWhile_framable whole] at queued
    exact ⟨queue, queued, rfl⟩
  · cases ran

/-- A device queues what can be framed. -/
theorem queueAll_of_queued {messages : List RawMessage} {queue : List Report}
    (queued : Queued messages queue) (link : MemoryLink) :
    MemoryLink.queueAll messages link =
      .ok () { link with inbound := link.inbound ++ queue } := by
  induction queued generalizing link with
  | nil =>
      rw [List.append_nil]
      rfl
  | cons framed others hypothesis =>
      rw [MemoryLink.queueAll, framed]
      dsimp only
      rw [hypothesis, List.append_assoc]

/-! ## What a reaction comes to -/

namespace Reaction

/-- The replies of a reaction. -/
def batch : Reaction → List RawMessage
  | .ok replies => replies
  | .error _ => []

/-- The replies that are queued: those before the first one that is too long. -/
def queued (reaction : Reaction) : List RawMessage := reaction.batch.takeWhile RawMessage.framable

/-- Why the device fails, if it does. -/
def failure : Reaction → Option Error
  | .ok replies =>
      (replies.find? (!·.framable)).map fun long => .oversizedPacket long.payload.length
  | .error error => some error

/-- All replies of a reaction can be framed. -/
def Framable (reaction : Reaction) : Prop := ∀ reply ∈ reaction.batch, reply.framable = true

/-- A device that does not fail queues all replies. -/
theorem queued_of_succeeds {reaction : Reaction} (succeeds : reaction.failure = none) :
    reaction.queued = reaction.batch := by
  cases reaction with
  | error error => cases succeeds
  | ok replies =>
      rw [failure, Option.map_eq_none_iff] at succeeds
      exact takeWhile_framable succeeds

/-- A device that fails, and not for the length of a reply, queues nothing. -/
theorem queued_of_fails {reaction : Reaction} (framable : reaction.Framable) {error : Error}
    (fails : reaction.failure = some error) : reaction.queued = [] := by
  cases reaction with
  | error _ => rfl
  | ok replies =>
      have whole : replies.find? (!·.framable) = none := by
        rw [List.find?_eq_none]
        intro reply member
        rw [framable reply member]
        exact Bool.false_ne_true
      rw [failure, whole] at fails
      cases fails

end Reaction

/-- A device reacts to a message: it queues what its reaction says, and keeps the message
unless it fails. -/
theorem MemoryLink.react_eq (message : RawMessage) (link : MemoryLink) :
    ∃ reports, Queued ((link.reactions.take 1).flatMap Reaction.queued) reports ∧
      react message link =
        match link.reactions.head?.bind Reaction.failure with
        | none =>
            .ok () { link with
              inbound := link.inbound ++ reports
              sent := link.sent ++ [message]
              reactions := link.reactions.tail }
        | some error =>
            .error error { link with
              inbound := link.inbound ++ reports
              reactions := link.reactions.tail } := by
  obtain ⟨inbound, assembler, sent, written, reactions⟩ := link
  cases reactions with
  | nil =>
      refine ⟨[], .nil, ?_⟩
      simp only [List.append_nil]
      rfl
  | cons reaction rest =>
      have single : ([reaction].flatMap Reaction.queued) = reaction.queued := by
        rw [List.flatMap_cons, List.flatMap_nil, List.append_nil]
      cases reaction with
      | error error =>
          refine ⟨[], .nil, ?_⟩
          simp only [List.append_nil]
          rfl
      | ok replies =>
          obtain ⟨reports, waiting, ran⟩ :=
            queueAll_eq replies ⟨inbound, assembler, sent, written, rest⟩
          refine ⟨reports, ?_, ?_⟩
          · dsimp only
            rw [List.take_succ_cons, List.take_zero, single]
            exact waiting
          · dsimp only [react]
            rw [ran]
            dsimp only [List.head?_cons, Option.bind_some, Reaction.failure]
            cases replies.find? (!·.framable) with
            | none => rfl
            | some long => rfl

end SecurityKey
