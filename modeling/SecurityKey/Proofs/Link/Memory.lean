import SecurityKey.Link.Memory
import SecurityKey.Proofs.Link.Arrival

/-!
# Whole messages over a device in memory

A channel over a device in memory carries whole messages.  A send to an idle device comes
to the reaction of the device to the message, and whatever that gives (`writeReports_packetize`).
A receive takes the reports of one message from the front of the queue and gives that message
(`receive_packetize`).

Reports that wait before all others do not change what a write does (`unnoticed_behind`).
-/

set_option autoImplicit false

namespace SecurityKey

/-- A reassembler that has completed a message is idle. -/
theorem Reassembler.idle_of_push_some {report : Report} {message : RawMessage}
    {assembler next : Reassembler} (pushed : push report assembler = .ok (some message) next) :
    next = .idle := by
  cases assembler with
  | idle =>
      rw [push_idle] at pushed
      split at pushed
      · rw [settle_eq] at pushed
        split at pushed <;> cases pushed
        rfl
      · cases pushed
  | collecting id length received =>
      rw [push_collecting] at pushed
      split at pushed
      · rw [settle_eq] at pushed
        split at pushed <;> cases pushed
        rfl
      · cases pushed

namespace Channel

/-! ## Sending -/

/-- What a channel over a device in memory makes of an operation of the device. -/
def afterLink (channel : Channel MemoryLink) :
    EStateM.Result Error MemoryLink Unit → EStateM.Result Halt (Channel MemoryLink) Unit
  | .ok () link => .ok () { channel with link }
  | .error error link => .error (.failed error) { channel with link }

theorem write_eq (report : Report) (deadline : Deadline) (link : MemoryLink) :
    Link.write report deadline link =
      match MemoryLink.accept report link with
      | .ok () next => .ok () next
      | .error error next => .error (.failed error) next := rfl

/-- Reports that complete a message on the device bring the reaction of the device to it. -/
theorem writeReports_of_completes {assembler : Reassembler} {reports : List Report}
    {message : RawMessage} (completes : assembler.Completes reports message)
    {channel : Channel MemoryLink} (standing : channel.link.assembler = assembler) :
    writeReports reports channel =
      channel.afterLink (MemoryLink.react message
        { channel.link with
          assembler := .idle
          reportsWritten := channel.link.reportsWritten + reports.length }) := by
  induction completes generalizing channel with
  | last pushed =>
      have idle := Reassembler.idle_of_push_some pushed
      subst idle
      rw [writeReports, write_eq, MemoryLink.accept, standing, pushed]
      dsimp only
      rw [List.length_singleton]
      cases MemoryLink.react _ _ with
      | ok _ link => rfl
      | error error link => rfl
  | more pushed _ hypothesis =>
      rw [writeReports, write_eq, MemoryLink.accept, standing, pushed]
      dsimp only
      rw [hypothesis rfl, List.length_cons]
      simp only [Nat.add_assoc, Nat.add_comm 1]
      rfl

/-- All reports of a message, written to a device that is idle. -/
theorem writeReports_packetize {message : RawMessage} {reports : List Report}
    (framed : message.packetize = .ok reports) {channel : Channel MemoryLink}
    (idle : channel.link.assembler = .idle) :
    writeReports reports channel =
      channel.afterLink (MemoryLink.react message
        { channel.link with
          assembler := .idle
          reportsWritten := channel.link.reportsWritten + reports.length }) :=
  writeReports_of_completes (Reassembler.completes_packetize framed) idle

/-! ## Receiving -/

theorem read_eq (deadline : Deadline) (link : MemoryLink) :
    Link.read deadline link =
      match link.inbound with
      | [] => .error (.failed .connectionClosed) link
      | report :: rest => .ok report { link with inbound := rest } := rfl

/-- A device in memory gives the reports at the front of its queue. -/
theorem gives_inbound (deadline : Deadline) (reports : List Report) {link : MemoryLink}
    {queue : List Report} (inbound : link.inbound = reports ++ queue) :
    Link.Gives deadline link reports { link with inbound := queue } := by
  induction reports generalizing link with
  | nil =>
      rw [List.nil_append] at inbound
      rw [← inbound]
      exact .nil link
  | cons report rest hypothesis =>
      have others : Link.Gives deadline { link with inbound := rest ++ queue } rest
          { link with inbound := queue } := hypothesis rfl
      refine .cons ?_ others
      rw [read_eq, inbound]
      rfl

/-- The next message of a queue is received, and nothing behind it is taken. -/
theorem receive_packetize {message : RawMessage} {reports queue : List Report}
    (framed : message.packetize = .ok reports) {channel : Channel MemoryLink}
    (inbound : channel.link.inbound = reports ++ queue) :
    receive channel =
      .ok message ((channel.afterReports reports.length
        { channel.link with inbound := queue }).countReceived message) :=
  collect_of_completes (Reassembler.completes_packetize framed)
    (gives_inbound channel.readTimeout reports inbound)

/-- Nothing is received from an empty queue. -/
theorem receive_nil {channel : Channel MemoryLink} (inbound : channel.link.inbound = []) :
    receive channel = .error (.failed .connectionClosed) channel := by
  have silent : Link.read channel.readTimeout channel.link =
      .error (.failed .connectionClosed) channel.link := by
    rw [read_eq, inbound]
  exact collect_of_failed silent

end Channel

/-! ## Reports that wait before all others -/

namespace MemoryLink

/-- A device that has some reports to give before all others. -/
def behind (front : List Report) (link : MemoryLink) : MemoryLink :=
  { link with inbound := front ++ link.inbound }

variable (front : List Report)

theorem queueAll_behind (messages : List RawMessage) (link : MemoryLink) :
    queueAll messages (link.behind front) = restate (behind front) (queueAll messages link) := by
  induction messages generalizing link with
  | nil => rfl
  | cons message rest hypothesis =>
      rw [queueAll, queueAll]
      cases message.packetize with
      | error error => rfl
      | ok reports =>
          dsimp only
          rw [← hypothesis]
          simp only [behind, List.append_assoc]

theorem react_behind (message : RawMessage) (link : MemoryLink) :
    react message (link.behind front) = restate (behind front) (react message link) := by
  obtain ⟨inbound, assembler, sent, written, reactions⟩ := link
  cases reactions with
  | nil => rfl
  | cons reaction rest =>
      cases reaction with
      | error error => rfl
      | ok replies =>
          have queued := queueAll_behind front replies ⟨inbound, assembler, sent, written, rest⟩
          simp only [behind] at queued
          simp only [react, behind, queued]
          cases queueAll replies ⟨inbound, assembler, sent, written, rest⟩ with
          | ok _ next => rfl
          | error error next => rfl

/-- A device takes no notice of what waits to be read. -/
theorem unnoticed_behind : Link.Unnoticed (behind front) := by
  intro report deadline link
  rw [Channel.write_eq, Channel.write_eq]
  have accepted : accept report (link.behind front) =
      restate (behind front) (accept report link) := by
    rw [accept, accept, behind]
    dsimp only
    cases Reassembler.push report link.assembler with
    | error error assembler => rfl
    | ok message assembler =>
        cases message with
        | none => rfl
        | some message =>
            exact react_behind front message
              { link with assembler, reportsWritten := link.reportsWritten + 1 }
  rw [accepted]
  cases accept report link with
  | ok _ next => rfl
  | error error next => rfl

end MemoryLink
end SecurityKey
