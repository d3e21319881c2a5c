import SecurityKey.Proofs.Link.Memory
import SecurityKey.Proofs.Link.Queue
import SecurityKey.Proofs.Steps

/-!
# What a channel carries

The host sends and receives on a channel over a device in memory, in any order; what it does,
each time with what came of it, is the traffic of the channel.  There are six ways in which a
single operation may end (`Moves`), and the device is idle after each of them
(`moves_step`).

So nothing is lost, doubled, split or moved out of order (`carries_in_order`): the device has
exactly the messages of the sends that succeeded, and the messages that were received,
followed by those that wait, are the messages that waited at first, followed by the replies.
-/

set_option autoImplicit false

namespace SecurityKey

/-! ## The device -/

namespace MemoryLink

/-- A device with reactions and some reports that wait. -/
def ofQueue (queue : List Report) (reactions : List Reaction) : MemoryLink :=
  { ofReactions reactions with inbound := queue }

/-- A device that has taken a message of the host and put some reports into its queue. -/
def delivered (message : RawMessage) (reports : List Report) (link : MemoryLink) :
    MemoryLink :=
  { link with
    inbound := link.inbound ++ reports
    reportsWritten := link.reportsWritten + Report.count message.payload.length
    reactions := link.reactions.tail }

end MemoryLink

namespace Channel

/-! ## Operations -/

/-- Something that the host does on a channel. -/
inductive Operation where
  | send (message : RawMessage)
  | receive

/-- How it is done; a receive brings a message. -/
def Operation.step : Operation → EStateM Halt (Channel MemoryLink) (Option RawMessage)
  | .send message => (fun _ => none) <$> Channel.send message
  | .receive => some <$> Channel.receive

/-- An operation and what it came to. -/
abbrev Entry := Operation × Except Halt (Option RawMessage)

/-- What is done on a channel, each time with what it comes to. -/
def traffic (operations : List Operation) (channel : Channel MemoryLink) : List Entry :=
  operations.zip (outcomes (operations.map Operation.step) channel)

/-- The channel after some operations. -/
def afterOperations (operations : List Operation) (channel : Channel MemoryLink) :
    Channel MemoryLink :=
  stateAfter (operations.map Operation.step) channel

/-- An operation that is done on a channel, with what it comes to. -/
def entry (operation : Operation) (channel : Channel MemoryLink) : Entry :=
  (operation, outcome (operation.step channel))

theorem traffic_cons (operation : Operation) (rest : List Operation)
    (channel : Channel MemoryLink) :
    traffic (operation :: rest) channel =
      channel.entry operation :: traffic rest (leaves (operation.step channel)) := rfl

theorem afterOperations_cons (operation : Operation) (rest : List Operation)
    (channel : Channel MemoryLink) :
    afterOperations (operation :: rest) channel =
      afterOperations rest (leaves (operation.step channel)) := rfl

namespace Entry

/-- The message of a send that succeeded. -/
def sent? : Entry → Option RawMessage
  | (.send message, .ok _) => some message
  | _ => none

/-- The message of any send. -/
def handed? : Entry → Option RawMessage
  | (.send message, _) => some message
  | _ => none

/-- Whether a send succeeded whose message could be framed, so that it reached the device. -/
def delivered? : Entry → Option Bool
  | (.send message, result) => if message.framable then some result.isOk else none
  | _ => none

theorem delivered?_of_framable {message : RawMessage} (fits : message.framable = true)
    (result : Except Halt (Option RawMessage)) :
    delivered? (.send message, result) = some result.isOk := if_pos fits

theorem delivered?_of_not_framable {message : RawMessage} (long : message.framable = false)
    (result : Except Halt (Option RawMessage)) : delivered? (.send message, result) = none := by
  rw [delivered?, long]
  rfl

/-- The message of a receive that succeeded. -/
def received? : Entry → Option RawMessage
  | (.receive, .ok message) => message
  | _ => none

/-- What was wrong with a report that was received. -/
def garbled? : Entry → Option EncodingFault
  | (.receive, .error (.failed (.encoding fault))) => some fault
  | _ => none

end Entry

/-- The messages of the sends that succeeded. -/
def sent (traffic : List Entry) : List RawMessage := traffic.filterMap Entry.sent?

/-- The messages of all sends. -/
def handed (traffic : List Entry) : List RawMessage := traffic.filterMap Entry.handed?

/-- For every message that reached the device, whether its send succeeded. -/
def deliveries (traffic : List Entry) : List Bool := traffic.filterMap Entry.delivered?

/-- The messages of the receives that succeeded. -/
def received (traffic : List Entry) : List RawMessage := traffic.filterMap Entry.received?

/-- What was wrong with the reports that were received. -/
def garbled (traffic : List Entry) : List EncodingFault := traffic.filterMap Entry.garbled?

/-- The replies to the sends that succeeded, when a device reacts to one message after the
other. -/
def replies (reactions : List Reaction) (traffic : List Entry) : List RawMessage :=
  (List.zipWith (fun succeeded reaction => if succeeded then Reaction.batch reaction else [])
    (deliveries traffic) reactions).flatten

/-- All that the device has queued.  When a reply is too long for a report header, its send
fails, but the replies before it are in the queue. -/
def queuedReplies (reactions : List Reaction) (traffic : List Entry) : List RawMessage :=
  (reactions.take (deliveries traffic).length).flatMap Reaction.queued

theorem filterMap_cons_eq {α β : Type} (pick : α → Option β) (first : α) (rest : List α) :
    (first :: rest).filterMap pick = (pick first).toList ++ rest.filterMap pick := by
  rw [List.filterMap_cons]
  cases pick first <;> rfl

theorem queuedReplies_singleton (reactions : List Reaction) (entry : Entry) :
    queuedReplies reactions [entry] =
      (reactions.take entry.delivered?.toList.length).flatMap Reaction.queued := by
  rw [queuedReplies, deliveries, filterMap_cons_eq, List.filterMap_nil, List.append_nil]

theorem queuedReplies_cons (reactions : List Reaction) (entry : Entry) (rest : List Entry) :
    queuedReplies reactions (entry :: rest) =
      queuedReplies reactions [entry] ++
        queuedReplies (reactions.drop entry.delivered?.toList.length) rest := by
  simp only [queuedReplies, deliveries, filterMap_cons_eq, List.filterMap_nil, List.append_nil,
    List.length_append, List.take_add, List.flatMap_append]

theorem replies_cons (reactions : List Reaction) (entry : Entry) (rest : List Entry) :
    replies reactions (entry :: rest) =
      replies reactions [entry] ++
        replies (reactions.drop entry.delivered?.toList.length) rest := by
  simp only [replies, deliveries, filterMap_cons_eq, List.filterMap_nil, List.append_nil]
  cases entry.delivered? with
  | none => rfl
  | some succeeded =>
      cases reactions with
      | nil => simp only [List.drop_nil, List.zipWith_nil_right, List.flatten_nil, List.append_nil]
      | cons reaction others =>
          simp only [Option.toList_some, List.cons_append, List.nil_append,
            List.zipWith_cons_cons, List.flatten_cons, List.length_singleton,
            List.drop_succ_cons, List.drop_zero, List.zipWith_nil_left, List.flatten_nil,
            List.append_nil]

/-! ## One operation -/

/-- What an operation may come to on a channel to an idle device, with the channel before and
after it. -/
inductive Moves : Entry → Channel MemoryLink → Channel MemoryLink → Prop where
  | tooLong {message : RawMessage} {channel : Channel MemoryLink}
      (long : message.framable = false) :
      Moves (.send message, .error (.failed (.oversizedPacket message.payload.length)))
        channel channel
  | sent {message : RawMessage} {channel : Channel MemoryLink} {reports : List Report}
      (fits : message.framable = true)
      (succeeds : channel.link.reactions.head?.bind Reaction.failure = none)
      (replied : Queued ((channel.link.reactions.take 1).flatMap Reaction.queued) reports) :
      Moves (.send message, .ok none) channel
        ({ channel with
          link := (channel.link.delivered message reports).record message }.countSent message)
  | refused {message : RawMessage} {channel : Channel MemoryLink} {reports : List Report}
      {error : Error} (fits : message.framable = true)
      (fails : channel.link.reactions.head?.bind Reaction.failure = some error)
      (replied : Queued ((channel.link.reactions.take 1).flatMap Reaction.queued) reports) :
      Moves (.send message, .error (.failed error)) channel
        { channel with link := channel.link.delivered message reports }
  | received {message : RawMessage} {channel : Channel MemoryLink} {reports queue : List Report}
      (inbound : channel.link.inbound = reports ++ queue) :
      Moves (.receive, .ok (some message)) channel
        ((channel.afterReports reports.length { channel.link with inbound := queue }).countReceived
          message)
  | garbled {fault : EncodingFault} {channel : Channel MemoryLink} {reports queue : List Report}
      (inbound : channel.link.inbound = reports ++ queue) :
      Moves (.receive, .error (.failed (.encoding fault))) channel
        (channel.afterReports reports.length { channel.link with inbound := queue }).countError
  | exhausted {channel : Channel MemoryLink} {reports : List Report}
      (inbound : channel.link.inbound = reports ++ []) :
      Moves (.receive, .error (.failed .connectionClosed)) channel
        (channel.afterReports reports.length { channel.link with inbound := [] })

theorem moves_send (message : RawMessage) {channel : Channel MemoryLink}
    (idle : channel.link.assembler = .idle) :
    Moves (channel.entry (.send message)) channel
      (leaves (Operation.step (.send message) channel)) := by
  rw [entry, Operation.step, outcome_map, leaves_map]
  cases fits : message.framable with
  | false =>
      rw [Channel.send, RawMessage.packetize_of_not_framable fits]
      exact .tooLong fits
  | true =>
      obtain ⟨reports, framed⟩ := RawMessage.exists_packetize fits
      rw [Channel.send, framed]
      dsimp only
      rw [writeReports_packetize framed idle, RawMessage.length_packetize framed, ← idle]
      -- The message is complete with its last report only, so the device reacts once.
      obtain ⟨queued, replied, reacted⟩ := MemoryLink.react_eq message
        { channel.link with
          reportsWritten := channel.link.reportsWritten + Report.count message.payload.length }
      rw [reacted]
      dsimp only
      cases failure : channel.link.reactions.head?.bind Reaction.failure with
      | none => exact .sent fits failure replied
      | some error => exact .refused fits failure replied

/-- What is read for a message is taken from the front of the queue, and it ends with the
message, at a garbled report or with the queue. -/
theorem collect_eq (assembler : Reassembler) (channel : Channel MemoryLink) :
    ∃ reports queue, channel.link.inbound = reports ++ queue ∧
      let arrived := channel.afterReports reports.length { channel.link with inbound := queue }
      (∃ message, collect assembler channel = .ok message (arrived.countReceived message)) ∨
      (∃ fault, collect assembler channel = .error (.failed (.encoding fault)) arrived.countError) ∨
      queue = [] ∧ collect assembler channel = .error (.failed .connectionClosed) arrived := by
  generalize inbound : channel.link.inbound = reports
  -- The queue bounds the reads, so the induction is on it and not on what the message lacks.
  induction reports generalizing assembler channel with
  | nil =>
      have silent : Link.read channel.readTimeout channel.link =
          .error (.failed .connectionClosed) channel.link := by
        rw [read_eq, inbound]
      have empty : { channel.link with inbound := [] } = channel.link := by
        rw [← inbound]
      refine ⟨[], [], rfl, .inr (.inr ⟨rfl, ?_⟩)⟩
      rw [collect_of_failed silent, empty]
      rfl
  | cons report rest hypothesis =>
      have arrived : Link.read channel.readTimeout channel.link =
          .ok report { channel.link with inbound := rest } := by
        rw [read_eq, inbound]
      cases pushed : Reassembler.push report assembler with
      | error error next =>
          obtain ⟨fault, rfl⟩ := Reassembler.encoding_of_push pushed
          exact ⟨[report], rest, rfl, .inr (.inl ⟨fault, collect_of_fault arrived pushed⟩)⟩
      | ok complete next =>
          cases complete with
          | some message =>
              exact ⟨[report], rest, rfl, .inl ⟨message, collect_of_message arrived pushed⟩⟩
          | none =>
              obtain ⟨reports, queue, split, ends⟩ := hypothesis next
                { channel with link := { channel.link with inbound := rest } }.countReport rfl
              rw [collect_of_more arrived pushed]
              refine ⟨report :: reports, queue, ?_, ends⟩
              rw [split, List.cons_append]

theorem moves_receive (channel : Channel MemoryLink) :
    Moves (channel.entry .receive) channel (leaves (Operation.step .receive channel)) := by
  rw [entry, Operation.step, outcome_map, leaves_map]
  obtain ⟨reports, queue, inbound, ends⟩ := collect_eq .idle channel
  rw [Channel.receive]
  obtain ⟨message, arrived⟩ | ⟨fault, arrived⟩ | ⟨rfl, arrived⟩ := ends
  · rw [arrived]
    exact .received inbound
  · rw [arrived]
    exact .garbled inbound
  · rw [arrived]
    exact .exhausted inbound

/-- Every operation on a channel to an idle device is one of these moves. -/
theorem moves_step (operation : Operation) {channel : Channel MemoryLink}
    (idle : channel.link.assembler = .idle) :
    Moves (channel.entry operation) channel (leaves (operation.step channel)) := by
  cases operation with
  | send message => exact moves_send message idle
  | receive => exact moves_receive channel

namespace Moves

variable {entry : Entry} {before after : Channel MemoryLink}

/-- A move does not leave the device inside a message. -/
theorem assembler_eq (moves : Moves entry before after) :
    after.link.assembler = before.link.assembler := by
  cases moves <;> rfl

/-- The device has one message more after a send that succeeded. -/
theorem sent_eq (moves : Moves entry before after) :
    after.link.sent = before.link.sent ++ entry.sent?.toList := by
  cases moves with
  | sent => rfl
  | tooLong | refused | received | garbled | exhausted => exact (List.append_nil _).symm

/-- Every message that reaches the device takes one of its reactions. -/
theorem reactions_eq (moves : Moves entry before after) :
    after.link.reactions = before.link.reactions.drop entry.delivered?.toList.length := by
  cases moves with
  | tooLong long =>
      rw [Entry.delivered?_of_not_framable long]
      rfl
  | sent fits | refused fits =>
      rw [Entry.delivered?_of_framable fits]
      exact List.drop_one.symm
  | received | garbled | exhausted => rfl

/-- A send puts its replies behind the reports that wait. -/
theorem inbound_of_send {message : RawMessage} {result : Except Halt (Option RawMessage)}
    (moves : Moves (.send message, result) before after) :
    ∃ reports, Queued (queuedReplies before.link.reactions [(.send message, result)]) reports ∧
      after.link.inbound = before.link.inbound ++ reports := by
  rw [queuedReplies_singleton]
  cases moves with
  | tooLong long =>
      rw [Entry.delivered?_of_not_framable long]
      exact ⟨[], .nil, (List.append_nil _).symm⟩
  | sent fits succeeds replied =>
      rw [Entry.delivered?_of_framable fits]
      exact ⟨_, replied, rfl⟩
  | refused fits fails replied =>
      rw [Entry.delivered?_of_framable fits]
      exact ⟨_, replied, rfl⟩

/-- When all replies can be framed, those to the sends that succeeded are all that is queued. -/
theorem queuedReplies_eq (moves : Moves entry before after)
    (framable : ∀ reaction ∈ before.link.reactions, reaction.Framable) :
    queuedReplies before.link.reactions [entry] = replies before.link.reactions [entry] := by
  rw [queuedReplies_singleton, replies, deliveries, filterMap_cons_eq, List.filterMap_nil,
    List.append_nil]
  cases moves with
  | tooLong long =>
      rw [Entry.delivered?_of_not_framable long]
      rfl
  | sent fits succeeds =>
      rw [Entry.delivered?_of_framable fits]
      cases reactions : before.link.reactions with
      | nil => rfl
      | cons reaction rest =>
          rw [reactions] at succeeds
          have whole : reaction.queued = reaction.batch := Reaction.queued_of_succeeds succeeds
          change reaction.queued ++ [] = reaction.batch ++ []
          rw [whole]
  | refused fits fails =>
      rw [Entry.delivered?_of_framable fits]
      cases reactions : before.link.reactions with
      | nil => rfl
      | cons reaction rest =>
          rw [reactions] at fails framable
          have nothing : reaction.queued = [] :=
            Reaction.queued_of_fails (framable reaction List.mem_cons_self) fails
          change reaction.queued ++ [] = []
          rw [nothing]
          rfl
  | received | garbled | exhausted => rfl

end Moves

/-! ## Operations in a row -/

section Idle

variable (operations : List Operation) {channel : Channel MemoryLink}
  (idle : channel.link.assembler = .idle)
include idle

theorem assembler_afterOperations :
    (channel.afterOperations operations).link.assembler = .idle := by
  induction operations generalizing channel with
  | nil => exact idle
  | cons operation rest hypothesis =>
      exact hypothesis ((moves_step operation idle).assembler_eq.trans idle)

theorem sent_afterOperations :
    (channel.afterOperations operations).link.sent =
      channel.link.sent ++ sent (channel.traffic operations) := by
  induction operations generalizing channel with
  | nil => exact (List.append_nil _).symm
  | cons operation rest hypothesis =>
      have moves := moves_step operation idle
      rw [afterOperations_cons, hypothesis (moves.assembler_eq.trans idle), moves.sent_eq,
        traffic_cons, sent, sent, filterMap_cons_eq, List.append_assoc]

/-- When all replies can be framed, those to the sends that succeeded are all that is queued. -/
theorem queuedReplies_traffic
    (framable : ∀ reaction ∈ channel.link.reactions, reaction.Framable) :
    queuedReplies channel.link.reactions (channel.traffic operations) =
      replies channel.link.reactions (channel.traffic operations) := by
  induction operations generalizing channel with
  | nil => rfl
  | cons operation rest hypothesis =>
      have moves := moves_step operation idle
      have others := hypothesis (moves.assembler_eq.trans idle) (by
        rw [moves.reactions_eq]
        intro reaction member
        exact framable reaction (List.mem_of_mem_drop member))
      rw [moves.reactions_eq] at others
      rw [traffic_cons, queuedReplies_cons, replies_cons, moves.queuedReplies_eq framable, others]

/-- A receive takes the first message that waits, and a send adds its replies behind the
others. -/
theorem queued_step (operation : Operation) {waiting : List RawMessage}
    (queued : Queued waiting channel.link.inbound) :
    ∃ pending, Queued pending (leaves (operation.step channel)).link.inbound ∧
      (channel.entry operation).received?.toList ++ pending =
        waiting ++ queuedReplies channel.link.reactions [channel.entry operation] := by
  cases operation with
  | send message =>
      obtain ⟨reports, replied, inbound⟩ := (moves_send message idle).inbound_of_send
      refine ⟨_, ?_, List.nil_append _⟩
      rw [inbound]
      exact queued.append replied
  | receive =>
      have nothing : queuedReplies channel.link.reactions [channel.entry .receive] = [] := by
        rw [queuedReplies_singleton]
        rfl
      rw [nothing, List.append_nil, entry, Operation.step, outcome_map, leaves_map]
      generalize inbound : channel.link.inbound = reports at queued
      cases queued with
      | nil =>
          rw [receive_nil inbound]
          refine ⟨[], ?_, rfl⟩
          change Queued [] channel.link.inbound
          rw [inbound]
          exact .nil
      | cons framed others =>
          rw [receive_packetize framed inbound]
          exact ⟨_, others, rfl⟩

theorem queued_afterOperations {waiting : List RawMessage}
    (queued : Queued waiting channel.link.inbound) :
    ∃ pending, Queued pending (channel.afterOperations operations).link.inbound ∧
      received (channel.traffic operations) ++ pending =
        waiting ++ queuedReplies channel.link.reactions (channel.traffic operations) := by
  induction operations generalizing channel waiting with
  | nil => exact ⟨waiting, queued, (List.append_nil _).symm⟩
  | cons operation rest hypothesis =>
      have moves := moves_step operation idle
      obtain ⟨middle, between, first⟩ := queued_step idle operation queued
      -- The other operations start from the messages that wait now and the reactions left.
      obtain ⟨pending, left, others⟩ := hypothesis (moves.assembler_eq.trans idle) between
      refine ⟨pending, left, ?_⟩
      rw [moves.reactions_eq] at others
      rw [traffic_cons, received, filterMap_cons_eq, List.append_assoc, ← received, others,
        ← List.append_assoc, first, List.append_assoc, ← queuedReplies_cons]

end Idle

/-- Whatever the host does on a channel over a device in memory, messages are carried whole
and in order.  The device has the messages of the sends that succeeded and is not inside a
message; what was received, followed by what waits, is what waited at first, followed by what
was queued in reply; and a receive from an empty queue changes nothing.  Replies that fit
their report headers are queued exactly for the sends that succeed. -/
theorem carries_in_order {queue : List RawMessage} {reports : List Report}
    (queued : Queued queue reports) (reactions : List Reaction) (writeTimeout : Nat)
    (readTimeout : Deadline) (operations : List Operation) :
    let first := ofLink (.ofQueue reports reactions) writeTimeout readTimeout
    let traffic := first.traffic operations
    let last := first.afterOperations operations
    last.link.sent = sent traffic ∧
    last.link.assembler = .idle ∧
    (∃ pending, Queued pending last.link.inbound ∧
      received traffic ++ pending = queue ++ queuedReplies reactions traffic ∧
      ((∀ reaction ∈ reactions, reaction.Framable) →
        received traffic ++ pending = queue ++ replies reactions traffic)) ∧
    (last.link.inbound = [] →
      Channel.receive last = .error (.failed .connectionClosed) last) := by
  intro first traffic last
  have idle : first.link.assembler = .idle := rfl
  obtain ⟨pending, left, carried⟩ := queued_afterOperations operations idle queued
  refine ⟨sent_afterOperations operations idle, assembler_afterOperations operations idle,
    ⟨pending, left, carried, ?_⟩, receive_nil⟩
  intro framable
  exact carried.trans (congrArg (queue ++ ·) (queuedReplies_traffic operations idle framable))

/-- A message that waits from the start. -/
def early : RawMessage := ⟨2, List.replicate 70 1⟩

/-- A device that fails at the second message. -/
def failsOnce : List Reaction :=
  [.ok [⟨3, [7]⟩, ⟨4, []⟩], .error .connectionClosed, .ok [⟨5, List.replicate 60 8⟩]]

/-- The second message is sent again when it has failed. -/
def retries : List Operation :=
  [.send ⟨0, []⟩, .receive, .send ⟨1, List.replicate 100 9⟩, .receive,
    .send ⟨1, List.replicate 100 9⟩, .receive]

theorem carries_in_order_of_retries :
    ∃ reports, Queued [early] reports ∧
      let last := (ofLink (.ofQueue reports failsOnce) defaultWriteTimeout none).afterOperations
        retries
      last.link.sent = [⟨0, []⟩, ⟨1, List.replicate 100 9⟩] ∧
      ∃ pending, Queued pending last.link.inbound ∧
        early :: ⟨3, [7]⟩ :: ⟨4, []⟩ :: pending =
          [early, ⟨3, [7]⟩, ⟨4, []⟩, ⟨5, List.replicate 60 8⟩] := by
  have queued : Queued [early] (_ ++ []) := .cons rfl .nil
  obtain ⟨taken, _, ⟨pending, left, carried, _⟩, _⟩ :=
    carries_in_order queued failsOnce defaultWriteTimeout none retries
  refine ⟨_, queued, taken.trans ?_, pending, left, Eq.trans ?_ (carried.trans ?_)⟩
  · decide +kernel
  · change [early, ⟨3, [7]⟩, ⟨4, []⟩] ++ pending = _
    refine congrArg (· ++ pending) ?_
    decide +kernel
  · decide +kernel

end Channel
end SecurityKey
