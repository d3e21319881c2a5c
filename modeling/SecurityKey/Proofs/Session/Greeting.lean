import SecurityKey.Proofs.Link.Stream
import SecurityKey.Proofs.Session.Indistinct
import SecurityKey.Proofs.Session.Queued

/-!
# The reply to the start decides nothing

Two sessions for the same host, in the same mode, with the same prompt, whose devices differ
only in the first message that they say, cannot be told apart by anybody who sees what they
come to, what they send and what they show and ask (`run_ignores_greeting`).  The first
messages may be of any kind, known or not, readable or not, and take any number of reports.
Only the counts of the reports and bytes that arrived can tell.

Once the first message has been taken, the two links are the same link (`Greets`).  From
there on the sessions differ at most in these two counts, and no use of a channel reveals
them (`indistinct_sameLink`).
-/

set_option autoImplicit false

namespace SecurityKey

/-! ## Channels that have counted different arrivals -/

namespace Metrics

/-- Counters without what they say about the reports and bytes that arrived. -/
def withoutArrivals (metrics : Metrics) : Metrics :=
  { metrics with reportsReceived := 0, bytesReceived := 0 }

theorem withoutArrivals_reportReceived (count : Nat) (metrics : Metrics) :
    (reportReceived^[count] metrics).withoutArrivals = metrics.withoutArrivals := by
  induction count generalizing metrics with
  | zero => rfl
  | succ count hypothesis => exact hypothesis metrics.reportReceived

end Metrics

namespace Channel

variable {σ : Type}

/-- Channels over the same link that may have counted different arrivals. -/
structure SameLink (first second : Channel σ) : Prop where
  link : first.link = second.link
  writeTimeout : first.writeTimeout = second.writeTimeout
  readTimeout : first.readTimeout = second.readTimeout
  metrics : first.metrics.withoutArrivals = second.metrics.withoutArrivals

namespace SameLink

variable {first second : Channel σ}

theorem countSent (same : SameLink first second) (message : RawMessage) :
    SameLink (first.countSent message) (second.countSent message) :=
  ⟨same.link, same.writeTimeout, same.readTimeout,
    congrArg (Metrics.messageSent _ _) same.metrics⟩

/-- The messages that are counted as received may be of different lengths. -/
theorem countReceived (same : SameLink first second) (message other : RawMessage) :
    SameLink (first.countReceived message) (second.countReceived other) :=
  ⟨same.link, same.writeTimeout, same.readTimeout,
    congrArg (fun metrics : Metrics =>
      { metrics with messagesReceived := metrics.messagesReceived + 1 }) same.metrics⟩

variable [Link σ]

theorem writeReports (same : SameLink first second) (reports : List Report) :
    Alike SameLink (writeReports reports first) (writeReports reports second) := by
  induction reports generalizing first second with
  | nil => exact .ok same
  | cons report rest hypothesis =>
      rw [Channel.writeReports, Channel.writeReports, ← same.link, ← same.writeTimeout]
      cases Link.write report (some first.writeTimeout) first.link with
      | ok _ link => exact hypothesis ⟨rfl, rfl, same.readTimeout, same.metrics⟩
      | error halt link => exact .error ⟨rfl, rfl, same.readTimeout, same.metrics⟩

theorem sendEncoded (same : SameLink first second) (request : Except Error RawMessage) :
    Alike SameLink (sendEncoded request first) (sendEncoded request second) := by
  cases request with
  | error error => exact .error same
  | ok message =>
      rw [Channel.sendEncoded, Channel.sendEncoded, send, send]
      cases message.packetize with
      | error error => exact .error same
      | ok reports =>
          have written := same.writeReports reports
          dsimp only
          generalize Channel.writeReports reports first = left at written ⊢
          generalize Channel.writeReports reports second = right at written ⊢
          cases written with
          | ok after => exact .ok (after.countSent message)
          | error after => exact .error after

theorem read (same : SameLink first second) :
    Alike (fun link other => SameLink { first with link } { second with link := other })
      (Link.read first.readTimeout first.link) (Link.read second.readTimeout second.link) := by
  have both : Link.read second.readTimeout second.link =
      Link.read first.readTimeout first.link := by rw [same.link, same.readTimeout]
  rw [both]
  cases Link.read first.readTimeout first.link with
  | ok report link => exact .ok ⟨rfl, same.writeTimeout, same.readTimeout, same.metrics⟩
  | error halt link => exact .error ⟨rfl, same.writeTimeout, same.readTimeout, same.metrics⟩

end SameLink

/-- No use of a channel reveals what arrivals it has counted. -/
theorem indistinct_sameLink [Link σ] : Indistinct (@SameLink σ) where
  send request same := same.sendEncoded request
  read same := same.read
  countReport same := ⟨same.link, same.writeTimeout, same.readTimeout, same.metrics⟩
  countReceived message same := same.countReceived message message
  countInteraction same := ⟨same.link, same.writeTimeout, same.readTimeout,
    congrArg Metrics.interaction same.metrics⟩
  countError same := ⟨same.link, same.writeTimeout, same.readTimeout,
    congrArg Metrics.protocolError same.metrics⟩

/-- Channels that have read some reports each, whatever they are and however many. -/
theorem sameLink_afterReports {first second : Channel σ}
    (writeTimeout : first.writeTimeout = second.writeTimeout)
    (readTimeout : first.readTimeout = second.readTimeout)
    (metrics : first.metrics = second.metrics) (count count' : Nat) (link : σ) :
    SameLink (first.afterReports count link) (second.afterReports count' link) := by
  refine ⟨rfl, writeTimeout, readTimeout, ?_⟩
  simp only [afterReports, Metrics.withoutArrivals_reportReceived, metrics]

end Channel

/-! ## What can be seen of a session -/

/-- Two links that bring one first message each, or fail alike; then what is seen of them is
the same. -/
inductive Link.Greets {σ α : Type} [Link σ] (deadline : Deadline) (seen : σ → α)
    (first second : σ) : Prop where
  /-- Both messages arrive, and the same link is left behind them. -/
  | arrive {reports reports' : List Report} {message message' : RawMessage} {last : σ}
      (completes : Reassembler.Completes .idle reports message)
      (completes' : Reassembler.Completes .idle reports' message')
      (gives : Link.Gives deadline first reports last)
      (gives' : Link.Gives deadline second reports' last)
  /-- Neither arrives. -/
  | fail {halt : Halt} {left right : σ}
      (failed : Link.read deadline first = .error halt left)
      (failed' : Link.read deadline second = .error halt right)
      (same : seen left = seen right)

/-- Channels that differ in nothing but the first message that they bring. -/
structure Channel.GreetAlike {σ α : Type} [Link σ] (seen : σ → α) (first second : Channel σ) :
    Prop where
  writeTimeout : first.writeTimeout = second.writeTimeout
  readTimeout : first.readTimeout = second.readTimeout
  metrics : first.metrics = second.metrics
  greets : Link.Greets first.readTimeout seen first.link second.link

namespace Session

variable {σ π α : Type}

/-- Sessions in which the same can be seen of the link, the same was shown and asked, the
stage is the same, and so are all counters but those of the reports and bytes that arrived. -/
structure SeenAlike (seen : σ → α) (first second : Session σ π) : Prop where
  seen : seen first.channel.link = seen second.channel.link
  prompt : first.prompt = second.prompt
  stage : first.stage = second.stage
  counters : first.channel.metrics.withoutArrivals = second.channel.metrics.withoutArrivals

variable {seen : σ → α} {first second : Session σ π}

theorem SeenAlike.finished (alike : SeenAlike seen first second) :
    SeenAlike seen first.finished second.finished :=
  ⟨alike.seen, alike.prompt, rfl, alike.counters⟩

theorem Like.seenAlike (like : first.Like Channel.SameLink second) :
    SeenAlike seen first second :=
  ⟨congrArg seen like.channel.link, like.prompt, like.stage, like.channel.metrics⟩

variable [FiniteLink σ] [Prompt π] {hash : HashFunction} {mode : Mode}

/-- Whatever the first message is, the handshake answers it with the same move, and from then
on the links are the same. -/
theorem seenAlike_converse (like : first.Like (Channel.GreetAlike seen) second)
    (fresh : first.stage = .handshake) :
    Alike (SeenAlike seen) (converse hash mode first) (converse hash mode second) := by
  obtain ⟨⟨writeTimeout, readTimeout, metrics, greets⟩, prompt, info, stage⟩ := like
  rw [converse_eq first, converse_eq second]
  cases greets with
  | arrive completes completes' gives gives' =>
      have arrived := Channel.collect_of_completes completes gives
      have arrived' := Channel.collect_of_completes completes' (readTimeout ▸ gives')
      have channels := Channel.sameLink_afterReports writeTimeout readTimeout metrics
      have next : Progress.Like Channel.SameLink (round hash mode first) (round hash mode second) :=
        like_round_of_receive Channel.indistinct_sameLink prompt info stage arrived arrived'
          ((channels _ _ _).countReceived _ _) (by rw [fresh]; rfl)
      exact (next.finish Channel.indistinct_sameLink).mono fun _ _ like => like.seenAlike
  | fail failed failed' same =>
      have nothing := @Channel.collect_of_failed _ _ .idle _ _ _ failed
      have nothing' := @Channel.collect_of_failed _ _ .idle _ _ _ (readTimeout ▸ failed')
      rw [round, Channel.receive, nothing, round, Channel.receive, nothing']
      exact .error ⟨same, prompt, stage, congrArg _ metrics⟩

section Opening

variable {before : Channel σ} {change other : σ → σ}
  (unseen : ∀ link, seen (change link) = seen (other link))
  (greets : ∀ next, Channel.sendEncoded HostInfo.opening before = .ok () next →
    Link.Greets next.readTimeout seen (change next.link) (other next.link))
include unseen greets

/-- Two sessions that send the start in the same way, and then differ in nothing but the first
message that arrives, run alike. -/
theorem seenAlike_run {channel channel' : Channel σ}
    (sent : Channel.sendEncoded HostInfo.opening channel =
      restate (Channel.relink change) (Channel.sendEncoded HostInfo.opening before))
    (sent' : Channel.sendEncoded HostInfo.opening channel' =
      restate (Channel.relink other) (Channel.sendEncoded HostInfo.opening before))
    (prompt : π) (info : HostInfo) :
    Alike (SeenAlike seen) (run hash mode (start channel prompt info))
      (run hash mode (start channel' prompt info)) := by
  refine alike_conclude (fun _ _ alike => alike.finished) ?_
  rw [exchange, exchange, send, send, onChannel, onChannel, start, start]
  dsimp only [note, tell]
  rw [sent, sent']
  cases opened : Channel.sendEncoded HostInfo.opening before with
  | error halt next => exact .error ⟨unseen next.link, rfl, rfl, rfl⟩
  | ok _ next =>
      have channels : Channel.GreetAlike seen (next.relink change) (next.relink other) :=
        ⟨rfl, rfl, rfl, greets next opened⟩
      exact seenAlike_converse ⟨channels, rfl, rfl, rfl⟩ rfl

end Opening

/-! ## Over the links -/

section Links

variable {reports reports' : List Report} {message message' : RawMessage}
  (framed : Reassembler.Completes .idle reports message)
  (framed' : Reassembler.Completes .idle reports' message')
  (writeTimeout : Nat) (readTimeout : Deadline) (prompt : π) (info : HostInfo)
include framed framed'

/-- The first message waits in a device before the session starts. -/
theorem seenAlike_run_waiting (link : MemoryLink) :
    Alike (SeenAlike MemoryLink.sent)
      (run hash mode (start (.ofLink (link.behind reports) writeTimeout readTimeout) prompt info))
      (run hash mode
        (start (.ofLink (link.behind reports') writeTimeout readTimeout) prompt info)) := by
  have sent := fun front => Channel.sendEncoded_of_unnoticed (MemoryLink.unnoticed_behind front)
    HostInfo.opening (.ofLink link writeTimeout readTimeout)
  refine seenAlike_run ?_ ?_ (sent reports) (sent reports') prompt info
  · intro next
    rfl
  · intro next _
    exact .arrive framed framed' (Channel.gives_inbound next.readTimeout reports rfl)
      (Channel.gives_inbound next.readTimeout reports' rfl)

/-- The first message waits in a stream before the session starts. -/
theorem seenAlike_run_stream (link : StreamLink) (ready : link.stream.waiting = none) :
    Alike (SeenAlike fun link : StreamLink => link.stream.written)
      (run hash mode (start (.ofLink (link.behind (reports.flatMap FixedBytes.bytes))
        writeTimeout readTimeout) prompt info))
      (run hash mode (start (.ofLink (link.behind (reports'.flatMap FixedBytes.bytes))
        writeTimeout readTimeout) prompt info)) := by
  have sent := fun front => Channel.sendEncoded_of_unnoticed (StreamLink.unnoticed_behind front)
    HostInfo.opening (.ofLink link writeTimeout readTimeout)
  refine seenAlike_run ?_ ?_ (sent _) (sent _) prompt info
  · intro next
    rfl
  · intro next opened
    have still : next.link.stream.waiting = none :=
      (StreamLink.waiting_sendEncoded opened).trans ready
    obtain ⟨verdict, reads⟩ := ByteStream.exists_reads still reportSize next.readTimeout
    cases verdict with
    | ok _ =>
        exact .arrive framed framed' (StreamLink.gives_behind reads reports)
          (StreamLink.gives_behind reads reports')
    | error halt =>
        obtain ⟨first, rest, rfl⟩ := framed.exists_cons
        obtain ⟨first', rest', rfl⟩ := framed'.exists_cons
        obtain ⟨left, failed, kept⟩ := StreamLink.read_behind_of_error reads first rest
        obtain ⟨right, failed', kept'⟩ := StreamLink.read_behind_of_error reads first' rest'
        exact .fail failed failed' (kept.trans kept'.symm)

omit framed framed' in
/-- A device that replies to the start has its replies to give behind what was waiting. -/
theorem sendEncoded_opening_of_queued {replies : List RawMessage} {queue : List Report}
    (queued : Queued replies queue) (inbound : List Report) (reactions : List Reaction) :
    Channel.sendEncoded HostInfo.opening (.ofLink
        { MemoryLink.ofReactions (.ok replies :: reactions) with inbound }
        writeTimeout readTimeout) =
      restate (Channel.relink (MemoryLink.behind (inbound ++ queue)))
        (Channel.sendEncoded HostInfo.opening (.ofLink
          (MemoryLink.ofReactions (.ok [] :: reactions)) writeTimeout readTimeout)) := by
  have encoded : HostInfo.opening = .ok ⟨MessageKind.initializeDevice.id, []⟩ := rfl
  have split : RawMessage.packetize ⟨MessageKind.initializeDevice.id, []⟩ = .ok _ :=
    if_pos (Nat.zero_le _)
  rw [encoded, Channel.sendEncoded, Channel.sendEncoded, Channel.send, Channel.send, split]
  dsimp only
  rw [Channel.writeReports_packetize split rfl, Channel.writeReports_packetize split rfl,
    MemoryLink.react, MemoryLink.react]
  dsimp only [MemoryLink.ofReactions, Channel.ofLink]
  rw [queueAll_of_queued queued, queueAll_of_queued .nil]
  simp only [Channel.afterLink, restate, Channel.relink, MemoryLink.behind, MemoryLink.record,
    Channel.countSent, List.append_nil]

/-- The first message is what a device replies to the start, or the end of it when some of its
reports are waiting already. -/
theorem seenAlike_run_replied {inbound inbound' queue queue' rest : List Report}
    {replies replies' : List RawMessage} (reactions : List Reaction)
    (queued : Queued replies queue) (queued' : Queued replies' queue')
    (arrives : inbound ++ queue = reports ++ rest)
    (arrives' : inbound' ++ queue' = reports' ++ rest) :
    Alike (SeenAlike MemoryLink.sent)
      (run hash mode (start (.ofLink
        { MemoryLink.ofReactions (.ok replies :: reactions) with inbound }
        writeTimeout readTimeout) prompt info))
      (run hash mode (start (.ofLink
        { MemoryLink.ofReactions (.ok replies' :: reactions) with inbound := inbound' }
        writeTimeout readTimeout) prompt info)) := by
  have sent := sendEncoded_opening_of_queued writeTimeout readTimeout queued inbound reactions
  have sent' := sendEncoded_opening_of_queued writeTimeout readTimeout queued' inbound' reactions
  rw [arrives] at sent
  rw [arrives'] at sent'
  refine seenAlike_run ?_ ?_ sent sent' prompt info
  · intro next
    rfl
  · intro next _
    have gives : ∀ front : List Report, Link.Gives next.readTimeout
        (next.link.behind (front ++ rest)) front (next.link.behind rest) := by
      intro front
      exact Channel.gives_inbound next.readTimeout front
        (List.append_assoc front rest next.link.inbound)
    exact .arrive framed framed' (gives reports) (gives reports')

end Links

/-- Two sessions for the same host, in the same mode and with the same user, over devices that
differ only in the first message that they say, come to the same result.  They take the same
messages from the host, show and ask the same, stop in the same stage and have the same
counters but those of the reports and bytes that arrived.  The first message waits before the
session starts, or is what the device replies to the start, or comes over a stream. -/
theorem run_ignores_greeting (hash : HashFunction) (mode : Mode) (info : HostInfo)
    {π : Type} [Prompt π] (prompt : π) (writeTimeout : Nat) (readTimeout : Deadline)
    {reports reports' : List Report} {message message' : RawMessage}
    (framed : Reassembler.Completes .idle reports message)
    (framed' : Reassembler.Completes .idle reports' message') :
    (∀ link : MemoryLink, Alike (SeenAlike MemoryLink.sent)
      (run hash mode (start (.ofLink (link.behind reports) writeTimeout readTimeout) prompt info))
      (run hash mode
        (start (.ofLink (link.behind reports') writeTimeout readTimeout) prompt info))) ∧
    (∀ (inbound inbound' queue queue' rest : List Report) (replies replies' : List RawMessage)
      (reactions : List Reaction), Queued replies queue → Queued replies' queue' →
      inbound ++ queue = reports ++ rest → inbound' ++ queue' = reports' ++ rest →
      Alike (SeenAlike MemoryLink.sent)
        (run hash mode (start (.ofLink
          { MemoryLink.ofReactions (.ok replies :: reactions) with inbound }
          writeTimeout readTimeout) prompt info))
        (run hash mode (start (.ofLink
          { MemoryLink.ofReactions (.ok replies' :: reactions) with inbound := inbound' }
          writeTimeout readTimeout) prompt info))) ∧
    (∀ link : StreamLink, link.stream.waiting = none →
      Alike (SeenAlike fun link : StreamLink => link.stream.written)
        (run hash mode (start (.ofLink (link.behind (reports.flatMap FixedBytes.bytes))
          writeTimeout readTimeout) prompt info))
        (run hash mode (start (.ofLink (link.behind (reports'.flatMap FixedBytes.bytes))
          writeTimeout readTimeout) prompt info))) := by
  refine ⟨?_, ?_, ?_⟩
  · intro link
    exact seenAlike_run_waiting framed framed' writeTimeout readTimeout prompt info link
  · intro inbound inbound' queue queue' rest replies replies' reactions queued queued'
    exact seenAlike_run_replied framed framed' writeTimeout readTimeout prompt info reactions
      queued queued'
  · intro link ready
    exact seenAlike_run_stream framed framed' writeTimeout readTimeout prompt info link ready

/-- A failure whose payload breaks off inside its first field. -/
def unreadableFailure : RawMessage := ⟨MessageKind.failure.id, [0x08]⟩

/-- A message of no known kind that takes two reports. -/
def longUnknown : RawMessage := ⟨40000, List.replicate 100 0⟩

/-- A signature is given in the same way after either of the two: by a device that replies,
and over a stream that gives seven bytes at a time and takes five. -/
theorem run_ignores_unreadable_failure :
    ∃ reports reports' queue,
      unreadableFailure.packetize = .ok reports ∧ longUnknown.packetize = .ok reports' ∧
      Queued signingMessages.tail queue ∧
      Alike (SeenAlike MemoryLink.sent)
        (run Digest.sha256 .legacy (start (.ofLink
          (.ofReactions [.ok (unreadableFailure :: signingMessages.tail)])
          defaultWriteTimeout none) (ScriptedPrompt.ofAnswers ["1234"])
          ⟨defaultApp, "alice", "vault", ""⟩))
        (run Digest.sha256 .legacy (start (.ofLink
          (.ofReactions [.ok (longUnknown :: signingMessages.tail)])
          defaultWriteTimeout none) (ScriptedPrompt.ofAnswers ["1234"])
          ⟨defaultApp, "alice", "vault", ""⟩)) ∧
      Alike (SeenAlike fun link : StreamLink => link.stream.written)
        (run Digest.sha256 .legacy (start (.ofLink
          ⟨⟨(reports ++ queue).flatMap FixedBytes.bytes, .closed, some 7, 0, none, [],
            some 5, none, .refusing⟩, true⟩
          defaultWriteTimeout none) (ScriptedPrompt.ofAnswers ["1234"])
          ⟨defaultApp, "alice", "vault", ""⟩))
        (run Digest.sha256 .legacy (start (.ofLink
          ⟨⟨(reports' ++ queue).flatMap FixedBytes.bytes, .closed, some 7, 0, none, [],
            some 5, none, .refusing⟩, true⟩
          defaultWriteTimeout none) (ScriptedPrompt.ofAnswers ["1234"])
          ⟨defaultApp, "alice", "vault", ""⟩)) := by
  have short : unreadableFailure.packetize = .ok _ := if_pos (by decide)
  have long : longUnknown.packetize = .ok _ := if_pos (by decide)
  obtain ⟨queue, queued⟩ : ∃ queue, Queued signingMessages.tail queue :=
    ⟨_, .cons rfl (.cons rfl (.cons rfl .nil))⟩
  refine ⟨_, _, queue, short, long, queued, ?_⟩
  obtain ⟨_, replied, streamed⟩ := run_ignores_greeting Digest.sha256 .legacy
    ⟨defaultApp, "alice", "vault", ""⟩ (ScriptedPrompt.ofAnswers ["1234"]) defaultWriteTimeout
    none (Reassembler.completes_packetize short) (Reassembler.completes_packetize long)
  refine ⟨replied [] [] _ _ queue _ _ [] (.cons short queued) (.cons long queued) rfl rfl, ?_⟩
  rw [List.flatMap_append, List.flatMap_append]
  exact streamed ⟨⟨queue.flatMap FixedBytes.bytes, .closed, some 7, 0, none, [], some 5, none,
    .refusing⟩, true⟩ rfl

end Session
end SecurityKey
