import SecurityKey.Digest
import SecurityKey.Proofs.Link.Stream
import SecurityKey.Proofs.Session.Indistinct
import SecurityKey.Proofs.Session.Queued

/-!
# Two ways to the same device

Reports may wait in a device in memory, or come over a byte stream that cuts them, and what is
written to it, at any places.  A session cannot tell which (`run_over_stream`): it comes to
the same result, shows and asks the same, counts the same and stops in the same stage.  What
is left in the stream are the bytes of the reports that are left in memory, and what was
written to it are the reports of the messages that the device in memory has taken.

The two channels are held against each other by `Channel.Mirrors`.  One read and one send
keep it, a receive by induction on the reports that it reads, and a session because no use
of a channel tells the two apart (`indistinct_mirrors`).
-/

set_option autoImplicit false

namespace SecurityKey

/-! ## Streams that keep nobody waiting -/

/-- A stream that gives and takes bytes at once, in pieces that are not empty, and is closed
when all has been read. -/
structure ByteStream.Smooth (stream : ByteStream) : Prop where
  closes : stream.atEnd = .closed
  immediate : stream.readDelay = 0
  ready : stream.waiting = none
  roomy : stream.room = none
  readable : ∀ piece ∈ stream.readPiece, 0 < piece
  writable : ∀ piece ∈ stream.writePiece, 0 < piece

namespace StreamLink

/-- A link over the same stream, with other bytes to be read and other bytes taken. -/
def carrying (input written : Bytes) (link : StreamLink) : StreamLink :=
  { link with stream := { link.stream with input, written } }

variable {link : StreamLink} (smooth : link.stream.Smooth) (input written : Bytes)
  (deadline : Deadline)
include smooth

theorem read_carrying (report : Report) :
    Link.read deadline (link.carrying (report.bytes ++ input) written) =
      .ok report (link.carrying input written) := by
  have reads := @ByteStream.reads_of_prompt { link.stream with written } smooth.ready
    smooth.immediate smooth.readable reportSize deadline
  rw [read_eq, carrying, reads report.bytes input report.length_bytes]
  dsimp only
  rw [FixedBytes.ofBytes_bytes]
  rfl

/-- A stream that has nothing left is closed. -/
theorem read_carrying_nil :
    Link.read deadline (link.carrying [] written) =
      .error (.failed .connectionClosed) (link.carrying [] written) := by
  have inTime : deadline.allows 0 = true := by
    cases deadline with
    | none => rfl
    | some limit => exact decide_eq_true (Nat.zero_le limit)
  have nothing : ByteStream.readPart reportSize deadline { link.stream with input := [], written } =
      .ok ([], deadline.after 0) { link.stream with input := [], written } := by
    simp only [ByteStream.readPart, smooth.ready, smooth.immediate, smooth.closes,
      Option.getD_none, inTime, if_true]
  rw [read_eq, carrying, ByteStream.readExactly, if_neg (by decide), nothing]
  rfl

theorem write_carrying (report : Report) :
    Link.write report deadline (link.carrying input written) =
      .ok () (link.carrying input (written ++ report.outgoing link.numbered)) := by
  have wrote := @ByteStream.writeAll_of_roomy { link.stream with input, written } smooth.roomy
    smooth.writable (report.outgoing link.numbered) deadline
  rw [write_eq, carrying, wrote]
  rfl

/-- Reports are taken as they are, one after the other. -/
theorem writeReports_carrying (reports : List Report) (channel : Channel StreamLink) :
    Channel.writeReports reports { channel with link := link.carrying input written } =
      .ok () { channel with link := (link.carrying input
        (written ++ reports.flatMap (Report.outgoing link.numbered))) } := by
  induction reports generalizing written with
  | nil =>
      rw [List.flatMap_nil, List.append_nil]
      rfl
  | cons report rest hypothesis =>
      rw [Channel.writeReports, write_carrying smooth]
      dsimp only
      rw [hypothesis, List.flatMap_cons, List.append_assoc]

end StreamLink

/-- Every report takes 64 bytes of a stream. -/
theorem length_flatMap_bytes (reports : List Report) :
    (reports.flatMap FixedBytes.bytes).length = reportSize * reports.length := by
  induction reports with
  | nil => rfl
  | cons report rest hypothesis =>
      rw [List.flatMap_cons, List.length_append, hypothesis, report.length_bytes,
        List.length_cons, Nat.mul_succ, Nat.add_comm]

/-! ## The two channels -/

namespace Channel

/-- A channel to a device in memory that does not react, and one over a stream like `link`
that brings the same reports and has taken the same messages. -/
structure Mirrors (link : StreamLink) (memory : Channel MemoryLink)
    (stream : Channel StreamLink) : Prop where
  idle : memory.link.assembler = .idle
  silent : memory.link.reactions = []
  carries : ∃ reports, Queued memory.link.sent reports ∧
    stream.link = link.carrying (memory.link.inbound.flatMap FixedBytes.bytes)
      (reports.flatMap (Report.outgoing link.numbered))
  writeTimeout : memory.writeTimeout = stream.writeTimeout
  readTimeout : memory.readTimeout = stream.readTimeout
  metrics : memory.metrics = stream.metrics

namespace Mirrors

variable {link : StreamLink} {memory : Channel MemoryLink} {stream : Channel StreamLink}

/-- What is counted on both sides does not matter. -/
theorem count (mirrors : Mirrors link memory stream) (count : Metrics → Metrics) :
    Mirrors link { memory with metrics := count memory.metrics }
      { stream with metrics := count stream.metrics } :=
  ⟨mirrors.idle, mirrors.silent, mirrors.carries, mirrors.writeTimeout, mirrors.readTimeout,
    congrArg count mirrors.metrics⟩

variable (smooth : link.stream.Smooth)
include smooth

theorem send (mirrors : Mirrors link memory stream) (request : Except Error RawMessage) :
    Alike (Mirrors link) (sendEncoded request memory) (sendEncoded request stream) := by
  cases request with
  | error error => exact .error mirrors
  | ok message =>
      rw [sendEncoded, sendEncoded, Channel.send, Channel.send]
      cases framed : message.packetize with
      | error error => exact .error mirrors
      | ok reports =>
          obtain ⟨before, queued, carries⟩ := mirrors.carries
          have wrote := StreamLink.writeReports_carrying smooth
            (memory.link.inbound.flatMap FixedBytes.bytes)
            (before.flatMap (Report.outgoing link.numbered)) reports stream
          rw [← carries, ← List.flatMap_append] at wrote
          dsimp only
          rw [writeReports_packetize framed mirrors.idle, MemoryLink.react, wrote]
          dsimp only
          rw [mirrors.silent]
          have sent : Mirrors link { memory with link := { memory.link with
                assembler := .idle, reactions := [], sent := memory.link.sent ++ [message]
                reportsWritten := memory.link.reportsWritten + reports.length } }
              { stream with link := (link.carrying (memory.link.inbound.flatMap FixedBytes.bytes)
                ((before ++ reports).flatMap (Report.outgoing link.numbered))) } :=
            ⟨rfl, rfl, ⟨_, queued.concat framed, rfl⟩, mirrors.writeTimeout,
              mirrors.readTimeout, mirrors.metrics⟩
          exact .ok (sent.count _)

/-- Both bring the same next report, or both are closed. -/
theorem read (mirrors : Mirrors link memory stream) :
    Alike (fun first second => Mirrors link { memory with link := first }
        { stream with link := second })
      (Link.read memory.readTimeout memory.link) (Link.read stream.readTimeout stream.link) := by
  obtain ⟨before, queued, carries⟩ := mirrors.carries
  rw [read_eq, carries]
  cases inbound : memory.link.inbound with
  | nil =>
      rw [List.flatMap_nil, StreamLink.read_carrying_nil smooth]
      refine .error ⟨mirrors.idle, mirrors.silent, ⟨before, queued, ?_⟩, mirrors.writeTimeout,
        mirrors.readTimeout, mirrors.metrics⟩
      rw [inbound]
      rfl
  | cons report rest =>
      rw [List.flatMap_cons, StreamLink.read_carrying smooth]
      exact .ok ⟨mirrors.idle, mirrors.silent, ⟨before, queued, rfl⟩, mirrors.writeTimeout,
        mirrors.readTimeout, mirrors.metrics⟩

end Mirrors

/-- No use of a channel tells a device in memory and a smooth stream apart. -/
theorem indistinct_mirrors {link : StreamLink} (smooth : link.stream.Smooth) :
    Indistinct (Mirrors link) where
  send request mirrors := mirrors.send smooth request
  read mirrors := mirrors.read smooth
  countReport mirrors := mirrors.count Metrics.reportReceived
  countReceived message mirrors :=
    mirrors.count (Metrics.messageReceived (UInt64.ofNat message.payload.length))
  countInteraction mirrors := mirrors.count Metrics.interaction
  countError mirrors := mirrors.count Metrics.protocolError

end Channel

/-! ## Sessions -/

namespace Session

/-- A session over a stream that is cut at any places runs as over a device in memory in which
the same reports wait.  The unread bytes are those of the pending reports, and the bytes
written are the reports of the messages that were sent, each behind its report number when
the device expects one. -/
theorem run_over_stream (hash : HashFunction) (mode : Mode) (info : HostInfo) {π : Type}
    [Prompt π] (prompt : π) (writeTimeout : Nat) (readTimeout : Deadline)
    (reports : List Report) (numbered : Bool) (readPiece writePiece : Option Nat)
    (whenFull : StreamFull) (readable : ∀ piece ∈ readPiece, 0 < piece)
    (writable : ∀ piece ∈ writePiece, 0 < piece) :
    let memory := run hash mode (start (.ofLink
      { MemoryLink.ofReactions [] with inbound := reports } writeTimeout readTimeout) prompt info)
    let stream := run hash mode (start (.ofLink
      (⟨⟨reports.flatMap FixedBytes.bytes, .closed, readPiece, 0, none, [], writePiece, none,
        whenFull⟩, numbered⟩ : StreamLink) writeTimeout readTimeout) prompt info)
    outcome stream = outcome memory ∧
    (leaves stream).prompt = (leaves memory).prompt ∧
    (leaves stream).channel.metrics = (leaves memory).channel.metrics ∧
    (leaves stream).stage = (leaves memory).stage ∧
    (leaves stream).channel.link.stream.input.length =
      reportSize * (leaves memory).channel.link.inbound.length ∧
    ∃ written, Queued (leaves memory).channel.link.sent written ∧
      (leaves stream).channel.link.stream.written =
        written.flatMap (Report.outgoing numbered) := by
  intro memory stream
  have smooth : ByteStream.Smooth ⟨reports.flatMap FixedBytes.bytes, .closed, readPiece, 0, none,
      [], writePiece, none, whenFull⟩ := ⟨rfl, rfl, rfl, rfl, readable, writable⟩
  have alike : Alike (Session.Like (Channel.Mirrors ⟨_, numbered⟩)) memory stream :=
    alike_run (Channel.indistinct_mirrors smooth)
      ⟨⟨rfl, rfl, ⟨[], .nil, rfl⟩, rfl, rfl, rfl⟩, rfl, rfl, rfl⟩
  have after := alike.states
  obtain ⟨written, queued, carries⟩ := after.channel.carries
  refine ⟨alike.outcome_eq.symm, after.prompt.symm, after.channel.metrics.symm,
    after.stage.symm, ?_, written, queued, ?_⟩
  · rw [carries]
    exact length_flatMap_bytes _
  · rw [carries]
    rfl

/-- The reports of a device that asks for the PIN and a button, and signs. -/
def signingReports : List Report :=
  (leaves (MemoryLink.queueAll signingMessages (.ofReactions []))).inbound

/-- The signature comes over a stream that gives seven bytes at a time and takes five. -/
theorem run_over_stream_of_signature :
    (∀ piece ∈ some 7, 0 < piece) ∧ (∀ piece ∈ some 5, 0 < piece) ∧
    (outcome (run Digest.sha256 .legacy (start (.ofLink
      (⟨⟨signingReports.flatMap FixedBytes.bytes, .closed, some 7, 0, none, [], some 5, none,
        .refusing⟩, true⟩ : StreamLink) defaultWriteTimeout none)
      (ScriptedPrompt.ofAnswers ["1234"]) ⟨defaultApp, "alice", "vault", ""⟩))).toOption =
        some ⟨List.replicate 64 7⟩ := by
  have readable : ∀ piece ∈ some 7, 0 < piece := by decide
  have writable : ∀ piece ∈ some 5, 0 < piece := by decide
  obtain ⟨same, _⟩ := run_over_stream Digest.sha256 .legacy ⟨defaultApp, "alice", "vault", ""⟩
    (ScriptedPrompt.ofAnswers ["1234"]) defaultWriteTimeout none signingReports true (some 7)
    (some 5) .refusing readable writable
  refine ⟨readable, writable, ?_⟩
  rw [same]
  decide +kernel

end Session
end SecurityKey
