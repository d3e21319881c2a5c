import SecurityKey.Proofs.Link.Stream
import SecurityKey.Proofs.Link.Tally

/-!
# Sends that are interrupted

A byte stream with little room takes what it has room for and no more, wherever in a report this
ends.  So whatever is sent on a channel over it, the stream has taken the front of the bytes of
all reports, as long as its room (`written_of_sends`).  A send succeeds exactly when all bytes
up to its end are within the room, and only these sends are counted.

A stream that has been given some bytes stands to what it was before in one way, whether they
were all taken or not (`ByteStream.Fed`), and the bytes of several writes may be given at once
(`Fed.trans`).  Reports behind one that failed are not written any more, but a stream that is
full would take nothing of them (`Fed.of_full`).  So one law for a write of some bytes
(`writeAll_fed`) is lifted to the reports of a message (`writeReports_fed`), to one send
(`sendEncoded_fed`) and to all sends (`fed_of_sends`).
-/

set_option autoImplicit false

namespace SecurityKey

/-! ## Streams with little room -/

/-- How a write fails on a stream that takes no more bytes, when it has a deadline. -/
def StreamFull.fault : StreamFull → Error
  | refusing => .system .writeZero
  | silent => .timeout
  | broken => .system (.reported "write failed")

namespace ByteStream

/-- Whether a stream has room for some bytes. -/
def HasRoom (stream : ByteStream) (size : Nat) : Prop := ∀ room ∈ stream.room, size ≤ room

instance (stream : ByteStream) (size : Nat) : Decidable (stream.HasRoom size) :=
  inferInstanceAs (Decidable (∀ room ∈ stream.room, size ≤ room))

/-- A stream that has been given some bytes: it has taken as many as it had room for. -/
structure Fed (bytes : Bytes) (before after : ByteStream) : Prop where
  written : after.written = before.written ++ bytes.take (cut before.room bytes.length)
  room : after.room = before.room.map (· - bytes.length)
  writePiece : after.writePiece = before.writePiece
  whenFull : after.whenFull = before.whenFull

variable {stream middle after : ByteStream} {bytes more : Bytes}

theorem hasRoom_zero (stream : ByteStream) : stream.HasRoom 0 := fun _ _ => Nat.zero_le _

theorem HasRoom.mono {small large : Nat} (fits : stream.HasRoom large) (fewer : small ≤ large) :
    stream.HasRoom small := fun room limit => Nat.le_trans fewer (fits room limit)

theorem take_append_cut (limit : Option Nat) (bytes more : Bytes) :
    (bytes ++ more).take (cut limit (bytes ++ more).length) =
      bytes.take (cut limit bytes.length) ++
        more.take (cut (limit.map (· - bytes.length)) more.length) := by
  cases limit with
  | none => rw [Option.map_none, cut_none, cut_none, cut_none, List.take_length, List.take_length,
      List.take_length]
  | some room =>
      change (bytes ++ more).take (min room (bytes ++ more).length) =
        bytes.take (min room bytes.length) ++ more.take (min (room - bytes.length) more.length)
      have front : bytes.take (min room (bytes.length + more.length)) =
          bytes.take (min room bytes.length) := by
        rw [List.take_eq_take_iff]
        omega
      have behind : min room (bytes.length + more.length) - bytes.length =
          min (room - bytes.length) more.length := by omega
      rw [List.length_append, List.take_append, front, behind]

namespace Fed

theorem refl (stream : ByteStream) : Fed [] stream stream := by
  refine ⟨?_, ?_, rfl, rfl⟩
  · rw [List.take_nil, List.append_nil]
  · cases stream.room with
    | none => rfl
    | some room => rfl

/-- What there is room for behind the bytes, unless they were too many and nothing follows. -/
theorem hasRoom_iff (fed : Fed bytes stream after) {size : Nat}
    (fits : size = 0 → stream.HasRoom bytes.length) :
    after.HasRoom size ↔ stream.HasRoom (bytes.length + size) := by
  rw [HasRoom, HasRoom, fed.room]
  cases limit : stream.room with
  | none => exact iff_of_true nofun nofun
  | some room =>
      have within : size = 0 → bytes.length ≤ room := fun none => fits none room limit
      change (∀ left, _ = _ → _) ↔ ∀ left, _ = _ → _
      simp only [Option.map_some, Option.some.injEq, forall_eq']
      omega

/-- Bytes that are given behind others. -/
theorem trans (first : Fed bytes stream middle) (second : Fed more middle after) :
    Fed (bytes ++ more) stream after where
  written := by
    rw [second.written, first.written, first.room, take_append_cut, List.append_assoc]
  room := by
    rw [second.room, first.room, Option.map_map, List.length_append]
    congr 1
    funext room
    exact Nat.sub_sub _ _ _
  writePiece := second.writePiece.trans first.writePiece
  whenFull := second.whenFull.trans first.whenFull

theorem full (fed : Fed bytes stream after) (beyond : ¬stream.HasRoom bytes.length) :
    after.room = some 0 := by
  simp only [HasRoom, not_forall, Nat.not_le] at beyond
  obtain ⟨room, limit, short⟩ := beyond
  rw [fed.room, Option.mem_def.mp limit, Option.map_some]
  exact congrArg some (Nat.sub_eq_zero_of_le (Nat.le_of_lt short))

/-- A stream that is full takes nothing of some bytes. -/
theorem of_full (full : stream.room = some 0) (idle : Fed [] stream after) (bytes : Bytes) :
    Fed bytes stream after where
  written := by
    have nothing : ∀ size, cut stream.room size = 0 := by
      intro size
      rw [full]
      exact Nat.zero_min size
    rw [idle.written, nothing, nothing]
    rfl
  room := by
    rw [idle.room, full, Option.map_some, Option.map_some, Nat.zero_sub, Nat.zero_sub]
  writePiece := idle.writePiece
  whenFull := idle.whenFull

end Fed

/-! ## Writing to them -/

section Write

variable {limit length : Nat}

theorem writePart_eq_error {halt : Halt}
    (failed : writePart bytes (some limit) stream = .error halt after) :
    cut stream.room (cut stream.writePiece bytes.length) = 0 ∧
      halt = .failed stream.whenFull.fault ∧ Fed [] stream after := by
  simp only [writePart] at failed
  split at failed
  · rename_i none
    refine ⟨none, ?_⟩
    have same := Fed.refl stream
    split at failed
    · cases failed
    · rename_i silent
      cases failed
      rw [silent]
      exact ⟨rfl, ⟨same.written, same.room, rfl, rfl⟩⟩
    · rename_i broken
      cases failed
      rw [broken]
      exact ⟨rfl, same⟩
  · cases failed

theorem writePart_eq_ok (wrote : writePart bytes (some limit) stream = .ok length after) :
    length = cut stream.room (cut stream.writePiece bytes.length) ∧
      (length = 0 → stream.whenFull = .refusing) ∧ stream.HasRoom (bytes.take length).length ∧
      Fed (bytes.take length) stream after := by
  simp only [writePart] at wrote
  split at wrote
  · rename_i none
    split at wrote
    · rename_i refusing
      cases wrote
      exact ⟨none.symm, fun _ => refusing, hasRoom_zero stream, .refl stream⟩
    · cases wrote
    · cases wrote
  · rename_i some
    cases wrote
    have within : cut stream.room (cut stream.writePiece bytes.length) ≤ bytes.length :=
      Nat.le_trans (cut_le _ _) (cut_le _ _)
    generalize taken : cut stream.room (cut stream.writePiece bytes.length) = length at within some
    have size : (bytes.take length).length = length := List.length_take_of_le within
    have room : stream.HasRoom length := by
      intro room limit
      rw [← taken, limit]
      exact Nat.min_le_left _ _
    have all : cut stream.room length = length := by
      cases limit : stream.room with
      | none => rfl
      | some room' => exact Nat.min_eq_right (room room' limit)
    refine ⟨rfl, fun none => absurd none some, size.symm ▸ room, ?_, ?_, rfl, rfl⟩
    · rw [size, all, List.take_take, Nat.min_self]
    · rw [size]

/-- A stream that takes none of some bytes is full. -/
theorem full_of_none_taken (filled : bytes ≠ []) (pieces : ∀ piece ∈ stream.writePiece, 0 < piece)
    (none : cut stream.room (cut stream.writePiece bytes.length) = 0) :
    stream.room = some 0 ∧ ¬stream.HasRoom bytes.length := by
  have positive := List.length_pos_iff.mpr filled
  have asked := cut_pos pieces positive
  cases limit : stream.room with
  | none =>
      rw [limit, cut_none] at none
      exact absurd none (Nat.ne_of_gt asked)
  | some room =>
      rw [limit] at none
      have empty : room = 0 := by
        change min room _ = 0 at none
        omega
      subst empty
      exact ⟨rfl, fun fits => Nat.not_lt_zero _ (Nat.lt_of_lt_of_le positive (fits 0 limit))⟩

/-- What is written to a stream is given to it, and this succeeds exactly when the stream has
room for all of it. -/
theorem writeAll_fed (limit : Nat) (bytes : Bytes) (stream : ByteStream)
    (pieces : ∀ piece ∈ stream.writePiece, 0 < piece) :
    Fed bytes stream (leaves (writeAll bytes (some limit) stream)) ∧
      outcome (writeAll bytes (some limit) stream) =
        if stream.HasRoom bytes.length then .ok () else .error (.failed stream.whenFull.fault) := by
  fun_induction writeAll bytes (some limit) stream with
  | case1 stream => exact ⟨.refl stream, (if_pos (hasRoom_zero stream)).symm⟩
  | case2 bytes stream filled halt left failed =>
      obtain ⟨none, rfl, idle⟩ := writePart_eq_error failed
      obtain ⟨empty, beyond⟩ := full_of_none_taken filled pieces none
      exact ⟨.of_full empty idle bytes, (if_neg beyond).symm⟩
  | case3 bytes stream filled left wrote =>
      obtain ⟨none, refuses, _, idle⟩ := writePart_eq_ok wrote
      obtain ⟨empty, beyond⟩ := full_of_none_taken filled pieces none.symm
      rw [refuses rfl, if_neg beyond]
      exact ⟨.of_full empty idle bytes, rfl⟩
  | case4 bytes stream filled length left wrote some hypothesis =>
      obtain ⟨_, _, room, first⟩ := writePart_eq_ok wrote
      obtain ⟨others, verdict⟩ := hypothesis (first.writePiece ▸ pieces)
      have whole := first.trans others
      rw [List.take_append_drop] at whole
      have parts : (bytes.take length).length + (bytes.drop length).length = bytes.length := by
        rw [← List.length_append, List.take_append_drop]
      refine ⟨whole, verdict.trans ?_⟩
      simp only [first.whenFull, first.hasRoom_iff fun _ => room, parts]

end Write

end ByteStream

/-! ## Counters -/

/-- The counters when some messages have been sent and nothing else has happened. -/
def Metrics.ofSent (messages : List RawMessage) : Metrics where
  messagesSent := .ofNat messages.length
  messagesReceived := 0
  reportsSent := .ofNat (reportCount messages)
  reportsReceived := 0
  bytesSent := .ofNat (messages.map (·.payload.length)).sum
  bytesReceived := 0
  interactions := 0
  protocolErrors := 0

theorem Metrics.ofSent_append (first second : List RawMessage) :
    ofSent (first ++ second) = (ofSent first).plus (ofSent second) := by
  simp only [ofSent, plus, List.length_append, reportCount_append, List.map_append,
    List.sum_append, UInt64.ofNat_add, UInt64.add_zero]

/-- What is counted of a message that is sent. -/
theorem Metrics.messageSent_eq (message : RawMessage) (metrics : Metrics) :
    metrics.messageSent (.ofNat message.payload.length)
        (.ofNat (Report.count message.payload.length)) = metrics.plus (ofSent [message]) := by
  simp only [messageSent, plus, ofSent, reportCount, List.map_cons, List.map_nil, List.sum_cons,
    List.sum_nil, Nat.add_zero, UInt64.add_zero, List.length_singleton]
  rfl

/-! ## Sending -/

namespace Channel

/-- The reports of what is to be sent, if it has an encoding and is not too long for a report
header. -/
def framed (request : Except Error RawMessage) : Except Error (List Report) :=
  request.bind RawMessage.packetize

/-- The bytes that are written for what is to be sent, each report behind its number when the
device expects one. -/
def outgoing (numbered : Bool) (request : Except Error RawMessage) : Bytes :=
  match framed request with
  | .ok reports => reports.flatMap (Report.outgoing numbered)
  | .error _ => []

/-- The message of a send that succeeded. -/
def accepted? : Except Error RawMessage → Except Halt Unit → Option RawMessage
  | .ok message, .ok () => some message
  | _, _ => none

/-- What a send comes to when there is room for some bytes. -/
def verdict (stream : ByteStream) (request : Except Error RawMessage) (size : Nat) :
    Except Halt Unit :=
  match framed request with
  | .error error => .error (.failed error)
  | .ok _ => if stream.HasRoom size then .ok () else .error (.failed stream.whenFull.fault)

/-- The messages of the sends that succeed when some of them are tried one after the other. -/
def accepted (requests : List (Except Error RawMessage)) (channel : Channel StreamLink) :
    List RawMessage :=
  (requests.zip (outcomes (requests.map sendEncoded) channel)).filterMap fun attempt =>
    accepted? attempt.1 attempt.2

theorem accepted_cons (request : Except Error RawMessage) (rest : List (Except Error RawMessage))
    (channel : Channel StreamLink) :
    accepted (request :: rest) channel =
      (accepted? request (outcome (sendEncoded request channel))).toList ++
        accepted rest (leaves (sendEncoded request channel)) :=
  filterMap_cons_eq _ _ _

/-- A message has a report, and a report has bytes. -/
theorem length_outgoing_pos {request : Except Error RawMessage} {reports : List Report}
    (fits : framed request = .ok reports) (numbered : Bool) :
    0 < (outgoing numbered request).length := by
  cases request with
  | error error => cases fits
  | ok message =>
      have split : message.packetize = .ok reports := fits
      have some : 0 < reports.length := by
        rw [RawMessage.length_packetize split, Report.count]
        exact Nat.add_pos_left Nat.one_pos _
      obtain ⟨report, rest, rfl⟩ := List.exists_cons_of_length_pos some
      have whole : (report.outgoing numbered).length = if numbered then 65 else 64 := by
        rw [Report.outgoing]
        cases numbered with
        | true => exact congrArg Nat.succ report.length_bytes
        | false => exact report.length_bytes
      rw [outgoing, fits]
      dsimp only
      rw [List.flatMap_cons, List.length_append, whole]
      split <;> omega

/-! ## One send after the other -/

section Sends

variable {channel : Channel StreamLink}
  (pieces : ∀ piece ∈ channel.link.stream.writePiece, 0 < piece)
include pieces

theorem writeReports_fed (reports : List Report) :
    ∃ stream, leaves (writeReports reports channel) =
        { channel with link := { channel.link with stream } } ∧
      channel.link.stream.Fed (reports.flatMap (Report.outgoing channel.link.numbered)) stream ∧
      outcome (writeReports reports channel) =
        if channel.link.stream.HasRoom
            (reports.flatMap (Report.outgoing channel.link.numbered)).length then .ok ()
        else .error (.failed channel.link.stream.whenFull.fault) := by
  induction reports generalizing channel with
  | nil =>
      exact ⟨_, rfl, .refl _, (if_pos (ByteStream.hasRoom_zero _)).symm⟩
  | cons report rest hypothesis =>
      obtain ⟨first, result⟩ := ByteStream.writeAll_fed channel.writeTimeout
        (report.outgoing channel.link.numbered) channel.link.stream pieces
      rw [writeReports, StreamLink.write_eq, List.flatMap_cons, List.length_append]
      cases wrote : ByteStream.writeAll (report.outgoing channel.link.numbered)
          (some channel.writeTimeout) channel.link.stream with
      | ok written left =>
          rw [wrote] at first result
          have fits : channel.link.stream.HasRoom
              (report.outgoing channel.link.numbered).length := by
            by_contra beyond
            rw [if_neg beyond] at result
            cases result
          have room : ∀ size, left.HasRoom size ↔ channel.link.stream.HasRoom
              ((report.outgoing channel.link.numbered).length + size) :=
            fun _ => first.hasRoom_iff fun _ => fits
          have whenFull : left.whenFull = channel.link.stream.whenFull := first.whenFull
          obtain ⟨stream, last, others, verdict⟩ := @hypothesis
            { channel with link := { channel.link with stream := left } }
            (first.writePiece ▸ pieces)
          refine ⟨stream, last, first.trans others, verdict.trans ?_⟩
          simp only [whenFull, room]
      | error halt left =>
          rw [wrote] at first result
          have beyond : ¬channel.link.stream.HasRoom
              (report.outgoing channel.link.numbered).length := by
            intro fits
            rw [if_pos fits] at result
            cases result
          rw [if_neg beyond] at result
          refine ⟨left, rfl, first.trans (.of_full (first.full beyond) (.refl left) _), ?_⟩
          rw [if_neg fun fits => beyond (fits.mono (Nat.le_add_right _ _))]
          exact result

/-- A send gives the bytes of its reports to the stream, and this succeeds exactly when there are
any and there is room for all of them.  Only then it is counted. -/
theorem sendEncoded_fed (request : Except Error RawMessage) :
    ∃ stream, channel.link.stream.Fed (outgoing channel.link.numbered request) stream ∧
      outcome (sendEncoded request channel) =
        verdict channel.link.stream request (outgoing channel.link.numbered request).length ∧
      leaves (sendEncoded request channel) =
        { channel with
          link := { channel.link with stream }
          metrics := channel.metrics.plus
            (.ofSent (accepted? request (outcome (sendEncoded request channel))).toList) } := by
  have uncounted : channel.metrics.plus (.ofSent []) = channel.metrics := Metrics.plus_zero _
  rw [verdict, outgoing]
  cases request with
  | error error =>
      refine ⟨_, .refl _, rfl, ?_⟩
      change _ = { channel with metrics := channel.metrics.plus (.ofSent []) }
      rw [uncounted]
      rfl
  | ok message =>
      have framing : framed (.ok message) = message.packetize := rfl
      rw [framing, sendEncoded, send]
      cases split : message.packetize with
      | error error =>
          refine ⟨_, .refl _, rfl, ?_⟩
          change _ = { channel with metrics := channel.metrics.plus (.ofSent []) }
          rw [uncounted]
          rfl
      | ok reports =>
          obtain ⟨stream, last, fed, result⟩ := writeReports_fed pieces reports
          refine ⟨stream, fed, ?_⟩
          dsimp only
          rw [← result]
          cases wrote : writeReports reports channel with
          | error halt left =>
              rw [wrote] at last
              refine ⟨rfl, last.trans ?_⟩
              change _ = { channel with
                link := { channel.link with stream }, metrics := channel.metrics.plus (.ofSent []) }
              rw [uncounted]
          | ok written left =>
              rw [wrote] at last
              refine ⟨rfl, ?_⟩
              change countSent message left = _
              change left = _ at last
              rw [last, countSent, Metrics.messageSent_eq]
              rfl

/-- All sends give their bytes to the stream one after the other, and those that succeed are
counted. -/
theorem fed_of_sends (requests : List (Except Error RawMessage)) :
    ∃ stream, channel.link.stream.Fed (requests.flatMap (outgoing channel.link.numbered)) stream ∧
      stateAfter (requests.map sendEncoded) channel =
        { channel with
          link := { channel.link with stream }
          metrics := channel.metrics.plus (.ofSent (accepted requests channel)) } := by
  induction requests generalizing channel with
  | nil =>
      refine ⟨_, .refl _, ?_⟩
      change channel = { channel with metrics := channel.metrics.plus Metrics.zero }
      rw [Metrics.plus_zero]
  | cons request rest hypothesis =>
      obtain ⟨between, first, _, left⟩ := sendEncoded_fed pieces request
      obtain ⟨stream, others, last⟩ := @hypothesis (leaves (sendEncoded request channel))
        (by rw [left]; exact first.writePiece ▸ pieces)
      rw [left] at others
      refine ⟨stream, first.trans others, ?_⟩
      change stateAfter (rest.map sendEncoded) (leaves (sendEncoded request channel)) = _
      rw [last, accepted_cons, Metrics.ofSent_append, ← Metrics.plus_assoc]
      generalize accepted rest _ = sent
      rw [left]

/-- On a stream that is full every send fails and writes nothing. -/
theorem refused_of_full (full : channel.link.stream.room = some 0)
    (requests : List (Except Error RawMessage)) :
    (∀ result ∈ outcomes (requests.map sendEncoded) channel, ∃ halt, result = .error halt) ∧
      (stateAfter (requests.map sendEncoded) channel).link.stream.written =
        channel.link.stream.written := by
  induction requests generalizing channel with
  | nil => exact ⟨List.forall_mem_nil _, rfl⟩
  | cons request rest hypothesis =>
      obtain ⟨stream, fed, result, left⟩ := sendEncoded_fed pieces request
      have refused : ∃ halt, outcome (sendEncoded request channel) = .error halt := by
        rw [result, verdict]
        cases framing : framed request with
        | error error => exact ⟨_, rfl⟩
        | ok reports =>
            refine ⟨_, if_neg fun fits => ?_⟩
            exact Nat.not_lt_of_le (fits 0 full)
              (length_outgoing_pos framing channel.link.numbered)
      have still : stream.room = some 0 := by
        rw [fed.room, full]
        exact congrArg some (Nat.zero_sub _)
      have kept : stream.written = channel.link.stream.written := by
        rw [fed.written, full]
        change _ ++ List.take (min 0 _) _ = _
        rw [Nat.zero_min, List.take_zero, List.append_nil]
      obtain ⟨others, last⟩ := @hypothesis (leaves (sendEncoded request channel))
        (by rw [left]; exact fed.writePiece ▸ pieces) (by rw [left]; exact still)
      refine ⟨?_, last.trans (by rw [left]; exact kept)⟩
      intro attempt member
      rcases List.mem_cons.mp member with rfl | later
      · exact refused
      · exact others attempt later

end Sends

/-- Sends leave an exact front of what they were to write.  Whatever is sent on a channel over a
byte stream with pieces that are not empty, the stream has taken the bytes of all reports, in
order, up to its room.  Only the sends that succeed are counted, and the next send succeeds
exactly if it has reports and the bytes up to the end of the last one are within the room; else
it fails in the way of the stream.  When the send of some reports fails, all sends behind it fail
and write nothing. -/
theorem written_of_sends (link : StreamLink) (writeTimeout : Nat) (readTimeout : Deadline)
    (requests : List (Except Error RawMessage))
    (pieces : ∀ piece ∈ link.stream.writePiece, 0 < piece) :
    let first := ofLink link writeTimeout readTimeout
    let last := stateAfter (requests.map sendEncoded) first
    let bytes := requests.flatMap (outgoing link.numbered)
    last.link.stream.written =
        link.stream.written ++ bytes.take (ByteStream.cut link.stream.room bytes.length) ∧
      last.metrics = .ofSent (accepted requests first) ∧
      (∀ request, outcome (sendEncoded request last) =
        verdict link.stream request (bytes ++ outgoing link.numbered request).length) ∧
      ∀ request reports halt, framed request = .ok reports →
        outcome (sendEncoded request last) = .error halt →
          let failed := leaves (sendEncoded request last)
          ∀ others : List (Except Error RawMessage),
            (∀ result ∈ outcomes (others.map sendEncoded) failed,
              ∃ halt, result = .error halt) ∧
            (stateAfter (others.map sendEncoded) failed).link.stream.written =
              failed.link.stream.written := by
  intro first last bytes
  obtain ⟨stream, fed, state⟩ := @fed_of_sends first pieces requests
  have same : last.link.stream = stream := congrArg (·.link.stream) state
  have numbered : last.link.numbered = link.numbered := congrArg (·.link.numbered) state
  rw [← same] at fed
  have asked : ∀ piece ∈ last.link.stream.writePiece, 0 < piece := fed.writePiece ▸ pieces
  refine ⟨fed.written, ?_, ?_, ?_⟩
  · exact (congrArg (·.metrics) state).trans (Metrics.zero_plus _)
  · intro request
    obtain ⟨_, _, result, _⟩ := sendEncoded_fed asked request
    rw [result, numbered, verdict, verdict, fed.whenFull]
    cases framing : framed request with
    | error error => rfl
    | ok reports =>
        have some := length_outgoing_pos framing link.numbered
        simp only [fed.hasRoom_iff fun none => absurd none (Nat.ne_of_gt some),
          List.length_append]
        rfl
  · intro request reports halt framing refused failed others
    obtain ⟨next, given, result, left⟩ := sendEncoded_fed asked request
    rw [refused, verdict, framing] at result
    have beyond : ¬last.link.stream.HasRoom (outgoing last.link.numbered request).length := by
      intro fits
      dsimp only at result
      rw [if_pos fits] at result
      cases result
    refine refused_of_full ?_ ?_ others
    · rw [show failed = _ from left]
      exact given.writePiece ▸ asked
    · rw [show failed = _ from left]
      exact given.full beyond

/-- A stream with room for 100 bytes, in pieces of 50, and then lets the writer wait.  Of two
messages with one report each it has taken the first one and 35 bytes of the second one, and
only the first one is counted.  A third one runs into the deadline as well. -/
theorem written_within_room :
    let stream : ByteStream :=
      { input := [], atEnd := .silent, readPiece := none, readDelay := 0, waiting := none
        written := [], writePiece := some 50, room := some 100, whenFull := .silent }
    let message : RawMessage := ⟨0, []⟩
    let bytes := outgoing true (.ok message)
    let last := stateAfter ([.ok message, .ok message].map sendEncoded)
      (ofLink (StreamLink.mk stream true) defaultWriteTimeout none)
    last.link.stream.written = bytes ++ bytes.take 35 ∧ last.metrics = .ofSent [message] ∧
      outcome (sendEncoded (.ok message) last) = .error (.failed .timeout) := by
  intro stream message bytes last
  obtain ⟨written, counted, results, _⟩ :=
    written_of_sends (StreamLink.mk stream true) defaultWriteTimeout none
      [.ok message, .ok message] (by rintro _ ⟨⟩; decide)
  refine ⟨written.trans (by decide +kernel), counted.trans ?_, (results (.ok message)).trans ?_⟩
  · exact congrArg Metrics.ofSent (by decide +kernel)
  · decide +kernel

end Channel
end SecurityKey
