import SecurityKey.Link.Stream
import SecurityKey.Proofs.Link.Arrival

/-!
# Reports over a byte stream, read and written

A report is read in pieces, and how the pieces arrive does not depend on the bytes in them.
So a stream that has given one report gives every other report that it holds, and one that
fails at a report fails in the same way at any other (`exists_reads`).  A stream without
delays whose pieces are not empty gives every report (`reads_of_prompt`).

A stream that takes all that is written and whose pieces are not empty takes reports whole
(`writeAll_of_roomy`).  What a write does has nothing to do with what is still to be read
(`unnoticed_behind`).
-/

set_option autoImplicit false

namespace SecurityKey
namespace ByteStream

@[simp] theorem cut_none (size : Nat) : cut none size = size := rfl

/-! ## Reading -/

theorem cut_pos {limit : Option Nat} (positive : ∀ piece ∈ limit, 0 < piece) {size : Nat}
    (more : 0 < size) : 0 < cut limit size := by
  cases limit with
  | none => exact more
  | some piece => exact Nat.lt_min.mpr ⟨positive piece rfl, more⟩

/-- How the reads of some bytes come out, whatever the bytes are. -/
def Reads (stream : ByteStream) (size : Nat) (deadline : Deadline) : Except Halt Unit → Prop
  | .ok () => ∀ bytes rest : Bytes, bytes.length = size →
      readExactly size deadline { stream with input := bytes ++ rest } =
        .ok bytes { stream with input := rest }
  | .error halt => ∀ bytes rest : Bytes, bytes.length = size →
      ∃ left, readExactly size deadline { stream with input := bytes ++ rest } =
        .error halt left ∧ left.written = stream.written

section Read

variable {stream : ByteStream} (ready : stream.waiting = none) {size : Nat} {deadline : Deadline}
include ready

/-- The first piece of a read that is in time is the front of what is asked for. -/
theorem readPart_of_allows (inTime : deadline.allows stream.readDelay) {bytes : Bytes}
    (length : bytes.length = size) (more : 0 < size) (rest : Bytes) :
    readPart size deadline { stream with input := bytes ++ rest } =
      .ok (bytes.take (cut stream.readPiece size), deadline.after stream.readDelay)
        { stream with input := bytes.drop (cut stream.readPiece size) ++ rest } := by
  have within : cut stream.readPiece size ≤ bytes.length := by
    rw [length]
    exact cut_le _ _
  have filled : bytes ++ rest ≠ [] := by
    intro empty
    rw [(List.append_eq_nil_iff.mp empty).1] at length
    rw [← length] at more
    exact Nat.lt_irrefl 0 more
  rw [readPart]
  simp only [ready, Option.getD_none, inTime, filled, if_true, if_false,
    List.take_append_of_le_length within, List.drop_append_of_le_length within]

/-- After a piece that is not empty the rest is read with what is left of the deadline. -/
theorem readExactly_of_allows (inTime : deadline.allows stream.readDelay) {bytes : Bytes}
    (length : bytes.length = size) (more : 0 < size) (filled : 0 < cut stream.readPiece size)
    (rest : Bytes) :
    readExactly size deadline { stream with input := bytes ++ rest } =
      match readExactly (size - cut stream.readPiece size) (deadline.after stream.readDelay)
        { stream with input := bytes.drop (cut stream.readPiece size) ++ rest } with
      | .ok others left => .ok (bytes.take (cut stream.readPiece size) ++ others) left
      | .error halt left => .error halt left := by
  have taken : (bytes.take (cut stream.readPiece size)).length = cut stream.readPiece size := by
    rw [List.length_take, length]
    exact Nat.min_eq_left (cut_le _ _)
  rw [readExactly, if_neg (Nat.ne_of_gt more), readPart_of_allows ready inTime length more rest]
  cases run : readExactly (size - cut stream.readPiece size) (deadline.after stream.readDelay)
      { stream with input := bytes.drop (cut stream.readPiece size) ++ rest } with
  | ok others left => simp only [taken, Nat.ne_of_gt filled, if_false, run]
  | error halt left => simp only [taken, Nat.ne_of_gt filled, if_false, run]

/-- Without delays and without empty pieces every read is in time. -/
theorem reads_of_prompt (prompt : stream.readDelay = 0)
    (pieces : ∀ piece ∈ stream.readPiece, 0 < piece) (size : Nat) (deadline : Deadline) :
    stream.Reads size deadline (.ok ()) := by
  have inTime : ∀ deadline : Deadline, deadline.allows stream.readDelay = true := by
    intro deadline
    rw [prompt]
    cases deadline with
    | none => rfl
    | some limit => exact decide_eq_true (Nat.zero_le limit)
  induction size using Nat.strongRecOn generalizing deadline with
  | ind size hypothesis =>
      intro bytes rest length
      rcases Nat.eq_zero_or_pos size with none | more
      · subst none
        rw [List.length_eq_zero_iff.mp length, readExactly]
        rfl
      · have filled := cut_pos pieces more
        have others := hypothesis (size - cut stream.readPiece size) (by omega)
          (deadline.after stream.readDelay) (bytes.drop (cut stream.readPiece size)) rest
          (by rw [List.length_drop, length])
        rw [readExactly_of_allows ready (inTime deadline) length more filled, others]
        dsimp only
        rw [List.take_append_drop]

/-- How a read comes out is settled by the pace of the stream. -/
theorem exists_reads (size : Nat) (deadline : Deadline) :
    ∃ verdict, stream.Reads size deadline verdict := by
  induction size using Nat.strongRecOn generalizing deadline with
  | ind size hypothesis =>
      rcases Nat.eq_zero_or_pos size with none | more
      · refine ⟨.ok (), ?_⟩
        intro bytes rest length
        subst none
        rw [List.length_eq_zero_iff.mp length, readExactly]
        rfl
      · by_cases inTime : deadline.allows stream.readDelay
        · rcases Nat.eq_zero_or_pos (cut stream.readPiece size) with empty | filled
          · refine ⟨.error (.failed .connectionClosed), ?_⟩
            intro bytes rest length
            rw [readExactly, if_neg (Nat.ne_of_gt more),
              readPart_of_allows ready inTime length more rest, empty]
            exact ⟨_, rfl, rfl⟩
          · obtain ⟨verdict, others⟩ := hypothesis (size - cut stream.readPiece size) (by omega)
              (deadline.after stream.readDelay)
            refine ⟨verdict, ?_⟩
            cases verdict with
            | ok _ =>
                intro bytes rest length
                rw [readExactly_of_allows ready inTime length more filled,
                  others (bytes.drop (cut stream.readPiece size)) rest
                    (by rw [List.length_drop, length])]
                dsimp only
                rw [List.take_append_drop]
            | error halt =>
                intro bytes rest length
                obtain ⟨left, failed, kept⟩ := others (bytes.drop (cut stream.readPiece size))
                  rest (by rw [List.length_drop, length])
                rw [readExactly_of_allows ready inTime length more filled, failed]
                exact ⟨left, rfl, kept⟩
        · refine ⟨.error (.failed .timeout), ?_⟩
          intro bytes rest length
          rw [readExactly, if_neg (Nat.ne_of_gt more), readPart]
          simp only [ready, Option.getD_none, inTime]
          exact ⟨_, rfl, rfl⟩

end Read

/-! ## Writing -/

/-- A stream that takes all takes some bytes whole. -/
theorem writeAll_of_roomy {stream : ByteStream} (roomy : stream.room = none)
    (pieces : ∀ piece ∈ stream.writePiece, 0 < piece) (bytes : Bytes) (deadline : Deadline) :
    writeAll bytes deadline stream =
      .ok () { stream with written := stream.written ++ bytes } := by
  induction length : bytes.length using Nat.strongRecOn generalizing bytes stream with
  | ind size hypothesis =>
      rw [writeAll]
      split
      · rename_i empty
        rw [empty, List.append_nil]
      · rename_i filled
        have more : 0 < cut stream.writePiece bytes.length :=
          cut_pos pieces (List.length_pos_iff.mpr filled)
        generalize taken : cut stream.writePiece bytes.length = piece at more
        have wrote : writePart bytes deadline stream =
            .ok piece { stream with written := stream.written ++ bytes.take piece } := by
          simp only [writePart, roomy, cut_none, taken, Nat.ne_of_gt more, if_false,
            Option.map_none]
        have fewer : (bytes.drop piece).length < size := by
          rw [List.length_drop]
          have within := cut_le stream.writePiece bytes.length
          omega
        have others := @hypothesis _ fewer
          { stream with written := stream.written ++ bytes.take piece } roomy pieces
          (bytes.drop piece) rfl
        rw [wrote]
        dsimp only
        rw [if_neg (Nat.ne_of_gt more), others]
        dsimp only
        rw [List.append_assoc, List.take_append_drop]

/-- A stream that has some bytes to give before all others. -/
def behind (front : Bytes) (stream : ByteStream) : ByteStream :=
  { stream with input := front ++ stream.input }

theorem writePart_behind (front bytes : Bytes) (deadline : Deadline) (stream : ByteStream) :
    writePart bytes deadline (stream.behind front) =
      restate (behind front) (writePart bytes deadline stream) := by
  obtain ⟨input, atEnd, readPiece, delay, waiting, written, writePiece, room, whenFull⟩ := stream
  by_cases full : cut room (cut writePiece bytes.length) = 0
  · simp only [writePart, behind, full, if_true]
    cases whenFull <;> rfl
  · simp only [writePart, behind, full, if_false]
    rfl

theorem writeAll_behind (front bytes : Bytes) (deadline : Deadline) (stream : ByteStream) :
    writeAll bytes deadline (stream.behind front) =
      restate (behind front) (writeAll bytes deadline stream) := by
  fun_induction writeAll bytes deadline stream with
  | case1 =>
      rw [writeAll, if_pos rfl]
      rfl
  | case2 bytes stream filled halt left failed =>
      rw [writeAll, if_neg filled, writePart_behind, failed]
      rfl
  | case3 bytes stream filled left wrote =>
      rw [writeAll, if_neg filled, writePart_behind, wrote]
      rfl
  | case4 bytes stream filled length left wrote some hypothesis =>
      rw [writeAll, if_neg filled, writePart_behind, wrote]
      dsimp only [restate]
      rw [if_neg some]
      exact hypothesis

/-- A write that succeeds leaves a wait of the reader as it is. -/
theorem waiting_writeAll {bytes : Bytes} {deadline : Deadline} {stream next : ByteStream}
    (wrote : writeAll bytes deadline stream = .ok () next) : next.waiting = stream.waiting := by
  fun_induction writeAll bytes deadline stream with
  | case1 =>
      cases wrote
      rfl
  | case2 | case3 => cases wrote
  | case4 bytes stream filled length left part some hypothesis =>
      have kept : left.waiting = stream.waiting := by
        simp only [writePart] at part
        split at part
        · split at part <;> cases part
          rfl
        · cases part
          rfl
      exact (hypothesis wrote).trans kept

end ByteStream

/-! ## Links -/

namespace StreamLink

theorem read_eq (deadline : Deadline) (link : StreamLink) :
    Link.read deadline link =
      match ByteStream.readExactly reportSize deadline link.stream with
      | .ok bytes stream => .ok (FixedBytes.ofBytes reportSize bytes) { link with stream }
      | .error halt stream => .error halt { link with stream } := by
  change EStateM.map (FixedBytes.ofBytes reportSize) (onStream _) link = _
  rw [EStateM.map, onStream]
  cases ByteStream.readExactly reportSize deadline link.stream with
  | ok bytes stream => rfl
  | error halt stream => rfl

theorem write_eq (report : Report) (deadline : Deadline) (link : StreamLink) :
    Link.write report deadline link =
      match ByteStream.writeAll (report.outgoing link.numbered) deadline link.stream with
      | .ok () stream => .ok () { link with stream }
      | .error halt stream => .error halt { link with stream } := by
  change onStream (ByteStream.writeAll (report.outgoing link.numbered) deadline) link = _
  rw [onStream]
  cases ByteStream.writeAll (report.outgoing link.numbered) deadline link.stream with
  | ok _ stream => rfl
  | error halt stream => rfl

/-- A link over a stream that has some bytes to give before all others. -/
def behind (front : Bytes) (link : StreamLink) : StreamLink :=
  { link with stream := link.stream.behind front }

/-- When the pace of a stream lets a report be read, the reports in front of it are given. -/
theorem gives_behind {link : StreamLink} {deadline : Deadline}
    (reads : link.stream.Reads reportSize deadline (.ok ())) (reports : List Report) :
    Link.Gives deadline (link.behind (reports.flatMap FixedBytes.bytes)) reports link := by
  induction reports with
  | nil => exact .nil link
  | cons report rest hypothesis =>
      refine .cons ?_ hypothesis
      have whole := reads report.bytes (rest.flatMap FixedBytes.bytes ++ link.stream.input)
        report.length_bytes
      rw [read_eq, behind, ByteStream.behind, List.flatMap_cons, List.append_assoc, whole]
      dsimp only
      rw [FixedBytes.ofBytes_bytes]
      rfl

/-- When it does not, reading a report from the front fails as its pace says. -/
theorem read_behind_of_error {link : StreamLink} {deadline : Deadline} {halt : Halt}
    (reads : link.stream.Reads reportSize deadline (.error halt)) (report : Report)
    (rest : List Report) :
    ∃ left, Link.read deadline (link.behind ((report :: rest).flatMap FixedBytes.bytes)) =
      .error halt left ∧ left.stream.written = link.stream.written := by
  obtain ⟨left, failed, kept⟩ := reads report.bytes
    (rest.flatMap FixedBytes.bytes ++ link.stream.input) report.length_bytes
  refine ⟨{ link with stream := left }, ?_, kept⟩
  rw [read_eq, behind, ByteStream.behind, List.flatMap_cons, List.append_assoc, failed]

/-- What is written leaves a wait of the reader as it is. -/
theorem waiting_writeReports {reports : List Report} {channel next : Channel StreamLink}
    (wrote : Channel.writeReports reports channel = .ok () next) :
    next.link.stream.waiting = channel.link.stream.waiting := by
  induction reports generalizing channel with
  | nil =>
      cases wrote
      rfl
  | cons report rest hypothesis =>
      rw [Channel.writeReports, write_eq] at wrote
      split at wrote
      · rename_i link written
        split at written
        · rename_i stream whole
          cases written
          exact (hypothesis wrote).trans (ByteStream.waiting_writeAll whole)
        · cases written
      · cases wrote

theorem waiting_sendEncoded {request : Except Error RawMessage}
    {channel next : Channel StreamLink}
    (sent : Channel.sendEncoded request channel = .ok () next) :
    next.link.stream.waiting = channel.link.stream.waiting := by
  cases request with
  | error error => cases sent
  | ok message =>
      rw [Channel.sendEncoded, Channel.send] at sent
      cases framed : message.packetize with
      | error error =>
          rw [framed] at sent
          cases sent
      | ok reports =>
          rw [framed] at sent
          dsimp only at sent
          cases wrote : Channel.writeReports reports channel with
          | error halt middle =>
              rw [wrote] at sent
              cases sent
          | ok _ middle =>
              rw [wrote] at sent
              cases sent
              have kept := waiting_writeReports wrote
              exact kept

/-- A stream takes no notice of what waits to be read. -/
theorem unnoticed_behind (front : Bytes) : Link.Unnoticed (behind front) := by
  intro report deadline link
  rw [write_eq, write_eq, behind]
  dsimp only
  rw [ByteStream.writeAll_behind]
  cases ByteStream.writeAll (report.outgoing link.numbered) deadline link.stream with
  | ok _ stream => rfl
  | error halt stream => rfl

end StreamLink
end SecurityKey
