import SecurityKey.Link.Basic

/-!
# Reports over a byte stream

A byte stream gives and takes bytes in pieces, and a report is read and written whole.
`ByteStream` is a stream whose other side is fixed in advance: what it will send, in
pieces of at most a given size and each after a delay, what comes after that, and how
much it will take.

A report is read piece by piece until it is whole, and written piece by piece until
nothing is left.  Bytes of a report that does not become whole are lost.  A stream that
has nothing more to send lets a reader wait like one that has.  A wait that a deadline
cuts short goes on in the next read, and a write that waits in vain takes from it.
-/

set_option autoImplicit false

namespace SecurityKey

/-- What a stream does when all it had to send has been read. -/
inductive StreamEnd where
  /-- It is closed. -/
  | closed
  /-- It stays open and sends nothing. -/
  | silent
  /-- It fails. -/
  | broken
  deriving DecidableEq, Repr

/-- What a stream does when it takes no more bytes. -/
inductive StreamFull where
  /-- It takes none and does not say why. -/
  | refusing
  /-- It lets the writer wait. -/
  | silent
  /-- It fails. -/
  | broken
  deriving DecidableEq, Repr

/-- A byte stream whose other side is fixed in advance. -/
structure ByteStream where
  /-- The bytes that are still to be read. -/
  input : Bytes
  /-- What comes after them. -/
  atEnd : StreamEnd
  /-- The most bytes that one read gives, if there is a limit. -/
  readPiece : Option Nat
  /-- How long one read waits, in milliseconds. -/
  readDelay : Nat
  /-- What is left of a wait that was cut short. -/
  waiting : Option Nat
  /-- The bytes that were taken. -/
  written : Bytes
  /-- The most bytes that one write takes, if there is a limit. -/
  writePiece : Option Nat
  /-- How many more bytes are taken, if there is a limit. -/
  room : Option Nat
  /-- What comes after them. -/
  whenFull : StreamFull
  deriving DecidableEq, Repr

namespace ByteStream

/-- A size cut to a limit, if there is one. -/
def cut (limit : Option Nat) (size : Nat) : Nat :=
  match limit with
  | none => size
  | some limit => min limit size

/-- Gives up waiting: at the deadline, or never if there is none. -/
def giveUp (deadline : Deadline) : Halt :=
  match deadline with
  | none => .waitsForever
  | some _ => .failed .timeout

/-! ## Reading -/

/-- Reads a piece of at most `size` bytes; gives it with what is left of the deadline.
An empty piece means that the stream is closed, whether its input has ended or its pieces
are empty. -/
def readPart (size : Nat) (deadline : Deadline) : EStateM Halt ByteStream (Bytes × Deadline) :=
  fun stream =>
    let delay := stream.waiting.getD stream.readDelay
    if deadline.allows delay then
      let arrived := { stream with waiting := none }
      if stream.input = [] then
        match stream.atEnd with
        | .closed => .ok ([], deadline.after delay) arrived
        | .silent => .error (giveUp deadline) arrived
        | .broken => .error (.failed (.system (.reported "read failed"))) arrived
      else
        let length := cut stream.readPiece size
        .ok (stream.input.take length, deadline.after delay)
          { arrived with input := stream.input.drop length }
    else
      .error (.failed .timeout) { stream with waiting := some (delay - deadline.getD 0) }

/-- Reads exactly `size` bytes. -/
def readExactly (size : Nat) (deadline : Deadline) (stream : ByteStream) :
    EStateM.Result Halt ByteStream Bytes :=
  if size = 0 then
    .ok [] stream
  else
    match readPart size deadline stream with
    | .error halt stream => .error halt stream
    | .ok (part, deadline) stream =>
        if part.length = 0 then
          .error (.failed .connectionClosed) stream
        else
          match readExactly (size - part.length) deadline stream with
          | .ok rest stream => .ok (part ++ rest) stream
          | .error halt stream => .error halt stream
termination_by size
decreasing_by omega

/-! ## Writing -/

/-- A stream after some time.  The wait of a read that was cut short ends no later for what
is done in between. -/
def elapse (time : Deadline) (stream : ByteStream) : ByteStream :=
  { stream with waiting := stream.waiting.map (· - time.getD 0) }

/-- Writes a piece of some bytes; gives the number of bytes that were taken.  A stream that
cannot take a byte is full. -/
def writePart (bytes : Bytes) (deadline : Deadline) : EStateM Halt ByteStream Nat :=
  fun stream =>
    let length := cut stream.room (cut stream.writePiece bytes.length)
    if length = 0 then
      match stream.whenFull with
      | .refusing => .ok 0 stream
      | .silent => .error (giveUp deadline) (stream.elapse deadline)
      | .broken => .error (.failed (.system (.reported "write failed"))) stream
    else
      .ok length { stream with
        written := stream.written ++ bytes.take length
        room := stream.room.map (· - length) }

/-- Writes all of some bytes. -/
def writeAll (bytes : Bytes) (deadline : Deadline) (stream : ByteStream) :
    EStateM.Result Halt ByteStream Unit :=
  if bytes = [] then
    .ok () stream
  else
    match writePart bytes deadline stream with
    | .error halt stream => .error halt stream
    | .ok length stream =>
        if length = 0 then
          .error (.failed (.system .writeZero)) stream
        else
          writeAll (bytes.drop length) deadline stream
termination_by bytes.length
decreasing_by
  have filled := List.length_pos_iff.2 ‹bytes ≠ []›
  rw [List.length_drop]
  omega

/-! ## What is left to read -/

theorem cut_le (limit : Option Nat) (size : Nat) : cut limit size ≤ size := by
  unfold cut
  split
  · exact Nat.le_refl _
  · exact Nat.min_le_right _ _

/-- A piece comes from the front of the input and is not longer than asked for. -/
theorem input_readPart {size : Nat} {deadline after : Deadline} {stream next : ByteStream}
    {bytes : Bytes} (run : readPart size deadline stream = .ok (bytes, after) next) :
    bytes.length ≤ size ∧ stream.input = bytes ++ next.input := by
  simp only [readPart] at run
  split at run
  · split at run
    · split at run <;> cases run
      exact ⟨Nat.zero_le _, rfl⟩
    · cases run
      refine ⟨?_, (List.take_append_drop _ _).symm⟩
      rw [List.length_take]
      exact Nat.le_trans (Nat.min_le_left _ _) (cut_le _ _)
  · cases run

/-- A read that succeeds takes exactly what it was asked for from the front of the input. -/
theorem input_readExactly {size : Nat} {deadline : Deadline} {stream next : ByteStream}
    {bytes : Bytes} (run : readExactly size deadline stream = .ok bytes next) :
    bytes.length = size ∧ stream.input = bytes ++ next.input := by
  fun_induction readExactly size deadline stream generalizing bytes next with
  | case1 =>
      cases run
      simp_all
  | case2 => cases run
  | case3 => cases run
  | case4 size deadline stream positive part after middle read filled rest last more hypothesis =>
      cases run
      obtain ⟨shorter, front⟩ := input_readPart read
      obtain ⟨length, input⟩ := hypothesis more
      rw [List.length_append, length, front, input, List.append_assoc]
      exact ⟨by omega, rfl⟩
  | case5 => cases run

/-- A write leaves the input as it is. -/
theorem input_writePart {bytes : Bytes} {deadline : Deadline} {stream next : ByteStream}
    {length : Nat} (run : writePart bytes deadline stream = .ok length next) :
    next.input = stream.input := by
  simp only [writePart] at run
  split at run
  · split at run <;> cases run
    rfl
  · cases run
    rfl

theorem input_writeAll {bytes : Bytes} {deadline : Deadline} {stream next : ByteStream}
    (run : writeAll bytes deadline stream = .ok () next) : next.input = stream.input := by
  fun_induction writeAll bytes deadline stream generalizing next with
  | case1 =>
      cases run
      rfl
  | case2 => cases run
  | case3 => cases run
  | case4 bytes stream filled length middle wrote positive hypothesis =>
      rw [hypothesis run, input_writePart wrote]

end ByteStream

/-! ## The link -/

/-- A link over a byte stream. -/
structure StreamLink where
  stream : ByteStream
  /-- Whether the device expects a report number before each report. -/
  numbered : Bool
  deriving DecidableEq, Repr

namespace StreamLink

/-- Does something with the stream of a link. -/
def onStream {α : Type} (operation : ByteStream → EStateM.Result Halt ByteStream α) :
    EStateM Halt StreamLink α := fun link =>
  match operation link.stream with
  | .ok value stream => .ok value { link with stream }
  | .error halt stream => .error halt { link with stream }

instance : FiniteLink StreamLink where
  read deadline :=
    FixedBytes.ofBytes reportSize <$>
      onStream (ByteStream.readExactly reportSize deadline)
  write report deadline := fun link =>
    onStream (ByteStream.writeAll (report.outgoing link.numbered) deadline) link
  supply link := link.stream.input.length
  supply_read := by
    intro deadline report link next run
    simp only [Functor.map, EStateM.map, onStream] at run
    split at run
    · rename_i bytes middle read
      split at read
      · rename_i whole
        cases read
        cases run
        obtain ⟨length, input⟩ := ByteStream.input_readExactly whole
        simp only [input, List.length_append, length, reportSize]
        omega
      · cases read
    · cases run
  supply_write := by
    intro report deadline link next run
    simp only [onStream] at run
    split at run
    · rename_i wrote
      cases run
      simp only [ByteStream.input_writeAll wrote]
      exact Nat.le_refl _
    · cases run

end StreamLink

end SecurityKey
