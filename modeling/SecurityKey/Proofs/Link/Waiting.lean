import SecurityKey.Proofs.Link.Memory
import SecurityKey.Proofs.Link.Stream
import SecurityKey.Proofs.Steps

/-!
# How long links are waited for

Reading and writing over a byte stream goes piece by piece.  A piece that is not the last one is
not empty, so some bytes take no more reads of the stream, and no more writes, than they are
many (`exists_reading`, `exists_writing`).

What a link can still give is bounded by a budget: each report that is read takes from it, and
nothing else adds to it (`Link.Spends`).  The budget of a device in memory is the number of the
reports that wait and of those of the replies to come, and that of a stream is the number of
whole reports in its input.

A write always has a deadline, so that none waits forever (`Link.Timely`).  A read waits
forever exactly if it has no deadline, and the stream has less to give than is asked for and
stays silent behind that (`read_waitsForever_iff`).
-/

set_option autoImplicit false

namespace SecurityKey

theorem Deadline.after_eq_none {deadline : Deadline} {delay : Nat} :
    deadline.after delay = none ↔ deadline = none := Option.map_eq_none_iff

/-! ## Budgets -/

/-- A bound on the reports that a link can still give: a report that is read takes from it, and
whatever else is done, it does not grow. -/
structure Link.Spends {σ : Type} [Link σ] (budget : σ → Nat) : Prop where
  read : ∀ {deadline : Deadline} {report : Report} {link next : σ},
    Link.read deadline link = .ok report next → budget next < budget link
  readFails : ∀ {deadline : Deadline} {halt : Halt} {link next : σ},
    Link.read deadline link = .error halt next → budget next ≤ budget link
  write : ∀ (report : Report) (deadline : Deadline) (link : σ),
    budget (leaves (Link.write report deadline link)) ≤ budget link

/-- No write that has a deadline waits forever. -/
def Link.Timely (σ : Type) [Link σ] : Prop :=
  ∀ (report : Report) (limit : Nat) (link next : σ),
    Link.write report (some limit) link ≠ .error .waitsForever next

/-! ## Devices in memory -/

namespace MemoryLink

theorem supply_leaves_queueAll (messages : List RawMessage) (link : MemoryLink) :
    (leaves (queueAll messages link)).supply ≤ link.supply + replies (.ok messages) := by
  induction messages generalizing link with
  | nil => exact Nat.le_add_right _ _
  | cons message rest hypothesis =>
      rw [queueAll]
      cases framed : message.packetize with
      | error error => exact Nat.le_add_right _ _
      | ok reports =>
          have others := hypothesis { link with inbound := link.inbound ++ reports }
          simp only [supply, replies, List.foldr_cons, List.length_append,
            RawMessage.length_packetize framed] at others ⊢
          omega

theorem supply_leaves_react (message : RawMessage) (link : MemoryLink) :
    (leaves (react message link)).supply ≤ link.supply := by
  rw [react]
  cases reactions : link.reactions with
  | nil => exact Nat.le_refl _
  | cons reaction rest =>
      have split : link.supply = supply { link with reactions := rest } + replies reaction := by
        simp only [supply, reactions, List.foldr_cons]
        omega
      cases reaction with
      | error error => exact split ▸ Nat.le_add_right _ _
      | ok messages =>
          have queued := supply_leaves_queueAll messages { link with reactions := rest }
          rw [← split] at queued
          dsimp only
          cases run : queueAll messages { link with reactions := rest } with
          | ok _ next => rwa [run] at queued
          | error error next => rwa [run] at queued

theorem supply_leaves_accept (report : Report) (link : MemoryLink) :
    (leaves (accept report link)).supply ≤ link.supply := by
  simp only [accept]
  split
  · exact Nat.le_refl _
  · exact supply_leaves_react _ _
  · exact Nat.le_refl _

theorem spends_supply : Link.Spends supply where
  read run := FiniteLink.supply_read run
  readFails := by
    intro deadline halt link next run
    rw [Channel.read_eq] at run
    split at run
    · cases run
      exact Nat.le_refl _
    · cases run
  write := by
    intro report deadline link
    have left := supply_leaves_accept report link
    rw [Channel.write_eq]
    cases run : accept report link with
    | ok _ next => rwa [run] at left
    | error error next => rwa [run] at left

/-- A device in memory never lets the host wait. -/
theorem read_ne_waitsForever {deadline : Deadline} {link next : MemoryLink} :
    Link.read deadline link ≠ .error .waitsForever next := by
  intro run
  rw [Channel.read_eq] at run
  split at run <;> cases run

theorem timely : Link.Timely MemoryLink := by
  intro report limit link next run
  rw [Channel.write_eq] at run
  split at run <;> cases run

end MemoryLink

/-! ## Byte streams, piece by piece -/

namespace ByteStream

/-- How some bytes are read in a number of reads of the stream, and what comes of it. -/
inductive Reading :
    Nat → Nat → Deadline → ByteStream → EStateM.Result Halt ByteStream Bytes → Prop where
  /-- Nothing is left to read. -/
  | whole (deadline : Deadline) (stream : ByteStream) :
      Reading 0 0 deadline stream (.ok [] stream)
  /-- A read fails. -/
  | halted {size : Nat} {deadline : Deadline} {stream left : ByteStream} {halt : Halt}
      (failed : readPart size deadline stream = .error halt left) :
      Reading 1 size deadline stream (.error halt left)
  /-- An empty piece means that the stream is closed. -/
  | closed {size : Nat} {deadline after : Deadline} {stream left : ByteStream}
      (ended : readPart size deadline stream = .ok ([], after) left) :
      Reading 1 size deadline stream (.error (.failed .connectionClosed) left)
  /-- A piece arrives, and so do the others. -/
  | piece {reads size : Nat} {deadline after : Deadline} {stream next left : ByteStream}
      {part rest : Bytes} (arrived : readPart size deadline stream = .ok (part, after) next)
      (filled : part ≠ [])
      (others : Reading reads (size - part.length) after next (.ok rest left)) :
      Reading (reads + 1) size deadline stream (.ok (part ++ rest) left)
  /-- A piece arrives, and something behind it fails. -/
  | cut {reads size : Nat} {deadline after : Deadline} {stream next left : ByteStream}
      {part : Bytes} {halt : Halt}
      (arrived : readPart size deadline stream = .ok (part, after) next) (filled : part ≠ [])
      (others : Reading reads (size - part.length) after next (.error halt left)) :
      Reading (reads + 1) size deadline stream (.error halt left)

/-- A number of bytes is read in no more reads of the stream. -/
theorem exists_reading (size : Nat) (deadline : Deadline) (stream : ByteStream) :
    ∃ reads ≤ size, Reading reads size deadline stream (readExactly size deadline stream) := by
  fun_induction readExactly size deadline stream with
  | case1 deadline stream => exact ⟨0, Nat.le_refl _, .whole deadline stream⟩
  | case2 size deadline stream more halt left failed =>
      exact ⟨1, Nat.pos_of_ne_zero more, .halted failed⟩
  | case3 size deadline stream more part after left ended empty =>
      rw [List.length_eq_zero_iff.mp empty] at ended
      exact ⟨1, Nat.pos_of_ne_zero more, .closed ended⟩
  | case4 size deadline stream more part after next arrived filled rest left run hypothesis =>
      obtain ⟨reads, few, others⟩ := hypothesis
      rw [run] at others
      have short := (input_readPart arrived).1
      exact ⟨reads + 1, by omega, .piece arrived (by simpa using filled) others⟩
  | case5 size deadline stream more part after next arrived filled halt left run hypothesis =>
      obtain ⟨reads, few, others⟩ := hypothesis
      rw [run] at others
      have short := (input_readPart arrived).1
      exact ⟨reads + 1, by omega, .cut arrived (by simpa using filled) others⟩

/-- How some bytes are written in a number of writes to the stream, and what comes of it. -/
inductive Writing :
    Nat → Bytes → Deadline → ByteStream → EStateM.Result Halt ByteStream Unit → Prop where
  /-- Nothing is left to write. -/
  | whole (deadline : Deadline) (stream : ByteStream) :
      Writing 0 [] deadline stream (.ok () stream)
  /-- A write fails. -/
  | halted {bytes : Bytes} {deadline : Deadline} {stream left : ByteStream} {halt : Halt}
      (failed : writePart bytes deadline stream = .error halt left) :
      Writing 1 bytes deadline stream (.error halt left)
  /-- Nothing more is taken. -/
  | refused {bytes : Bytes} {deadline : Deadline} {stream left : ByteStream}
      (full : writePart bytes deadline stream = .ok 0 left) :
      Writing 1 bytes deadline stream (.error (.failed (.system .writeZero)) left)
  /-- A piece is taken, and the others are written. -/
  | piece {writes length : Nat} {bytes : Bytes} {deadline : Deadline} {stream next : ByteStream}
      {result : EStateM.Result Halt ByteStream Unit}
      (taken : writePart bytes deadline stream = .ok length next) (more : 0 < length)
      (others : Writing writes (bytes.drop length) deadline next result) :
      Writing (writes + 1) bytes deadline stream result

/-- Some bytes are written in no more writes to the stream than they are many. -/
theorem exists_writing (bytes : Bytes) (deadline : Deadline) (stream : ByteStream) :
    ∃ writes ≤ bytes.length,
      Writing writes bytes deadline stream (writeAll bytes deadline stream) := by
  fun_induction writeAll bytes deadline stream with
  | case1 stream => exact ⟨0, Nat.le_refl _, .whole deadline stream⟩
  | case2 bytes stream filled halt left failed =>
      exact ⟨1, List.length_pos_iff.mpr filled, .halted failed⟩
  | case3 bytes stream filled left full =>
      exact ⟨1, List.length_pos_iff.mpr filled, .refused full⟩
  | case4 bytes stream filled length next taken more hypothesis =>
      obtain ⟨writes, few, others⟩ := hypothesis
      have some := List.length_pos_iff.mpr filled
      rw [List.length_drop] at few
      exact ⟨writes + 1, by omega, .piece taken (Nat.pos_of_ne_zero more) others⟩

/-! ## Byte streams that stay silent -/

/-- A piece that arrives is taken from the input, and nothing is waited for any more. -/
theorem eq_of_readPart {size : Nat} {deadline after : Deadline} {stream next : ByteStream}
    {part : Bytes} (arrived : readPart size deadline stream = .ok (part, after) next) :
    next = { stream with input := next.input, waiting := none } ∧
      (after = none ↔ deadline = none) := by
  simp only [readPart] at arrived
  split at arrived
  · split at arrived
    · split at arrived <;> cases arrived
      exact ⟨rfl, Deadline.after_eq_none⟩
    · cases arrived
      exact ⟨rfl, Deadline.after_eq_none⟩
  · cases arrived

/-- A read that fails takes nothing from the input. -/
theorem input_of_readPart_error {size : Nat} {deadline : Deadline} {halt : Halt}
    {stream left : ByteStream} (failed : readPart size deadline stream = .error halt left) :
    left.input = stream.input := by
  simp only [readPart] at failed
  split at failed
  · split at failed
    · split at failed <;> cases failed <;> rfl
    · cases failed
  · cases failed
    rfl

/-- A single read waits forever exactly if it has no deadline and the stream has come to a silent
end. -/
theorem readPart_waitsForever_iff {size : Nat} {deadline : Deadline} {stream left : ByteStream} :
    readPart size deadline stream = .error .waitsForever left ↔
      deadline = none ∧ stream.input = [] ∧ stream.atEnd = .silent ∧
        left = { stream with waiting := none } := by
  constructor
  · intro failed
    simp only [readPart] at failed
    split at failed
    · split at failed
      · rename_i empty
        split at failed
        · cases failed
        · rename_i silent
          cases deadline with
          | none =>
              cases failed
              exact ⟨rfl, empty, silent, rfl⟩
          | some limit => cases failed
        · cases failed
      · cases failed
    · cases failed
  · rintro ⟨rfl, empty, silent, rfl⟩
    simp only [readPart, Deadline.allows, empty, silent, if_true]
    rfl

/-- Whether a stream falls silent before it has given some bytes. -/
structure FallsSilent (size : Nat) (stream : ByteStream) : Prop where
  silent : stream.atEnd = .silent
  short : stream.input.length < size
  /-- A piece that is empty would close the stream. -/
  pieces : stream.input ≠ [] → stream.readPiece ≠ some 0

/-- Without a deadline an empty piece comes from a closed stream or from one whose pieces are all
empty. -/
theorem not_fallsSilent_of_empty {size : Nat} {deadline after : Deadline}
    {stream left : ByteStream} (ended : readPart size deadline stream = .ok ([], after) left) :
    ¬ stream.FallsSilent size := by
  intro falls
  simp only [readPart] at ended
  split at ended
  · split at ended
    · rw [falls.silent] at ended
      cases ended
    · rename_i filled
      have positive : 0 < cut stream.readPiece size := by
        refine cut_pos ?_ (Nat.zero_lt_of_lt falls.short)
        intro piece limit
        refine Nat.pos_of_ne_zero ?_
        rintro rfl
        exact falls.pieces filled limit
      have empty := congrArg Prod.fst (EStateM.Result.ok.inj ended).1
      rcases List.take_eq_nil_iff.mp empty with none | none
      · exact absurd none (Nat.ne_of_gt positive)
      · exact absurd none filled
  · cases ended

/-- Behind a piece that has arrived, a stream falls silent if it did before it. -/
theorem fallsSilent_after_piece {size : Nat} {deadline after : Deadline}
    {stream next : ByteStream} {part : Bytes}
    (arrived : readPart size deadline stream = .ok (part, after) next)
    (filled : part.length ≠ 0) :
    next.FallsSilent (size - part.length) ↔ stream.FallsSilent size := by
  obtain ⟨within, front⟩ := input_readPart arrived
  obtain ⟨same, _⟩ := eq_of_readPart arrived
  have some : stream.input ≠ [] := by
    rw [front]
    intro empty
    exact filled (List.length_eq_zero_iff.mpr (List.append_eq_nil_iff.mp empty).1)
  have silent : next.atEnd = stream.atEnd := by rw [same]
  have pieces : next.readPiece = stream.readPiece := by rw [same]
  have length : stream.input.length = part.length + next.input.length := by
    rw [front, List.length_append]
  constructor
  · intro falls
    refine ⟨silent ▸ falls.silent, ?_, fun _ => ?_⟩
    · have short := falls.short
      omega
    · rintro zero
      -- A stream whose pieces are empty has not given this one.
      refine filled ?_
      have empty : part = [] := by
        simp only [readPart, zero, cut, Nat.zero_min, if_neg some, List.take_zero] at arrived
        split at arrived
        · exact (congrArg Prod.fst (EStateM.Result.ok.inj arrived).1).symm
        · cases arrived
      rw [empty, List.length_nil]
  · intro falls
    refine ⟨silent.trans falls.silent, ?_, fun _ => pieces ▸ falls.pieces some⟩
    have short := falls.short
    omega

/-- Whether a read of some bytes is left waiting forever, and what is left then. -/
def Hangs (size : Nat) (deadline : Deadline) (stream left : ByteStream) : Prop :=
  deadline = none ∧ stream.FallsSilent size ∧
    left = { stream with input := [], waiting := none }

theorem hangs_after_piece {size : Nat} {deadline after : Deadline} {stream next left : ByteStream}
    {part : Bytes} (arrived : readPart size deadline stream = .ok (part, after) next)
    (filled : part.length ≠ 0) :
    Hangs (size - part.length) after next left ↔ Hangs size deadline stream left := by
  obtain ⟨same, unlimited⟩ := eq_of_readPart arrived
  have used : { next with input := [], waiting := none } =
      { stream with input := [], waiting := none } := by rw [same]
  rw [Hangs, Hangs, unlimited, fallsSilent_after_piece arrived filled, used]

/-- A read of some bytes waits forever exactly if it has no deadline and the stream falls silent
before it has given them; then the stream has been used up. -/
theorem readExactly_waitsForever_iff {size : Nat} {deadline : Deadline}
    {stream left : ByteStream} :
    readExactly size deadline stream = .error .waitsForever left ↔
      Hangs size deadline stream left := by
  fun_induction readExactly size deadline stream with
  | case1 deadline stream =>
      refine iff_of_false (fun run => by cases run) fun hangs => ?_
      exact absurd hangs.2.1.short (Nat.not_lt_zero _)
  | case2 size deadline stream more halt next failed =>
      constructor
      · intro run
        cases run
        obtain ⟨unlimited, empty, silent, rfl⟩ := readPart_waitsForever_iff.mp failed
        refine ⟨unlimited, ⟨silent, ?_, fun filled => absurd empty filled⟩, ?_⟩
        · rw [empty]
          exact Nat.pos_of_ne_zero more
        · rw [empty]
      · rintro ⟨rfl, falls, rfl⟩
        by_cases empty : stream.input = []
        · have waits : readPart size none stream = .error .waitsForever
              { stream with waiting := none } :=
            readPart_waitsForever_iff.mpr ⟨rfl, empty, falls.silent, rfl⟩
          rw [waits] at failed
          cases failed
          rw [empty]
        · simp only [readPart, Deadline.allows, if_neg empty, if_true] at failed
          cases failed
  | case3 size deadline stream more part after next ended empty =>
      rw [List.length_eq_zero_iff.mp empty] at ended
      refine iff_of_false (fun run => by cases run) fun hangs => ?_
      exact absurd hangs.2.1 (not_fallsSilent_of_empty ended)
  | case4 size deadline stream more part after next arrived filled rest last run hypothesis =>
      rw [run, hangs_after_piece arrived filled] at hypothesis
      refine iff_of_false (fun run => by cases run) fun hangs => ?_
      cases hypothesis.mpr hangs
  | case5 size deadline stream more part after next arrived filled halt last run hypothesis =>
      rw [run, hangs_after_piece arrived filled] at hypothesis
      exact hypothesis

/-! ## What reads and writes leave of the input -/

theorem length_input_leaves_readExactly (size : Nat) (deadline : Deadline) (stream : ByteStream) :
    (leaves (readExactly size deadline stream)).input.length ≤ stream.input.length := by
  fun_induction readExactly size deadline stream with
  | case1 => exact Nat.le_refl _
  | case2 size deadline stream more halt left failed =>
      exact Nat.le_of_eq (congrArg List.length (input_of_readPart_error failed))
  | case3 size deadline stream more part after left ended empty =>
      rw [(input_readPart ended).2, List.length_append]
      exact Nat.le_add_left _ _
  | case4 size deadline stream more part after next arrived filled rest left run hypothesis
  | case5 size deadline stream more part after next arrived filled halt left run hypothesis =>
      rw [run] at hypothesis
      refine Nat.le_trans hypothesis ?_
      rw [(input_readPart arrived).2, List.length_append]
      exact Nat.le_add_left _ _

theorem input_leaves_writeAll (bytes : Bytes) (deadline : Deadline) (stream : ByteStream) :
    (leaves (writeAll bytes deadline stream)).input = stream.input := by
  fun_induction writeAll bytes deadline stream with
  | case1 => rfl
  | case2 bytes stream filled halt left failed =>
      simp only [writePart] at failed
      split at failed
      · split at failed <;> cases failed <;> rfl
      · cases failed
  | case3 bytes stream filled left full => exact input_writePart full
  | case4 bytes stream filled length next taken more hypothesis =>
      exact hypothesis.trans (input_writePart taken)

/-- A write that has a deadline does not wait forever. -/
theorem writeAll_ne_waitsForever {bytes : Bytes} {limit : Nat} {stream left : ByteStream} :
    writeAll bytes (some limit) stream ≠ .error .waitsForever left := by
  fun_induction writeAll bytes (some limit) stream with
  | case1 | case3 =>
      intro run
      cases run
  | case2 bytes stream filled halt next failed =>
      intro run
      cases run
      simp only [writePart, giveUp] at failed
      split at failed
      · split at failed <;> cases failed
      · cases failed
  | case4 bytes stream filled length next taken more hypothesis => exact hypothesis

end ByteStream

/-! ## Links over byte streams -/

namespace StreamLink

/-- The number of whole reports in the input of a stream. -/
def wholeReports (link : StreamLink) : Nat := link.stream.input.length / reportSize

theorem spends_wholeReports : Link.Spends wholeReports where
  read := by
    intro deadline report link next run
    rw [read_eq] at run
    split at run
    · rename_i bytes stream whole
      cases run
      obtain ⟨length, input⟩ := ByteStream.input_readExactly whole
      simp only [wholeReports, input, List.length_append, length, reportSize]
      omega
    · cases run
  readFails := by
    intro deadline halt link next run
    have left := ByteStream.length_input_leaves_readExactly reportSize deadline link.stream
    rw [read_eq] at run
    split at run
    · cases run
    · rename_i failure stream failed
      rw [failed] at left
      cases run
      exact Nat.div_le_div_right left
  write := by
    intro report deadline link
    have kept := ByteStream.input_leaves_writeAll (report.outgoing link.numbered) deadline
      link.stream
    rw [write_eq]
    cases run : ByteStream.writeAll (report.outgoing link.numbered) deadline link.stream with
    | ok _ stream =>
        rw [run] at kept
        exact Nat.le_of_eq (congrArg (fun input => input.length / reportSize) kept)
    | error halt stream =>
        rw [run] at kept
        exact Nat.le_of_eq (congrArg (fun input => input.length / reportSize) kept)

theorem timely : Link.Timely StreamLink := by
  intro report limit link next run
  rw [write_eq] at run
  split at run
  · cases run
  · rename_i halt stream failed
    cases run
    exact ByteStream.writeAll_ne_waitsForever failed

/-- A read waits forever exactly if it has no deadline and the stream falls silent before it has
given a report; then the stream has been used up. -/
theorem read_waitsForever_iff {deadline : Deadline} {link next : StreamLink} :
    Link.read deadline link = .error .waitsForever next ↔
      next.numbered = link.numbered ∧
        ByteStream.Hangs reportSize deadline link.stream next.stream := by
  rw [read_eq, ← ByteStream.readExactly_waitsForever_iff]
  obtain ⟨stream, numbered⟩ := link
  obtain ⟨left, kept⟩ := next
  cases ByteStream.readExactly reportSize deadline stream with
  | ok bytes rest =>
      constructor
      · intro run
        cases run
      · rintro ⟨_, run⟩
        cases run
  | error halt rest =>
      constructor
      · intro run
        cases run
        exact ⟨rfl, rfl⟩
      · rintro ⟨rfl, same⟩
        cases same
        rfl

end StreamLink
end SecurityKey
