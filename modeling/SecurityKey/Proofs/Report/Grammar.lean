import Mathlib.Data.List.Induction
import SecurityKey.Proofs.Report.Transcript

/-!
# What a reassembler accepts

A report opens a message when it begins with the mark, and it goes on with one when it begins
with the marker.  Behind these bytes, and behind the header of the first one, reports carry
payload (`Report.carried`).  A message is there as soon as its reports carry as many bytes as the
first of them has declared, and what they carry beyond is padding.

So what a reassembler makes of some reports is known from their first bytes and from the length
that the first one declares (`stateAfter_run`, `push_last`), whatever else they hold; a report
that opens a message goes on with one like any other.  A message under way goes back to reports
that were pushed last (`Collected`), which holds behind everything that can be done to a
reassembler.  All of this is in `accepts_exactly_frames`.

Splitting a completed message gives its reports again with zeros for the padding
(`packetize_message`).
-/

set_option autoImplicit false

namespace SecurityKey

/-! ## Bytes in the middle, and numbers of some bytes -/

namespace Bytes

/-- The bytes from a place up to another one, when both places are there. -/
def slice? (bytes : Bytes) (start stop : Nat) : Option Bytes :=
  if start ≤ stop ∧ stop ≤ bytes.length then some ((bytes.take stop).drop start) else none

/-- Bytes that are taken from a place on are in the middle, as far as there are any. -/
theorem slice?_eq (bytes : Bytes) {start : Nat} (inside : start ≤ bytes.length) (count : Nat) :
    bytes.slice? start (start + min count (bytes.length - start)) =
      some ((bytes.drop start).take count) := by
  have cut : (bytes.drop start).take (min count (bytes.length - start)) =
      (bytes.drop start).take count := by
    rw [← List.length_drop, ← List.take_take, List.take_length]
  rw [slice?, if_pos ⟨by omega, by omega⟩, List.drop_take, Nat.add_sub_cancel_left, cut]

/-- Bytes are known by their number when it is known how many they are. -/
theorem bigEndian_inj {first second : Bytes} (same : first.length = second.length)
    (equal : bigEndian first = bigEndian second) : first = second := by
  induction first generalizing second with
  | nil => exact (List.length_eq_zero_iff.mp same.symm).symm
  | cons byte rest hypothesis =>
      cases second with
      | nil => cases same
      | cons other others =>
          have lengths := Nat.succ.inj same
          rw [bigEndian_cons, bigEndian_cons, ← lengths] at equal
          have low := bigEndian_lt rest
          have otherLow := bigEndian_lt others
          rw [← lengths] at otherLow
          have high : byte.toNat = other.toNat := by
            have positive := Nat.zero_lt_of_lt low
            have quotients := congrArg (· / 256 ^ rest.length) equal
            simp only [Nat.mul_comm _ (256 ^ rest.length), Nat.mul_add_div positive,
              Nat.div_eq_of_lt low, Nat.div_eq_of_lt otherLow, Nat.add_zero] at quotients
            exact quotients
          rw [high] at equal
          rw [UInt8.toNat_inj.mp high, hypothesis lengths (Nat.add_left_cancel equal)]

/-- The number of some bytes is written as these bytes. -/
theorem ofBigEndian_bigEndian (bytes : Bytes) :
    ofBigEndian bytes.length (bigEndian bytes) = bytes :=
  bigEndian_inj (length_ofBigEndian _ _) (bigEndian_ofBigEndian (bigEndian_lt bytes))

end Bytes

/-! ## Reports -/

namespace Report

/-- Whether a report can be the first one of a message. -/
def Opens (report : Report) : Prop := report.bytes.take 3 = magic

/-- Whether a report can be a further one of a message. -/
def Continues (report : Report) : Prop := report.bytes.head? = some marker

/-- The number of the message that a report opens. -/
def messageId (report : Report) : UInt16 :=
  UInt16.ofNat (Bytes.bigEndian ((report.bytes.drop 3).take 2))

/-- The payload length that a report declares which opens a message. -/
def messageLength (report : Report) : Nat := Bytes.bigEndian ((report.bytes.drop 5).take 4)

/-- What reports carry behind their marks, their marker and their header. -/
def carried (first : Report) (further : List Report) : Bytes :=
  first.bytes.drop headerLength ++ further.flatMap fun report => report.bytes.drop 1

/-- The first report of a message and further ones. -/
structure Run (first : Report) (further : List Report) : Prop where
  opens : first.Opens
  continues : ∀ report ∈ further, report.Continues

/-- How many bytes of a report are not padding, by its place in a message. -/
def filled (length : Nat) : (place : Nat) → Nat
  | 0 => headerLength + min length firstChunk
  | place + 1 => 1 + min (length - firstChunk - continuationChunk * place) continuationChunk

/-- A report with zeros behind its first bytes. -/
def padded (count : Nat) (report : Report) : Report :=
  FixedBytes.ofBytes reportSize (report.bytes.take count)

theorem length_take_drop (report : Report) {start count : Nat}
    (inside : start + count ≤ reportSize) :
    ((report.bytes.drop start).take count).length = count := by
  rw [List.length_take, List.length_drop, report.length_bytes]
  omega

theorem length_carried (first : Report) (further : List Report) :
    (carried first further).length = firstChunk + continuationChunk * further.length := by
  have chunks : (further.flatMap fun report => report.bytes.drop 1).length =
      continuationChunk * further.length := by
    induction further with
    | nil => rfl
    | cons report rest hypothesis =>
        rw [List.flatMap_cons, List.length_append, hypothesis, List.length_drop,
          report.length_bytes, List.length_cons, Nat.mul_succ, Nat.add_comm]
        rfl
  rw [carried, List.length_append, chunks, List.length_drop, first.length_bytes, firstChunk]

theorem carried_append (first : Report) (further : List Report) (report : Report) :
    carried first (further ++ [report]) = carried first further ++ report.bytes.drop 1 := by
  rw [carried, List.flatMap_append, List.flatMap_singleton, ← List.append_assoc, carried]

/-- More reports are needed exactly when those that are there carry too little. -/
theorem succ_lt_count_iff {length number : Nat} :
    number + 1 < count length ↔ firstChunk + continuationChunk * number < length := by
  simp only [count, firstChunk, continuationChunk, headerLength, reportSize]
  omega

/-- Reports that are too few carry less than was declared. -/
theorem length_carried_lt {first : Report} {further : List Report}
    (more : further.length + 1 < count first.messageLength) :
    (carried first further).length < first.messageLength := by
  rw [length_carried]
  exact succ_lt_count_iff.mp more

/-- The last one of some further reports. -/
theorem Run.concat {first report : Report} {further : List Report}
    (run : Run first (further ++ [report])) : Run first further ∧ report.Continues :=
  ⟨⟨run.opens, fun other member => run.continues other (List.mem_append_left _ member)⟩,
    run.continues report (List.mem_append_right _ (List.mem_singleton_self report))⟩

/-- What the first report and further ones carry, cut at the declared length. -/
def message (first : Report) (further : List Report) : RawMessage :=
  ⟨first.messageId, (carried first further).take first.messageLength⟩

/-- Reports that are as many as the declared length takes carry that much. -/
theorem messageLength_le_carried {first : Report} {further : List Report}
    (last : further.length + 1 = count first.messageLength) :
    first.messageLength ≤ (carried first further).length := by
  rw [length_carried]
  exact Nat.not_lt.mp (mt succ_lt_count_iff.mpr (Nat.not_lt.mpr (Nat.le_of_eq last.symm)))

theorem length_message {first : Report} {further : List Report}
    (last : further.length + 1 = count first.messageLength) :
    (first.message further).payload.length = first.messageLength := by
  rw [message, List.length_take]
  exact Nat.min_eq_left (messageLength_le_carried last)

theorem messageLength_le (report : Report) : report.messageLength ≤ maximumPayload := by
  have bound := Bytes.bigEndian_lt ((report.bytes.drop 5).take 4)
  rw [report.length_take_drop (by decide)] at bound
  rw [messageLength, maximumPayload]
  omega

/-! ## Splitting a message again -/

/-- The number and the length are written as they were read. -/
theorem take_headerLength {report : Report} (opens : report.Opens) :
    report.bytes.take headerLength =
      magic ++ Bytes.ofBigEndian 2 report.messageId.toNat ++
        Bytes.ofBigEndian 4 report.messageLength := by
  have two : ((report.bytes.drop 3).take 2).length = 2 := report.length_take_drop (by decide)
  have four : ((report.bytes.drop 5).take 4).length = 4 := report.length_take_drop (by decide)
  have number : Bytes.ofBigEndian 2 report.messageId.toNat = (report.bytes.drop 3).take 2 := by
    have small := Bytes.bigEndian_lt ((report.bytes.drop 3).take 2)
    rw [two] at small
    have same := Bytes.ofBigEndian_bigEndian ((report.bytes.drop 3).take 2)
    rwa [two, ← UInt16.toNat_ofNat_of_lt' small] at same
  have length : Bytes.ofBigEndian 4 report.messageLength = (report.bytes.drop 5).take 4 := by
    have same := Bytes.ofBigEndian_bigEndian ((report.bytes.drop 5).take 4)
    rwa [four] at same
  calc report.bytes.take headerLength
      = report.bytes.take (3 + 2 + 4) := rfl
    _ = report.bytes.take 3 ++ (report.bytes.drop 3).take 2 ++ (report.bytes.drop 5).take 4 := by
          rw [List.take_add, List.take_add]
    _ = magic ++ Bytes.ofBigEndian 2 report.messageId.toNat ++
          Bytes.ofBigEndian 4 report.messageLength := by
          rw [show report.bytes.take 3 = magic from opens, number, length]

/-- The first report of the message is the one that opened it. -/
theorem first_message {first : Report} {further : List Report} (opens : first.Opens)
    (last : further.length + 1 = count first.messageLength) :
    Report.first (first.message further) = first.padded (filled first.messageLength 0) := by
  have whole := length_message last
  have chunk : (first.message further).payload.take firstChunk =
      (first.bytes.drop headerLength).take (min first.messageLength firstChunk) := by
    have room : (first.bytes.drop headerLength).length = firstChunk := by
      rw [List.length_drop, first.length_bytes, firstChunk]
    rw [message, carried, List.take_take, List.take_append_of_le_length (by omega), Nat.min_comm]
  rw [Report.first, whole, chunk, padded, filled, List.take_add, take_headerLength opens]
  rfl

theorem continuations_of_ne_nil {payload : Bytes} (more : payload ≠ []) :
    continuations payload =
      FixedBytes.ofBytes reportSize (marker :: payload.take continuationChunk) ::
        continuations (payload.drop continuationChunk) := by
  cases payload with
  | nil => exact absurd rfl more
  | cons byte rest => rw [continuations]

/-- What some further reports carry is split into these reports again. -/
theorem continuations_carried (further : List Report) (length : Nat)
    (continues : ∀ report ∈ further, report.Continues)
    (enough : further.length = (length + (continuationChunk - 1)) / continuationChunk) :
    continuations ((further.flatMap fun report => report.bytes.drop 1).take length) =
      further.mapIdx fun place report =>
        report.padded (1 + min (length - continuationChunk * place) continuationChunk) := by
  induction further generalizing length with
  | nil => rw [List.flatMap_nil, List.take_nil, continuations, List.mapIdx_nil]
  | cons report rest hypothesis =>
      obtain ⟨goesOn, othersGoOn⟩ := List.forall_mem_cons.mp continues
      have room : (report.bytes.drop 1).length = continuationChunk := by
        rw [List.length_drop, report.length_bytes, continuationChunk]
      have positive : 0 < length := by
        rw [List.length_cons, continuationChunk, reportSize] at enough
        omega
      have fewer : rest.length =
          (length - continuationChunk + (continuationChunk - 1)) / continuationChunk := by
        rw [List.length_cons, continuationChunk, reportSize] at enough
        rw [continuationChunk, reportSize]
        omega
      have others := hypothesis (length - continuationChunk) othersGoOn fewer
      rw [List.flatMap_cons]
      generalize rest.flatMap (fun report => report.bytes.drop 1) = behind at others ⊢
      have more : (report.bytes.drop 1 ++ behind).take length ≠ [] := by
        refine List.ne_nil_of_length_pos ?_
        rw [List.length_take, List.length_append, room, continuationChunk, reportSize]
        omega
      have chunk : ((report.bytes.drop 1 ++ behind).take length).take continuationChunk =
          (report.bytes.drop 1).take (min length continuationChunk) := by
        rw [List.take_take, List.take_append_of_le_length (by omega), Nat.min_comm]
      have tail : ((report.bytes.drop 1 ++ behind).take length).drop continuationChunk =
          behind.take (length - continuationChunk) := by
        rw [List.drop_take, ← room, List.drop_left]
      have front : marker :: (report.bytes.drop 1).take (min length continuationChunk) =
          report.bytes.take (1 + min length continuationChunk) := by
        rw [List.take_add, List.take_one, show report.bytes.head? = some marker from goesOn]
        rfl
      rw [continuations_of_ne_nil more, chunk, tail, others, front, List.mapIdx_cons]
      refine congrArg₂ List.cons rfl ?_
      refine congrArg (fun fill => rest.mapIdx fill) (funext fun place => funext fun report => ?_)
      rw [Nat.sub_sub, Nat.mul_succ, Nat.add_comm continuationChunk]

/-- A message is split into the reports that it was put together from, with zeros for what
they carry behind it. -/
theorem packetize_message {first : Report} {further : List Report} (run : Run first further)
    (last : further.length + 1 = count first.messageLength) :
    (first.message further).packetize =
      .ok ((first :: further).mapIdx fun place report =>
        report.padded (filled first.messageLength place)) := by
  have whole := length_message last
  have behind : (first.message further).payload.drop firstChunk =
      (further.flatMap fun report => report.bytes.drop 1).take
        (first.messageLength - firstChunk) := by
    have room : (first.bytes.drop headerLength).length = firstChunk := by
      rw [List.length_drop, first.length_bytes, firstChunk]
    rw [message, carried, List.drop_take, ← room, List.drop_left]
  have others : further.length =
      (first.messageLength - firstChunk + (continuationChunk - 1)) / continuationChunk := by
    rw [count, Nat.add_comm 1] at last
    exact Nat.succ.inj last
  rw [RawMessage.packetize, whole, if_pos first.messageLength_le, behind,
    continuations_carried further _ run.continues others, first_message run.opens last,
    List.mapIdx_cons]
  rfl

end Report

namespace Reassembler

open Report

/-! ## One report -/

theorem push_opening {report : Report} (opens : report.Opens) :
    push report .idle = settle report.messageId report.messageLength
      ((carried report []).take report.messageLength) .idle := by
  rw [carried, List.flatMap_nil, List.append_nil]
  exact (push_idle report).trans (if_pos opens)

theorem push_refused {report : Report} (refused : ¬report.Opens) :
    push report .idle = .error (.encoding .reportMagic) .idle :=
  (push_idle report).trans (if_neg refused)

/-- A first report is refused exactly when it does not begin with the mark. -/
theorem exists_push_error_iff (report : Report) :
    (∃ error left, push report .idle = .error error left) ↔ ¬report.Opens := by
  constructor
  · rintro ⟨error, left, refused⟩ opens
    rw [push_opening opens, settle_eq] at refused
    split at refused <;> cases refused
  · exact fun refused => ⟨_, _, push_refused refused⟩

/-- A further report adds what it carries, up to the declared length. -/
theorem push_further {first report : Report} {further : List Report} {length : Nat}
    (more : (carried first further).length < length) (continues : report.Continues) (id : UInt16) :
    push report (.collecting id length (carried first further)) =
      settle id length ((carried first (further ++ [report])).take length)
        (.collecting id length (carried first further)) := by
  rw [carried_append, List.take_append, List.take_of_length_le (Nat.le_of_lt more)]
  exact (push_collecting report id length _).trans (if_pos continues)

theorem push_broken {report : Report} (broken : ¬report.Continues) (id : UInt16) (length : Nat)
    (received : Bytes) :
    push report (.collecting id length received) =
      .error (.encoding .continuationMarker) .idle :=
  (push_collecting report id length received).trans (if_neg broken)

/-! ## The reports of one message -/

/-- Reports that carry less than was declared are all taken, and what they carry is held. -/
theorem stateAfter_run {first : Report} (further : List Report) (run : Run first further)
    (more : further.length + 1 < count first.messageLength) :
    outcomes ((first :: further).map push) .idle =
        List.replicate (further.length + 1) (.ok none) ∧
      stateAfter ((first :: further).map push) .idle =
        .collecting first.messageId first.messageLength (carried first further) := by
  induction further using List.reverseRecOn with
  | nil =>
      have short := length_carried_lt more
      have pushed := push_opening run.opens
      rw [settle_eq, List.take_of_length_le (Nat.le_of_lt short), if_pos short] at pushed
      rw [List.map_cons, List.map_nil, outcomes, stateAfter, pushed]
      exact ⟨rfl, rfl⟩
  | append_singleton further report hypothesis =>
      have short := length_carried_lt more
      rw [List.length_append, List.length_singleton] at more ⊢
      have before : further.length + 1 < count first.messageLength := by omega
      obtain ⟨runBefore, continues⟩ := run.concat
      obtain ⟨seen, state⟩ := hypothesis runBefore before
      have pushed := push_further (length_carried_lt before) continues first.messageId
      rw [settle_eq, List.take_of_length_le (Nat.le_of_lt short), if_pos short] at pushed
      rw [← List.cons_append, List.map_append, outcomes_append, stateAfter_append, seen, state,
        List.map_singleton, outcomes, stateAfter, pushed]
      exact ⟨List.replicate_succ'.symm, rfl⟩

/-- The last report that is needed gives the message. -/
theorem push_last {first : Report} (further : List Report) (run : Run first further)
    (last : further.length + 1 = count first.messageLength) :
    outcomes ((first :: further).map push) .idle =
        List.replicate further.length (.ok none) ++
          [.ok (some (first.message further))] ∧
      stateAfter ((first :: further).map push) .idle = .idle := by
  have enough := messageLength_le_carried last
  have whole : ¬((carried first further).take first.messageLength).length <
      first.messageLength := by
    rw [List.length_take]
    omega
  rcases List.eq_nil_or_concat further with rfl | ⟨earlier, report, joined⟩
  · have pushed := push_opening run.opens
    rw [settle_eq, if_neg whole] at pushed
    rw [List.map_cons, List.map_nil, outcomes, stateAfter, pushed]
    exact ⟨rfl, rfl⟩
  · rw [List.concat_eq_append] at joined
    subst joined
    rw [List.length_append, List.length_singleton] at last ⊢
    have before : earlier.length + 1 < count first.messageLength := by omega
    obtain ⟨runBefore, continues⟩ := run.concat
    obtain ⟨seen, state⟩ := stateAfter_run earlier runBefore before
    have pushed := push_further (length_carried_lt before) continues first.messageId
    rw [settle_eq, if_neg whole] at pushed
    rw [← List.cons_append, List.map_append, outcomes_append, stateAfter_append, seen, state,
      List.map_singleton, outcomes, stateAfter, pushed]
    exact ⟨rfl, rfl⟩

/-- A further report without the marker ends the message. -/
theorem push_interrupted {first report : Report} {further : List Report}
    (run : Run first further) (more : further.length + 1 < count first.messageLength)
    (broken : ¬report.Continues) :
    outcomes ((first :: further ++ [report]).map push) .idle =
        List.replicate (further.length + 1) (.ok none) ++
          [.error (.encoding .continuationMarker)] ∧
      stateAfter ((first :: further ++ [report]).map push) .idle = .idle := by
  obtain ⟨seen, state⟩ := stateAfter_run further run more
  rw [List.map_append, outcomes_append, stateAfter_append, seen, state, List.map_singleton,
    outcomes, stateAfter, push_broken broken]
  exact ⟨rfl, rfl⟩

/-! ## Everything that can be done -/

/-- A reassembler that has a message in progress behind what was done to it: the reports that
were pushed last, to an idle one, are those of the message, it holds what they carry, and this
is less than was declared. -/
structure Collected (history : List Event) (first : Report) (further : List Report) : Prop where
  pushed : ∃ earlier, history = earlier ++ (first :: further).map Event.push ∧
    stateAfter (earlier.map Event.step) .idle = .idle
  run : Run first further
  state : stateAfter (history.map Event.step) .idle =
    .collecting first.messageId first.messageLength (carried first further)
  more : (carried first further).length < first.messageLength

/-- Behind whatever was done to it, a reassembler is idle or has collected the reports of one
message. -/
theorem idle_or_collected (history : List Event) :
    stateAfter (history.map Event.step) .idle = .idle ∨
      ∃ first further, Collected history first further := by
  induction history using List.reverseRecOn with
  | nil => exact .inl rfl
  | append_singleton history event hypothesis =>
      have after : stateAfter ((history ++ [event]).map Event.step) .idle =
          leaves (event.step (stateAfter (history.map Event.step) .idle)) := by
        rw [List.map_append, stateAfter_append]
        rfl
      cases event with
      | reset => exact .inl after
      | push report =>
          rw [Event.step] at after
          rcases hypothesis with idle | ⟨first, further, collected⟩
          · rw [idle] at after
            by_cases opens : report.Opens
            · rw [push_opening opens, settle_eq] at after
              split at after
              · rename_i short
                have more : (carried report []).length < report.messageLength := by
                  rw [List.length_take] at short
                  omega
                rw [List.take_of_length_le (Nat.le_of_lt more)] at after
                exact .inr ⟨report, [],
                  ⟨⟨history, rfl, idle⟩, ⟨opens, nofun⟩, after, more⟩⟩
              · exact .inl after
            · rw [push_refused opens] at after
              exact .inl after
          · rw [collected.state] at after
            by_cases continues : report.Continues
            · rw [push_further collected.more continues, settle_eq] at after
              split at after
              · rename_i short
                have more : (carried first (further ++ [report])).length <
                    first.messageLength := by
                  rw [List.length_take] at short
                  omega
                rw [List.take_of_length_le (Nat.le_of_lt more)] at after
                obtain ⟨earlier, rfl, idle⟩ := collected.pushed
                refine .inr ⟨first, further ++ [report],
                  ⟨⟨earlier, ?_, idle⟩, ?_, after, more⟩⟩
                · rw [List.append_assoc, ← List.cons_append, List.map_append, List.map_singleton]
                · exact ⟨collected.run.opens, List.forall_mem_append.mpr
                    ⟨collected.run.continues, List.forall_mem_singleton.mpr continues⟩⟩
              · exact .inl after
            · rw [push_broken continues] at after
              exact .inl after

/-- The places of a report at which a reassembler reads payload: they are in the report,
whatever length was declared and however much of it was received. -/
theorem slice?_payload (report : Report) (length received : Nat) :
    report.bytes.slice? headerLength (headerLength + min length firstChunk) =
        some ((report.bytes.drop headerLength).take length) ∧
      report.bytes.slice? 1 (1 + min (length - received) continuationChunk) =
        some ((report.bytes.drop 1).take (length - received)) := by
  have size : report.bytes.length = reportSize := report.length_bytes
  have first := report.bytes.slice?_eq (show headerLength ≤ _ by rw [size]; decide) length
  have further := report.bytes.slice?_eq (show 1 ≤ _ by rw [size]; decide) (length - received)
  rw [size] at first further
  exact ⟨first, further⟩

/-- An idle reassembler refuses a first report exactly when it does not begin with the mark, and
stays idle.  Reports that open a message and go on with it are all taken; the one at which they
are as many as the declared length takes gives the message, which holds what they carry up to
this length, and splitting it gives these reports again, with zeros behind.  A further report
without the marker is refused and ends the message.  Behind everything that can be done to it, a
reassembler that is not idle holds what the last reports carry, which is less than was declared,
and it reads reports at places that they have. -/
theorem accepts_exactly_frames :
    (∀ report : Report,
      ((∃ error left, push report .idle = .error error left) ↔ ¬report.Opens) ∧
      (¬report.Opens → push report .idle = .error (.encoding .reportMagic) .idle)) ∧
    (∀ (first : Report) (further : List Report), Run first further →
      further.length + 1 = count first.messageLength →
        outcomes ((first :: further).map push) .idle =
            List.replicate further.length (.ok none) ++ [.ok (some (first.message further))] ∧
          stateAfter ((first :: further).map push) .idle = .idle ∧
          (first.message further).payload.length = first.messageLength ∧
          (first.message further).packetize =
            .ok ((first :: further).mapIdx fun place report =>
              report.padded (filled first.messageLength place))) ∧
    (∀ (first : Report) (further : List Report), Run first further →
      further.length + 1 < count first.messageLength →
        outcomes ((first :: further).map push) .idle =
            List.replicate (further.length + 1) (.ok none) ∧
          ∀ report : Report, ¬report.Continues →
            outcomes ((first :: further ++ [report]).map push) .idle =
                List.replicate (further.length + 1) (.ok none) ++
                  [.error (.encoding .continuationMarker)] ∧
              stateAfter ((first :: further ++ [report]).map push) .idle = .idle) ∧
    (∀ history : List Event,
      stateAfter (history.map Event.step) .idle = .idle ∨
        ∃ first further, Collected history first further) ∧
    ∀ (report : Report) (length received : Nat),
      report.bytes.slice? headerLength (headerLength + min length firstChunk) =
          some ((report.bytes.drop headerLength).take length) ∧
        report.bytes.slice? 1 (1 + min (length - received) continuationChunk) =
          some ((report.bytes.drop 1).take (length - received)) := by
  refine ⟨fun report => ⟨exists_push_error_iff report, push_refused⟩, ?_, ?_,
    idle_or_collected, slice?_payload⟩
  · intro first further run last
    obtain ⟨seen, idle⟩ := push_last further run last
    exact ⟨seen, idle, length_message last, packetize_message run last⟩
  · intro first further run more
    exact ⟨(stateAfter_run further run more).1, fun report => push_interrupted run more⟩

/-- The first report of a message of 56 bytes. -/
def opening : Report :=
  FixedBytes.ofBytes reportSize
    (magic ++ [0, 7] ++ [0, 0, 0, 56] ++ List.replicate firstChunk 1)

/-- A report that can open a message as well as go on with one. -/
def marked : Report := FixedBytes.ofBytes reportSize (magic ++ [0, 8] ++ [0, 0, 0, 9])

/-- A second report that begins with the mark goes on with the message, and of what it carries
one byte is left when the message is split again. -/
theorem accepts_marked_continuation :
    outcomes ([opening, marked].map push) .idle =
        [.ok none, .ok (some ⟨7, List.replicate firstChunk 1 ++ [0x23]⟩)] ∧
      (RawMessage.mk 7 (List.replicate firstChunk 1 ++ [0x23])).packetize =
        .ok [opening, FixedBytes.ofBytes reportSize [marker, 0x23]] := by
  have run : Run opening [marked] :=
    ⟨show opening.bytes.take 3 = magic by decide,
      List.forall_mem_singleton.mpr (show marked.bytes.head? = some marker by decide)⟩
  obtain ⟨_, complete, _⟩ := accepts_exactly_frames
  obtain ⟨seen, _, _, split⟩ := complete opening [marked] run (by decide)
  have message : opening.message [marked] = ⟨7, List.replicate firstChunk 1 ++ [0x23]⟩ := by
    decide +kernel
  rw [message] at seen split
  refine ⟨seen, split.trans (congrArg Except.ok ?_)⟩
  rw [List.mapIdx_cons, List.mapIdx_cons, List.mapIdx_nil]
  refine congrArg₂ List.cons (FixedBytes.ext ?_) (congrArg₂ List.cons (FixedBytes.ext ?_) rfl)
  · decide +kernel
  · decide +kernel

end Reassembler
end SecurityKey
