import SecurityKey.Proofs.Report.Completion
import SecurityKey.Proofs.Steps

/-!
# What is seen of a reassembler

Of every report that is pushed one sees whether a message was in progress before it, what the
push came to, and whether a message is in progress after it (`Sight`); the transcript of some
reports is what is seen of them in turn.

Reports that complete a message look the same whatever they hold: no message is in progress
at first, one is from then on, and the last report gives the message and ends it
(`transcript_completes`).  Hence the transcript of the reports of some messages is known in
full (`transcript_packetize`), and nothing that happened to an idle reassembler before shows
in it.
-/

set_option autoImplicit false

namespace SecurityKey
namespace Reassembler

/-! ## Sights -/

/-- Something that is done to a reassembler. -/
inductive Event where
  | push (report : Report)
  | reset

/-- How it is done. -/
def Event.step : Event → EStateM Error Reassembler (Option RawMessage)
  | .push report => Reassembler.push report
  | .reset => do
      Reassembler.reset
      pure none

/-- What is seen of a push. -/
structure Sight where
  /-- Whether a message was in progress before it. -/
  before : Bool
  /-- What it came to. -/
  outcome : Except Error (Option RawMessage)
  /-- Whether a message is in progress after it. -/
  after : Bool

/-- What is seen of some reports that are pushed in turn. -/
def transcript : List Report → Reassembler → List Sight
  | [], _ => []
  | report :: rest, assembler =>
      let pushed := push report assembler
      ⟨assembler.inProgress, outcome pushed, (leaves pushed).inProgress⟩ ::
        transcript rest (leaves pushed)

/-- What is to be seen of a message that takes `count` reports: it is in progress between the
first report and the last, and the last one gives it. -/
def sights (message : RawMessage) (count : Nat) : List Sight :=
  (List.range count).map fun number =>
    { before := number != 0
      outcome := .ok (if number + 1 = count then some message else none)
      after := number + 1 != count }

/-! ## One message -/

/-- A push that does not fail leaves a message in progress unless it gives one. -/
theorem inProgress_of_push {report : Report} {assembler next : Reassembler}
    {message : Option RawMessage} (pushed : push report assembler = .ok message next) :
    next.inProgress = message.isNone := by
  have settled : ∀ (id : UInt16) (length : Nat) (received : Bytes) (before : Reassembler),
      settle id length received before = .ok message next → next.inProgress = message.isNone := by
    intro id length received before settled
    rw [settle_eq] at settled
    split at settled
    · cases settled
      rfl
    · cases settled
      rfl
  cases assembler with
  | idle =>
      rw [push_idle] at pushed
      split at pushed
      · exact settled _ _ _ _ pushed
      · cases pushed
  | collecting id length received =>
      rw [push_collecting] at pushed
      split at pushed
      · exact settled _ _ _ _ pushed
      · cases pushed

theorem transcript_append (first second : List Report) (assembler : Reassembler) :
    transcript (first ++ second) assembler =
      transcript first assembler ++
        transcript second (stateAfter (first.map push) assembler) := by
  induction first generalizing assembler with
  | nil => rfl
  | cons report rest hypothesis =>
      exact congrArg (List.cons _) (hypothesis (leaves (push report assembler)))

/-- Reports that complete a message are seen to do so, and they leave no message in progress. -/
theorem transcript_completes {assembler : Reassembler} {reports : List Report}
    {message : RawMessage} (completes : Completes assembler reports message) :
    (transcript reports assembler =
      (List.range reports.length).map fun number =>
        { before := if number = 0 then assembler.inProgress else true
          outcome := .ok (if number + 1 = reports.length then some message else none)
          after := number + 1 != reports.length }) ∧
    (stateAfter (reports.map push) assembler).inProgress = false := by
  induction completes with
  | @last assembler next report message pushed =>
      have ended := inProgress_of_push pushed
      simp only [transcript, List.map_cons, List.map_nil, stateAfter, pushed, outcome, leaves]
      exact ⟨congrArg (fun after => [Sight.mk assembler.inProgress (.ok (some message)) after])
        ended, ended⟩
  | @more assembler next report rest message pushed others hypothesis =>
      obtain ⟨seen, ended⟩ := hypothesis
      have going : next.inProgress = true := inProgress_of_push pushed
      have more : 0 + 1 ≠ (report :: rest).length := by
        obtain ⟨second, behind, rfl⟩ := others.exists_cons
        simp
      have numbers : List.range (report :: rest).length =
          0 :: (List.range rest.length).map Nat.succ := List.range_succ_eq_map
      simp only [List.map_cons, stateAfter, transcript, pushed, outcome, leaves]
      refine ⟨?_, ended⟩
      rw [seen, going, numbers, List.map_cons, List.map_map, if_pos rfl, if_neg more,
        bne_iff_ne.mpr more]
      refine congrArg (List.cons _) (List.map_congr_left fun number _ => ?_)
      simp

/-- The reports that a message is split into are as many as its length takes, and pushed in
turn they give the message, and only at the last one. -/
theorem transcript_of_packetize {message : RawMessage} {reports : List Report}
    (framed : message.packetize = .ok reports) {assembler : Reassembler}
    (idle : assembler.inProgress = false) :
    transcript reports assembler = sights message (Report.count message.payload.length) ∧
      (stateAfter (reports.map push) assembler).inProgress = false := by
  have standing : assembler = .idle := by
    cases assembler with
    | idle => rfl
    | collecting id length received => cases idle
  subst standing
  obtain ⟨seen, ended⟩ := transcript_completes (completes_packetize framed)
  refine ⟨?_, ended⟩
  rw [seen, RawMessage.length_packetize framed, sights]
  refine List.map_congr_left fun number _ => ?_
  cases number with
  | zero => rfl
  | succ number => rfl

/-! ## Some messages -/

theorem exists_transcript (messages : List RawMessage)
    (fits : ∀ message ∈ messages, message.payload.length < 2 ^ 32) {assembler : Reassembler}
    (idle : assembler.inProgress = false) :
    ∃ streams, messages.mapM RawMessage.packetize = .ok streams ∧
      streams.map List.length =
        messages.map (fun message => Report.count message.payload.length) ∧
      transcript streams.flatten assembler =
        messages.flatMap (fun message => sights message (Report.count message.payload.length)) ∧
      (stateAfter (streams.flatten.map push) assembler).inProgress = false := by
  induction messages generalizing assembler with
  | nil => exact ⟨[], rfl, rfl, rfl, idle⟩
  | cons message rest hypothesis =>
      obtain ⟨short, shortRest⟩ := List.forall_mem_cons.mp fits
      have within : message.payload.length ≤ Report.maximumPayload := Nat.le_sub_one_of_lt short
      have framed : message.packetize = .ok (Report.first message ::
          Report.continuations (message.payload.drop Report.firstChunk)) := if_pos within
      generalize Report.first message :: _ = reports at framed
      obtain ⟨seen, ended⟩ := transcript_of_packetize framed idle
      obtain ⟨streams, split, lengths, seenRest, endedRest⟩ := hypothesis shortRest ended
      refine ⟨reports :: streams, ?_, ?_, ?_, ?_⟩
      · rw [List.mapM_cons, framed, split]
        rfl
      · rw [List.map_cons, List.map_cons, RawMessage.length_packetize framed, lengths]
      · rw [List.flatten_cons, transcript_append, seen, seenRest, List.flatMap_cons]
      · rw [List.flatten_cons, List.map_append, stateAfter_append]
        exact endedRest

/-- Messages that fit a header are split into as many reports as their lengths take.  Pushed in
turn to a reassembler that has no message in progress, whatever was done to it before, these
reports are seen to give each of the messages, unchanged and in order: none of them fails, each
message is given at its own last report and not before, and a message is in progress between
its first report and its last one, and at no other time. -/
theorem transcript_of_messages (history : List Event)
    (idle : (stateAfter (history.map Event.step) .idle).inProgress = false)
    (messages : List RawMessage)
    (fits : ∀ message ∈ messages, message.payload.length < 2 ^ 32) :
    ∃ streams, messages.mapM RawMessage.packetize = .ok streams ∧
      streams.map List.length =
        messages.map (fun message => Report.count message.payload.length) ∧
      transcript streams.flatten (stateAfter (history.map Event.step) .idle) =
        messages.flatMap (fun message => sights message (Report.count message.payload.length)) ∧
      (stateAfter (streams.flatten.map push)
        (stateAfter (history.map Event.step) .idle)).inProgress = false :=
  exists_transcript messages fits idle

/-- A message that was begun, a report without a mark that ended it, and a message that was
begun and given up. -/
def someHistory : List Event :=
  [.push (Report.first ⟨7, List.replicate 100 1⟩), .push (FixedBytes.zero reportSize),
    .push (Report.first ⟨7, List.replicate 100 1⟩), .reset]

theorem transcript_of_two_messages :
    ∃ streams,
      [RawMessage.mk 62 [], ⟨54, List.replicate 100 1⟩].mapM RawMessage.packetize = .ok streams ∧
        streams.map List.length = [1, 2] ∧
        transcript streams.flatten (stateAfter (someHistory.map Event.step) .idle) =
          [⟨false, .ok (some ⟨62, []⟩), false⟩, ⟨false, .ok none, true⟩,
            ⟨true, .ok (some ⟨54, List.replicate 100 1⟩), false⟩] := by
  have idle : (stateAfter (someHistory.map Event.step) .idle).inProgress = false := by
    decide +kernel
  have fits : ∀ message ∈ [RawMessage.mk 62 [], ⟨54, List.replicate 100 1⟩],
      message.payload.length < 2 ^ 32 := by decide
  obtain ⟨streams, split, lengths, seen, _⟩ :=
    transcript_of_messages someHistory idle _ fits
  exact ⟨streams, split, lengths, seen⟩

end Reassembler
end SecurityKey
