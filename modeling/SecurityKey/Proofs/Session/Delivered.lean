import SecurityKey.Proofs.Link.Queue
import SecurityKey.Proofs.Report.Transcript
import SecurityKey.Proofs.Session.Grammar

/-!
# What a device puts together

A device sees reports, not messages.  What it puts together from the reports that a session
writes (`deliveredMessages`) are the messages that the session hands to its channel, but for
those that are too long to be split into reports, and only the first of them if a write fails
(`deliveredMessages_beginning`).

As long as nothing has failed, no message was too long and all of them are delivered
(`deliveredMessages_of_runFor`).
-/

set_option autoImplicit false

namespace SecurityKey

/-! ## Messages that are given -/

namespace Reassembler

/-- The messages that a reassembler is seen to give, in order. -/
def given (seen : List Sight) : List RawMessage :=
  seen.filterMap fun sight =>
    match sight.outcome with
    | .ok message => message
    | .error _ => none

theorem given_append (first second : List Sight) :
    given (first ++ second) = given first ++ given second := List.filterMap_append

/-- What is to be seen of a message gives it once. -/
theorem given_sights (message : RawMessage) {count : Nat} (positive : 0 < count) :
    given (sights message count) = [message] := by
  obtain ⟨last, rfl⟩ := Nat.exists_eq_add_one_of_ne_zero positive.ne'
  have early : given ((List.range last).map fun number =>
      { before := number != 0
        outcome := .ok (if number + 1 = last + 1 then some message else none)
        after := number + 1 != last + 1 }) = [] := by
    refine List.filterMap_eq_nil_iff.mpr fun sight member => ?_
    obtain ⟨number, bound, rfl⟩ := List.mem_map.mp member
    have other : number + 1 ≠ last + 1 := by
      have := List.mem_range.mp bound
      omega
    exact if_neg other
  rw [sights, List.range_succ, List.map_append, given_append, early, List.nil_append]
  simp [given]

/-- The reports of some messages give those of them that fit a header. -/
theorem given_transcript (messages : List RawMessage) {assembler : Reassembler}
    (idle : assembler.inProgress = false) :
    given (transcript (messages.flatMap RawMessage.reports) assembler) =
      messages.filter RawMessage.framable := by
  induction messages generalizing assembler with
  | nil => rfl
  | cons message rest hypothesis =>
      rw [List.flatMap_cons, transcript_append, given_append]
      cases fits : message.framable with
      | true =>
          obtain ⟨reports, framed⟩ := RawMessage.exists_packetize fits
          have own : message.reports = reports := by rw [RawMessage.reports, framed]
          obtain ⟨seen, ended⟩ := transcript_of_packetize framed idle
          have positive : 0 < Report.count message.payload.length := Nat.le_add_right 1 _
          rw [own, seen, given_sights message positive, hypothesis ended,
            List.filter_cons_of_pos fits]
          rfl
      | false =>
          have own : message.reports = [] := by
            rw [RawMessage.reports, RawMessage.packetize_of_not_framable fits]
          rw [own, List.filter_cons_of_neg (by rw [fits]; exact Bool.false_ne_true)]
          exact hypothesis idle

/-- What is seen of the first reports is seen first. -/
theorem transcript_beginning {first second : List Report} (beginning : first <+: second)
    (assembler : Reassembler) : transcript first assembler <+: transcript second assembler := by
  obtain ⟨rest, rfl⟩ := beginning
  rw [transcript_append]
  exact List.prefix_append _ _

end Reassembler

/-! ## Messages that are delivered -/

/-- The messages that a device puts together from the reports that are written. -/
def deliveredMessages (events : List Event) : List RawMessage :=
  Reassembler.given (Reassembler.transcript (writtenReports events) .idle)

/-- The device puts together messages that were handed over and fit a header, in order. -/
theorem deliveredMessages_beginning {events : List Event} {stop : Option Halt}
    (delivers : Delivers events stop) :
    deliveredMessages events <+: (handedMessages events).filter RawMessage.framable := by
  have whole := @Reassembler.given_transcript (handedMessages events) .idle rfl
  rw [← whole]
  exact (Reassembler.transcript_beginning delivers.beginning .idle).filterMap _

/-- If nothing fails it puts together all of them. -/
theorem deliveredMessages_eq {events : List Event} (delivers : Delivers events none) :
    deliveredMessages events = (handedMessages events).filter RawMessage.framable := by
  rw [deliveredMessages, delivers.all rfl]
  exact Reassembler.given_transcript _ rfl

/-! ## Messages that are too long -/

/-- What is handed over is what is said. -/
theorem mem_handedMessages_iff {message : RawMessage} {events : List Event} :
    message ∈ handedMessages events ↔ .said message ∈ talkOf events := by
  rw [handedMessages, talkOf, List.mem_filterMap, List.mem_filterMap]
  refine exists_congr fun event => and_congr_right fun _ => ?_
  cases event with
  | handed other => simp [Event.talk?]
  | asked interaction outcome => cases outcome <;> simp [Event.talk?]
  | wrote | read | assembled | received | decoded | shown => simp [Event.talk?]

/-- A message that is too long to be split is the end. -/
def EndsAtLong (events : List Event) (stop : Option Halt) : Prop :=
  stop = none → ∀ message ∈ handedMessages events, message.framable = true

theorem EndsAtLong.of_silent {events : List Event} (stop : Option Halt)
    (silent : talkOf events = []) : EndsAtLong events stop := by
  intro _ message handed
  rw [mem_handedMessages_iff, silent] at handed
  cases handed

namespace Session

variable {σ π : Type} [Link σ] [Prompt π]

/-- That a message that is too long is the end is a law of the parts of a session. -/
theorem lawful_endsAtLong : Lawful σ π EndsAtLong where
  nothing stop := .of_silent stop rfl
  append := by
    intro first second stop earlier later complete message handed
    rw [handedMessages_append] at handed
    rcases List.mem_append.mp handed with before | behind
    · exact earlier rfl message before
    · exact later complete message behind
  send := by
    rintro (error | request) channel
    · exact .of_silent _ rfl
    · intro complete message handed
      rw [mem_handedMessages_iff, Channel.talkOf_sendEvents, List.mem_singleton] at handed
      cases handed
      by_contra long
      rw [Channel.sendEncoded, Channel.send,
        RawMessage.packetize_of_not_framable (eq_false_of_ne_true long)] at complete
      cases complete
  receive channel := .of_silent _ (Channel.talkOf_collectEvents .idle channel)
  read stage message := by
    intro _ other handed
    rw [mem_handedMessages_iff] at handed
    have heard : talkOf (.received stage message :: stage.decodeEvents message) =
        [.heard stage message] :=
      congrArg (List.cons _) (Stage.talkOf_decodeEvents stage message)
    rw [heard, List.mem_singleton] at handed
    cases handed
  consult interaction prompt := by
    intro _ message handed
    rw [mem_handedMessages_iff] at handed
    cases asked : consult interaction prompt with
    | error error next =>
        rw [talkOf_consult_error asked] at handed
        cases handed
    | ok text next =>
        rw [talkOf_consult_ok asked] at handed
        cases interaction <;> simp [Interaction.telling] at handed

/-- While nothing has failed, all that was handed over is delivered. -/
theorem deliveredMessages_of_runFor {hash : HashFunction} {mode : Mode} {rounds : Nat}
    {session : Session σ π} (well : (runFor hash mode rounds session).halted? = none) :
    deliveredMessages (history hash mode rounds session) =
      handedMessages (history hash mode rounds session) := by
  have delivers : Delivers (history hash mode rounds session) _ :=
    lawful_delivers.runFor rounds session
  have short : EndsAtLong (history hash mode rounds session) _ :=
    lawful_endsAtLong.runFor rounds session
  rw [well] at delivers
  rw [deliveredMessages_eq delivers]
  exact List.filter_eq_self.mpr (short well)

end Session
end SecurityKey
