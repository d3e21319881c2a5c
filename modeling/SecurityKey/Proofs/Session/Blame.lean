import SecurityKey.Proofs.Report.Completion
import SecurityKey.Proofs.Schema.Refusals
import SecurityKey.Proofs.Session.Life
import SecurityKey.Proofs.Session.SecretLength

/-!
# Which errors of a device are counted

A device can end a run in three ways: with a report that does not belong where it stands, with
a payload that cannot be read, and with a failure message (`Blame`).  The counter of errors is
meant for all of them.  It counts the first and the last, once, and leaves out the payloads
that cannot be read: nothing on their way to the result of the run counts them.

`Charges` says of a part of a session what it does to the counter and why, and
`errors_of_returned` says it of a whole run: the last event of the run tells whether the
device is to blame, a run that gives a secret has counted nothing, and the counter is what it
is meant to be exactly if no payload was unreadable.  Over a finite link `errors_of_run` says it
of the run and of everything that is done in it.
-/

set_option autoImplicit false

namespace SecurityKey

/-! ## What a device is to blame for -/

/-- What a device did to end a run. -/
inductive Blame where
  /-- It sent a report that does not belong where it stands. -/
  | framing
  /-- It sent a payload that cannot be read. -/
  | unreadable
  /-- It said that it has failed. -/
  | failure
  deriving DecidableEq

namespace Blame

/-- The errors that are counted for it. -/
def counted : Blame → UInt64
  | .framing | .failure => 1
  | .unreadable => 0

/-- The errors that a run can come to for it. -/
def Brings : Blame → Error → Prop
  | .framing, error => ∃ fault, error = .encoding fault
  | .unreadable, error => error.isRefusal = true
  | .failure, error => ∃ text, error = .deviceFailure text

/-- Whoever is to blame is counted once, unless it is for a payload that cannot be read. -/
theorem counted_eq_iff (errors : UInt64) (blame : Option Blame) :
    errors + blame.elim 0 counted = errors + (if blame.isSome then 1 else 0) ↔
      blame ≠ some .unreadable := by
  rw [UInt64.add_right_inj]
  cases blame with
  | none => decide
  | some kind => cases kind <;> decide

end Blame

/-- What the device is to blame for in an event.  A session that does not wait for an answer
forgives the device whatever a payload holds. -/
def Event.blame? : Event → Option Blame
  | .assembled (.error _) => some .framing
  | .decoded stage kind outcome =>
      if stage.awaits then
        match outcome with
        | .error _ => some .unreadable
        | .ok () => if kind = .failure then some .failure else none
      else
        none
  | _ => none

/-- Events in which the device is not to blame for anything. -/
def Blameless (events : List Event) : Prop := ∀ event ∈ events, event.blame? = none

namespace Blameless

theorem nil : Blameless [] := fun _ member => by cases member

theorem cons {event : Event} {rest : List Event} (innocent : event.blame? = none)
    (others : Blameless rest) : Blameless (event :: rest) :=
  List.forall_mem_cons.mpr ⟨innocent, others⟩

theorem append {first second : List Event} (earlier : Blameless first)
    (later : Blameless second) : Blameless (first ++ second) :=
  List.forall_mem_append.mpr ⟨earlier, later⟩

end Blameless

/-- What a part of a session does to the counter of errors, and what it fails with if it fails.
The device is to blame for the last event or for none. -/
inductive Charges (before : UInt64) : List Event → Option Halt → UInt64 → Prop where
  | nothing {events : List Event} (stop : Option Halt) (blameless : Blameless events) :
      Charges before events stop before
  | last {events : List Event} {event : Event} {blame : Blame} {error : Error}
      (blameless : Blameless events) (blamed : event.blame? = some blame)
      (brings : blame.Brings error) :
      Charges before (events ++ [event]) (some (.failed error)) (before + blame.counted)

namespace Charges

variable {before between after : UInt64} {first second : List Event} {stop : Option Halt}

/-- What succeeds has counted nothing. -/
theorem of_none (charges : Charges before first none after) :
    Blameless first ∧ after = before := by
  cases charges with
  | nothing _ blameless => exact ⟨blameless, rfl⟩

/-- Something blameless may come before. -/
theorem after_blameless (blameless : Blameless first)
    (charges : Charges before second stop after) :
    Charges before (first ++ second) stop after := by
  cases charges with
  | nothing _ others => exact .nothing stop (blameless.append others)
  | last others blamed brings =>
      rw [← List.append_assoc]
      exact .last (blameless.append others) blamed brings

/-- One event that is blameless may come before. -/
theorem cons {event : Event} (innocent : event.blame? = none)
    (charges : Charges before second stop after) :
    Charges before (event :: second) stop after :=
  charges.after_blameless (.cons innocent .nil)

/-- One event for which the device is to blame. -/
theorem single {event : Event} {blame : Blame} {error : Error}
    (blamed : event.blame? = some blame) (brings : blame.Brings error) :
    Charges before [event] (some (.failed error)) (before + blame.counted) :=
  .last .nil blamed brings

/-- Something that succeeds may come before. -/
theorem append (earlier : Charges before first none between)
    (later : Charges between second stop after) :
    Charges before (first ++ second) stop after := by
  obtain ⟨blameless, rfl⟩ := earlier.of_none
  exact later.after_blameless blameless

/-- What the last event says of the counter and of the failure. -/
theorem of_last (charges : Charges before first stop after) :
    let blame := first.getLast?.bind Event.blame?
    Blameless first.dropLast ∧
    (∀ kind ∈ blame, ∃ error, stop = some (.failed error) ∧ kind.Brings error) ∧
    after = before + blame.elim 0 Blame.counted := by
  cases charges with
  | nothing _ blameless =>
      have innocent : first.getLast?.bind Event.blame? = none := by
        rw [Option.bind_eq_none_iff]
        intro event last
        exact blameless event (List.mem_of_getLast? last)
      rw [innocent]
      refine ⟨fun event member => blameless event (List.dropLast_subset _ member), ?_, ?_⟩
      · intro kind member
        cases member
      · exact (UInt64.add_zero before).symm
  | @last events event blame error blameless blamed brings =>
      have guilty : (events ++ [event]).getLast?.bind Event.blame? = some blame := by
        rw [List.getLast?_concat]
        exact blamed
      rw [guilty, List.dropLast_concat]
      refine ⟨blameless, ?_, rfl⟩
      intro kind member
      cases member
      exact ⟨error, rfl, brings⟩

/-- Nobody is to blame for what has not failed. -/
theorem blame_eq_none (charges : Charges before first stop after)
    (unfailed : ∀ error, stop ≠ some (.failed error)) :
    first.getLast?.bind Event.blame? = none := by
  obtain ⟨_, brings, _⟩ := charges.of_last
  rw [Option.eq_none_iff_forall_not_mem]
  intro kind member
  obtain ⟨error, failed, _⟩ := brings kind member
  exact unfailed error failed

end Charges

/-! ## Channels -/

namespace Channel

variable {σ : Type}

/-- The errors that a channel has counted. -/
def errors (channel : Channel σ) : UInt64 := channel.metrics.protocolErrors

variable [Link σ]

theorem charges_writeReports (reports : List Report) (channel : Channel σ) :
    Charges channel.errors (writeEvents reports channel) (halted (writeReports reports channel))
      (leaves (writeReports reports channel)).errors := by
  induction reports generalizing channel with
  | nil => exact .nothing none .nil
  | cons report rest hypothesis =>
      rw [writeEvents, writeReports]
      cases Link.write report (some channel.writeTimeout) channel.link with
      | ok _ link => exact .after_blameless (.cons rfl .nil) (hypothesis { channel with link })
      | error halt link => exact .nothing _ (.cons rfl .nil)

theorem charges_sendEncoded (encoded : Except Error RawMessage) (channel : Channel σ) :
    Charges channel.errors (sendEvents encoded channel) (halted (sendEncoded encoded channel))
      (leaves (sendEncoded encoded channel)).errors := by
  cases encoded with
  | error error => exact .nothing _ .nil
  | ok message =>
      rw [sendEncoded, send, sendEvents]
      refine .cons rfl ?_
      cases message.packetize with
      | error error => exact .nothing _ .nil
      | ok reports =>
          have wrote := charges_writeReports reports channel
          dsimp only
          cases ran : writeReports reports channel with
          | ok _ next =>
              rw [ran] at wrote
              exact wrote
          | error halt next =>
              rw [ran] at wrote
              exact wrote

theorem charges_collect (assembler : Reassembler) (channel : Channel σ) :
    Charges channel.errors (collectEvents assembler channel) (halted (collect assembler channel))
      (leaves (collect assembler channel)).errors := by
  fun_induction collect assembler channel with
  | case1 assembler channel halt link failed =>
      rw [collectEvents_of_failed failed]
      exact .nothing _ (.cons rfl .nil)
  | case2 assembler channel report link arrived counted following pushed hypothesis =>
      rw [collectEvents_of_more arrived pushed]
      exact .cons rfl (.cons rfl hypothesis)
  | case3 assembler channel report link arrived counted message following pushed =>
      rw [collectEvents_of_message arrived pushed]
      exact .nothing _ (.cons rfl (.cons rfl .nil))
  | case4 assembler channel report link arrived counted error following pushed =>
      rw [collectEvents_of_fault arrived pushed]
      have brings : Blame.framing.Brings error := Reassembler.encoding_of_push pushed
      exact .cons rfl (.single rfl brings)

end Channel

/-! ## Messages -/

/-- The errors that a session counts for an error that a message has brought. -/
def Error.failures : Error → UInt64
  | .deviceFailure _ => 1
  | _ => 0

theorem Error.failures_of_isRefusal {error : Error} (refusal : error.isRefusal = true) :
    error.failures = 0 := by
  cases error <;> first | rfl | cases refusal

namespace Stage

variable {hash : HashFunction} {mode : Mode} {info : HostInfo} {stage : Stage}

/-- What is seen of the payload of a message of a known kind. -/
theorem decodeEvents_known {message : RawMessage} {kind : MessageKind}
    (known : MessageKind.ofId? message.id = some kind) :
    stage.decodeEvents message =
      if stage.opens kind then
        [.decoded stage kind ((fun _ => ()) <$> kind.schema.decode message.payload)]
      else
        [] := by
  rw [decodeEvents, known]

/-- Either a message brings a move, and the device is not to blame for what it holds, or the
session ends with an error and counts it as it counts the failures of a device. -/
theorem charges_answer_of_awaits (awaiting : stage.awaits) (message : RawMessage)
    (errors : UInt64) :
    (∃ move, stage.answer hash mode info message = .ok move ∧
      Blameless (stage.decodeEvents message)) ∨
    ∃ error, stage.answer hash mode info message = .error error ∧
      Charges errors (stage.decodeEvents message) (some (.failed error))
        (errors + error.failures) := by
  cases known : MessageKind.ofId? message.id with
  | none =>
      have uncounted : (Error.unsupportedMessage message.id).failures = 0 := rfl
      refine .inr ⟨_, answer_unknown awaiting known, ?_⟩
      rw [decodeEvents, known, uncounted, UInt64.add_zero]
      exact .nothing _ .nil
  | some kind =>
      rw [decodeEvents_known known]
      cases opened : stage.opens kind with
      | false =>
          refine .inr ⟨_, answer_of_not_opens awaiting known opened, ?_⟩
          have uncounted : (if kind.isResult then Error.unexpectedMessage
              else .unsupportedMessage message.id).failures = 0 := by
            split <;> rfl
          rw [if_neg Bool.false_ne_true, uncounted, UInt64.add_zero]
          exact .nothing _ .nil
      | true =>
          rw [if_pos rfl]
          cases decoded : kind.schema.decode message.payload with
          | error error =>
              -- What cannot be read is no failure of the device, so it is not counted as one.
              have refusal := Schema.error_of_decode decoded
              have brings : Blame.unreadable.Brings error := refusal
              have blamed : Event.blame? (.decoded stage kind (.error error)) =
                  some .unreadable := if_pos awaiting
              refine .inr ⟨error, answer_of_unreadable awaiting known opened decoded, ?_⟩
              rw [Error.failures_of_isRefusal refusal]
              exact .single blamed brings
          | ok record =>
              rw [answer_known awaiting known]
              by_cases failed : kind = .failure
              · subst failed
                obtain ⟨text, answered⟩ := answerKind_failure decoded
                have brings : Blame.failure.Brings (.deviceFailure text) := ⟨text, rfl⟩
                have blamed : Event.blame? (.decoded stage .failure (.ok ())) =
                    some .failure := if_pos awaiting
                exact .inr ⟨_, answered, .single blamed brings⟩
              · obtain ⟨move, answered⟩ := exists_move_of_readable opened failed decoded
                refine .inl ⟨move, answered, .cons ?_ .nil⟩
                exact (if_pos awaiting).trans (if_neg failed)

/-- So it is in every stage: before and after the dialogue, nothing is counted. -/
theorem charges_answer (stage : Stage) (message : RawMessage) (errors : UInt64) :
    (∃ move, stage.answer hash mode info message = .ok move ∧
      Blameless (stage.decodeEvents message)) ∨
    ∃ error, stage.answer hash mode info message = .error error ∧
      Charges errors (stage.decodeEvents message) (some (.failed error))
        (errors + error.failures) := by
  cases stage with
  | handshake =>
      refine .inl ⟨_, rfl, ?_⟩
      rw [decodeEvents]
      split
      · exact .nil
      · split
        · exact .cons rfl .nil
        · exact .nil
  | done =>
      have uncounted : (Error.state .sessionFinished).failures = 0 := rfl
      refine .inr ⟨_, rfl, ?_⟩
      rw [decodeEvents, uncounted, UInt64.add_zero]
      split
      · exact .nothing _ .nil
      · exact .nothing _ .nil
  | awaitingPeerKey | awaitingSecret => exact charges_answer_of_awaits rfl message errors

end Stage

namespace Session

variable {σ π : Type}

/-- The errors that a session has counted. -/
def errors (session : Session σ π) : UInt64 := session.channel.errors

theorem errors_countFailure (error : Error) (session : Session σ π) :
    (session.countFailure error).errors = session.errors + error.failures := by
  cases error with
  | deviceFailure text => rfl
  | _ => exact (UInt64.add_zero _).symm

variable [Link σ]

theorem charges_send (request : Except Error RawMessage) (session : Session σ π) :
    Charges session.errors (Channel.sendEvents request session.channel)
      (halted (send request session)) (leaves (send request session)).errors := by
  have sent := Channel.charges_sendEncoded request session.channel
  rw [send, halted_onChannel, onChannel]
  change Charges _ _ (halted (Channel.sendEncoded request session.channel)) _
  dsimp only [note, tell]
  cases ran : Channel.sendEncoded request session.channel with
  | ok _ next =>
      rw [ran] at sent
      exact sent
  | error halt next =>
      rw [ran] at sent
      exact sent

theorem errors_advance (request : Except Error RawMessage) (stage : Stage)
    (session : Session σ π) :
    (leaves (advance request stage session)).errors = (leaves (send request session)).errors := by
  rw [advance]
  cases send request session with
  | ok _ next => rfl
  | error halt next => rfl

variable [Prompt π] {hash : HashFunction} {mode : Mode}

omit [Link σ] in
theorem blameless_consult (interaction : Interaction) (prompt : π) :
    Blameless (consultEvents interaction prompt) := by
  refine .append ?_ ?_
  · intro event member
    obtain ⟨line, _, rfl⟩ := List.mem_map.mp member
    rfl
  · split
    · exact .nil
    · exact .cons rfl .nil

theorem charges_interact (interaction : Interaction) (session : Session σ π) :
    Charges session.errors (interactEvents interaction session)
      (halted (interact interaction session)) (leaves (interact interaction session)).errors := by
  have blameless := blameless_consult interaction session.prompt
  rw [interactEvents]
  cases asked : consult interaction session.prompt with
  | error error prompt =>
      rw [interact_of_error asked, List.append_nil]
      exact .nothing _ blameless
  | ok text prompt =>
      rw [interact_of_ok asked]
      exact .after_blameless blameless
        (charges_send (interaction.acknowledgement text) (session.answered interaction prompt))

/-- No move counts an error. -/
theorem charges_makeMove (move : Move) (session : Session σ π) :
    Charges session.errors (moveEvents (.ok move) session) (makeMove (.ok move) session).halted?
      (makeMove (.ok move) session).session.errors := by
  cases move with
  | wait => exact .nothing _ .nil
  | finish secret => exact .nothing _ .nil
  | interact interaction =>
      rw [makeMove, halted?_goOn, session_goOn]
      exact charges_interact interaction session
  | advance request stage =>
      rw [makeMove, halted?_goOn, session_goOn, halted_advance, errors_advance]
      exact charges_send request session

theorem charges_round (session : Session σ π) :
    Charges session.errors (roundEvents hash mode session) (round hash mode session).halted?
      (round hash mode session).session.errors := by
  have received := Channel.charges_collect .idle session.channel
  rw [roundEvents, round, Channel.receive]
  cases arrived : Channel.collect .idle session.channel with
  | error halt channel =>
      rw [arrived] at received
      rw [List.append_nil]
      exact received
  | ok message channel =>
      rw [arrived] at received
      refine received.append ?_
      dsimp only
      rw [← List.cons_append]
      -- Only a message without a move can be charged, and then nothing follows it.
      obtain ⟨move, answered, blameless⟩ | ⟨error, answered, charges⟩ :=
        session.stage.charges_answer message channel.errors
      · have moved := charges_makeMove move { session.noteMessage message with channel }
        rw [answered]
        exact moved.after_blameless (.cons rfl blameless)
      · rw [answered, moveEvents, List.append_nil, makeMove]
        have counted := errors_countFailure error { session.noteMessage message with channel }
        change Charges _ _ _ (countFailure error _).errors
        rw [counted]
        exact charges.cons rfl

theorem charges_exchangeFor (rounds : Nat) (session : Session σ π) :
    Charges session.errors (exchangeEvents hash mode rounds session)
      (exchangeFor hash mode rounds session).halted?
      (exchangeFor hash mode rounds session).session.errors := by
  induction rounds with
  | zero =>
      rw [exchangeFor, Function.iterate_zero, id, halted?_goOn, session_goOn]
      exact charges_send HostInfo.opening session
  | succ rounds hypothesis =>
      rw [exchangeFor_succ, exchangeEvents]
      cases stands : exchangeFor hash mode rounds session with
      | underway following =>
          rw [stands] at hypothesis
          exact hypothesis.append (charges_round following)
      | complete result =>
          rw [stands] at hypothesis
          rw [Progress.nextEvents, List.append_nil]
          exact hypothesis

/-- What holds of an exchange holds of a run: nothing is counted where it ends. -/
theorem charges_runFor (rounds : Nat) (session : Session σ π) :
    Charges session.errors (history hash mode rounds session)
      (runFor hash mode rounds session).halted?
      (runFor hash mode rounds session).session.errors := by
  have charges : Charges session.errors (exchangeEvents hash mode rounds session) _ _ :=
    charges_exchangeFor rounds session
  rw [history, runFor]
  split
  · cases stands : exchangeFor hash mode rounds session with
    | underway following =>
        rw [stands] at charges
        exact charges
    | complete result =>
        rw [stands] at charges
        cases result with
        | ok secret next => exact charges
        | error halt next =>
            cases halt with
            | failed error => exact charges
            | waitsForever => exact charges
  · exact .nothing _ .nil

omit [Link σ] [Prompt π] in
theorem Progress.halted?_of_returned {progress : Progress σ π}
    {result : Except Error DerivedSecret} {next : Session σ π}
    (returned : progress.returned? = some (result, next)) {error : Error}
    (failed : progress.halted? = some (.failed error)) : result = .error error := by
  rw [Progress.returned?_of_failed failed] at returned
  cases returned
  rfl

/-- The last event of a run that has returned tells whether the device is to blame for its end;
if so, the run fails with an error of that kind.  A bad report and a failure message have been
counted once, an unreadable payload has not, and nothing else has.  So the counter has the
errors that it is meant to have, one if the device is to blame, exactly if no payload was
unreadable. -/
theorem errors_of_returned {rounds : Nat} {channel : Channel σ} {prompt : π} {info : HostInfo}
    {result : Except Error DerivedSecret} {next : Session σ π}
    (returned : (runFor hash mode rounds (start channel prompt info)).returned? =
      some (result, next)) :
    let events := history hash mode rounds (start channel prompt info)
    let blame := events.getLast?.bind Event.blame?
    let errors := channel.metrics.protocolErrors
    (∀ event ∈ events.dropLast, event.blame? = none) ∧
    (∀ kind ∈ blame, ∃ error, result = .error error ∧ kind.Brings error) ∧
    (∀ secret, result = .ok secret → blame = none) ∧
    next.channel.metrics.protocolErrors = errors + blame.elim 0 Blame.counted ∧
    (next.channel.metrics.protocolErrors = errors + (if blame.isSome then 1 else 0) ↔
      blame ≠ some .unreadable) := by
  intro events blame errors
  have charges : Charges errors events _ _ := charges_runFor rounds (start channel prompt info)
  obtain ⟨innocent, brings, counted⟩ := charges.of_last
  rw [Progress.session_of_returned returned] at counted
  change next.channel.metrics.protocolErrors = errors + blame.elim 0 Blame.counted at counted
  refine ⟨innocent, ?fails, ?spares, counted, ?meant⟩
  case fails =>
    intro kind member
    obtain ⟨error, failed, brought⟩ := brings kind member
    exact ⟨error, Progress.halted?_of_returned returned failed, brought⟩
  case spares =>
    rintro secret rfl
    refine charges.blame_eq_none fun error failed => ?_
    cases Progress.halted?_of_returned returned failed
  case meant =>
    rw [counted]
    exact Blame.counted_eq_iff errors blame

/-- A failure message that ends a run has been counted. -/
theorem errors_of_returned_failure :
    ∃ next, (runFor Digest.sha256 .legacy 2 (greetedBy ⟨MessageKind.failure.id, []⟩)).returned? =
        some (.error (.deviceFailure ""), next) ∧
      next.channel.metrics.protocolErrors = 1 := by
  have failed : (runFor Digest.sha256 .legacy 2
      (greetedBy ⟨MessageKind.failure.id, []⟩)).halted? = some (.failed (.deviceFailure "")) := by
    decide +kernel
  have blamed : (history Digest.sha256 .legacy 2
      (greetedBy ⟨MessageKind.failure.id, []⟩)).getLast?.bind Event.blame? = some .failure := by
    decide +kernel
  have returned := Progress.returned?_of_failed failed
  obtain ⟨_, _, _, counted, _⟩ := errors_of_returned returned
  refine ⟨_, returned, counted.trans ?_⟩
  have same := congrArg (fun blame => Option.elim blame 0 Blame.counted) blamed
  exact congrArg (0 + ·) same

/-- A run that is ended by an unreadable signature has counted no error, though the device is
to blame for its end. -/
theorem unreadable_payload_is_not_counted :
    let session := greetedBy ⟨MessageKind.signedIdentity.id, [0x0a]⟩
    (history Digest.sha256 .legacy 2 session).getLast?.bind Event.blame? = some .unreadable ∧
    outcome (run Digest.sha256 .legacy session) = .error (.failed (.encoding .varintEnd)) ∧
    (leaves (run Digest.sha256 .legacy session)).channel.metrics.protocolErrors = 0 := by
  decide +kernel

/-! ## Runs over finite links -/

section Finite

variable {σ π : Type} [FiniteLink σ] [Prompt π]

theorem charges_run (hash : HashFunction) (mode : Mode) (session : Session σ π) :
    Charges session.errors (runEvents hash mode session) (halted (run hash mode session))
      (leaves (run hash mode session)).errors :=
  law_of_runFor
    (fun events stands => Charges session.errors events stands.halted? stands.session.errors)
    fun rounds => charges_runFor rounds session

/-- The last event of a run over a finite link tells whether the device is to blame for its end,
and the counter has the errors that it is meant to have exactly if no payload was unreadable. -/
theorem errors_of_run (hash : HashFunction) (mode : Mode) (channel : Channel σ) (prompt : π)
    (info : HostInfo) :
    let events := runEvents hash mode (start channel prompt info)
    let ended := run hash mode (start channel prompt info)
    let blame := events.getLast?.bind Event.blame?
    let errors := channel.metrics.protocolErrors
    let counted := (leaves ended).channel.metrics.protocolErrors
    (∀ event ∈ events.dropLast, event.blame? = none) ∧
    (∀ kind ∈ blame, ∃ error, outcome ended = .error (.failed error) ∧ kind.Brings error) ∧
    (∀ secret, outcome ended = .ok secret → blame = none) ∧
    counted = errors + blame.elim 0 Blame.counted ∧
    (counted = errors + (if blame.isSome then 1 else 0) ↔ blame ≠ some .unreadable) := by
  intro events ended blame errors counted
  have charges : Charges errors events (halted ended) counted :=
    charges_run hash mode (start channel prompt info)
  obtain ⟨innocent, brings, sum⟩ := charges.of_last
  refine ⟨innocent, ?fails, ?spares, sum, ?meant⟩
  case fails =>
    intro kind member
    obtain ⟨error, failed, brought⟩ := brings kind member
    exact ⟨error, outcome_of_halted failed, brought⟩
  case spares =>
    intro secret given
    refine charges.blame_eq_none fun error failed => ?_
    cases given.symm.trans (outcome_of_halted failed)
  case meant =>
    rw [sum]
    exact Blame.counted_eq_iff errors blame

end Finite

end Session
end SecurityKey
