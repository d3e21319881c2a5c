import SecurityKey.Digest
import SecurityKey.Proofs.Link.Memory
import SecurityKey.Proofs.Link.Queue
import SecurityKey.Proofs.Session.History
import SecurityKey.Proofs.Session.Requests

/-!
# Runs over queued messages

A session that stands at some stage, with some answers left and some messages waiting on
its link, goes on as the walk over these messages does (`outcome_converse`).  What it does
to get there is hidden in `Stands`: after each message the device is idle again, nothing
was put behind the messages that wait, and the reports of the next message stand at the
front.
-/

set_option autoImplicit false

namespace SecurityKey

/-! ## Channels -/

namespace Channel

/-- A channel to a device that will not react any more, with some messages that wait. -/
structure Holds (messages : List RawMessage) (channel : Channel MemoryLink) : Prop where
  queued : Queued messages channel.link.inbound
  idle : channel.link.assembler = .idle
  silent : channel.link.reactions = []

/-- A request that fits is sent, and the messages that wait stay. -/
theorem Holds.send {messages : List RawMessage} {channel : Channel MemoryLink}
    {request : Except Error RawMessage} (holds : channel.Holds messages)
    (fits : sendable request = .ok ()) :
    ∃ next, sendEncoded request channel = .ok () next ∧ next.Holds messages := by
  cases request with
  | error failure => cases fits
  | ok message =>
      by_cases bound : message.payload.length ≤ Report.maximumPayload
      · have framed : message.packetize = .ok _ := if_pos bound
        have reacted := writeReports_packetize framed holds.idle
        rw [MemoryLink.react] at reacted
        dsimp only at reacted
        rw [holds.silent] at reacted
        rw [sendEncoded, Channel.send, framed]
        dsimp only
        rw [reacted]
        exact ⟨_, rfl, holds.queued, rfl, rfl⟩
      · rw [sendable_ok, if_neg bound] at fits
        cases fits

/-- A request that does not fit is not sent. -/
theorem sendEncoded_of_not_sendable {request : Except Error RawMessage} {error : Error}
    (unfit : sendable request = .error error) (channel : Channel MemoryLink) :
    sendEncoded request channel = .error (.failed error) channel := by
  cases request with
  | error failure =>
      cases unfit
      rfl
  | ok message =>
      by_cases bound : message.payload.length ≤ Report.maximumPayload
      · rw [sendable_ok, if_pos bound] at unfit
        cases unfit
      · rw [sendable_ok, if_neg bound] at unfit
        cases unfit
        rw [sendEncoded, Channel.send, RawMessage.packetize, if_neg bound]

/-- The first message that waits is received. -/
theorem Holds.receive {message : RawMessage} {rest : List RawMessage}
    {channel : Channel MemoryLink} (holds : channel.Holds (message :: rest)) :
    ∃ next, Channel.receive channel = .ok message next ∧ next.Holds rest := by
  have queued := holds.queued
  generalize inbound : channel.link.inbound = waiting at queued
  cases queued with
  | cons framed others =>
      exact ⟨_, receive_packetize framed inbound, others, holds.idle, holds.silent⟩

/-- When no message waits, nothing is received. -/
theorem Holds.receive_nothing {channel : Channel MemoryLink} (holds : channel.Holds []) :
    Channel.receive channel = .error (.failed .connectionClosed) channel := by
  have queued := holds.queued
  generalize inbound : channel.link.inbound = waiting at queued
  cases queued with
  | nil => exact receive_nil inbound

end Channel

/-! ## Prepared answers -/

namespace Session

/-- A prompt with prepared answers says what is drawn from them. -/
theorem consult_of_draw {interaction : Interaction} {prompt : ScriptedPrompt} {text : String}
    {left : List String} (drawn : interaction.draw prompt.answers = .ok (text, left)) :
    ∃ next, consult interaction prompt = .ok text next ∧ next.answers = left := by
  obtain ⟨answers, shown, asked⟩ := prompt
  cases interaction with
  | button =>
      cases drawn
      exact ⟨_, rfl, rfl⟩
  | pin | passphrase =>
      cases answers with
      | nil => cases drawn
      | cons answer rest =>
          cases drawn
          exact ⟨_, rfl, rfl⟩

/-- A prompt whose answers are used up fails. -/
theorem consult_of_not_draw {interaction : Interaction} {prompt : ScriptedPrompt} {error : Error}
    (empty : interaction.draw prompt.answers = .error error) :
    ∃ next, consult interaction prompt = .error error next := by
  obtain ⟨answers, shown, asked⟩ := prompt
  cases interaction with
  | button => cases empty
  | pin | passphrase =>
      cases answers with
      | nil =>
          cases empty
          exact ⟨_, rfl⟩
      | cons answer rest => cases empty

/-! ## Sessions -/

/-- A session in a stage, with some answers left and some messages that wait. -/
structure Stands (stage : Stage) (info : HostInfo) (answers : List String)
    (messages : List RawMessage) (session : Session MemoryLink ScriptedPrompt) : Prop where
  stage : session.stage = stage
  info : session.info = info
  answers : session.prompt.answers = answers
  holds : session.channel.Holds messages

variable {stage : Stage} {info : HostInfo} {answers : List String} {messages : List RawMessage}
  {session : Session MemoryLink ScriptedPrompt}

theorem Stands.send (stands : session.Stands stage info answers messages)
    {request : Except Error RawMessage} (fits : sendable request = .ok ()) :
    ∃ next, Session.send request session = .ok () next ∧
      next.Stands stage info answers messages := by
  obtain ⟨channel, sent, holds⟩ := stands.holds.send fits
  rw [Session.send, onChannel]
  have same : Channel.sendEncoded request
      (session.note (sendingRecords session.channel.writeTimeout request)).channel =
        .ok () channel := sent
  rw [same]
  exact ⟨_, rfl, stands.stage, stands.info, stands.answers, holds⟩

theorem send_of_not_sendable {request : Except Error RawMessage} {error : Error}
    (unfit : sendable request = .error error) (session : Session MemoryLink ScriptedPrompt) :
    ∃ next, Session.send request session = .error (.failed error) next := by
  rw [Session.send, onChannel, Channel.sendEncoded_of_not_sendable unfit]
  exact ⟨_, rfl⟩

/-- A request to the user is answered as the walk answers it. -/
theorem Stands.interact (stands : session.Stands stage info answers messages)
    {interaction : Interaction} {left : List String}
    (replied : interaction.reply sendable answers = .ok left) :
    ∃ next, Session.interact interaction session = .ok () next ∧
      next.Stands stage info left messages := by
  obtain ⟨⟨text, others⟩, drawn, sent⟩ := bind_eq_ok.mp replied
  obtain ⟨_, fits, same⟩ := bind_eq_ok.mp sent
  cases same
  rw [← stands.answers] at drawn
  obtain ⟨prompt, asked, rest⟩ := consult_of_draw drawn
  have answered : (session.answered interaction prompt).Stands stage info left messages :=
    ⟨stands.stage, stands.info, rest, ⟨stands.holds.queued, stands.holds.idle,
      stands.holds.silent⟩⟩
  rw [interact_of_ok asked]
  exact answered.send fits

theorem Stands.interact_error (stands : session.Stands stage info answers messages)
    {interaction : Interaction} {error : Error}
    (unanswered : interaction.reply sendable answers = .error error) :
    ∃ next, Session.interact interaction session = .error (.failed error) next := by
  rw [Interaction.reply, ← stands.answers] at unanswered
  cases drawn : interaction.draw session.prompt.answers with
  | error fault =>
      rw [drawn] at unanswered
      cases unanswered
      obtain ⟨prompt, asked⟩ := consult_of_not_draw drawn
      rw [interact_of_error asked]
      exact ⟨_, rfl⟩
  | ok pair =>
      obtain ⟨text, left⟩ := pair
      obtain ⟨prompt, asked, _⟩ := consult_of_draw drawn
      rw [interact_of_ok asked]
      rw [drawn] at unanswered
      cases sent : sendable (interaction.acknowledgement text) with
      | error fault =>
          have same : (Except.error fault : Except Error (List String)) = .error error := by
            rw [← unanswered]
            simp only [bind, Except.bind, sent]
          cases same
          exact send_of_not_sendable sent _
      | ok _ =>
          simp only [bind, Except.bind, sent] at unanswered
          cases unanswered

/-! ## One message after the other -/

variable {hash : HashFunction} {mode : Mode} {rest : List RawMessage}

/-- A session that makes a move goes on as the walk does after that move, if it does so
for every session with fewer messages. -/
theorem outcome_makeMove (stands : session.Stands stage info answers rest)
    {move : Except Error Move} (waits : ∀ made, move = .ok made → (made.target stage).awaits)
    (later : ∀ {next : Session MemoryLink ScriptedPrompt} {stage : Stage}
      {answers : List String}, next.Stands stage info answers rest → stage.awaits →
        outcome (converse hash mode next) =
          (walk sendable hash info stage answers rest).mapError .failed) :
    outcome ((makeMove move session).finish hash mode) =
      (follow sendable hash info stage answers rest move).mapError .failed := by
  cases move with
  | error error => rfl
  | ok made =>
      have awaiting := waits made rfl
      cases made with
      | wait => exact later stands awaiting
      | finish secret => rfl
      | interact interaction =>
          rw [makeMove, follow]
          cases replied : interaction.reply sendable answers with
          | ok left =>
              obtain ⟨next, made, after⟩ := stands.interact replied
              rw [made]
              exact later after awaiting
          | error error =>
              obtain ⟨next, made⟩ := stands.interact_error replied
              rw [made]
              rfl
      | advance request target =>
          rw [makeMove, follow, advance]
          cases fits : sendable request with
          | ok _ =>
              obtain ⟨next, sent, after⟩ := stands.send fits
              rw [sent]
              exact later ⟨rfl, after.info, after.answers, after.holds⟩ awaiting
          | error error =>
              obtain ⟨next, sent⟩ := send_of_not_sendable fits session
              rw [sent]
              rfl

/-- A session receives the next message and goes on as the walk does after it. -/
theorem outcome_converse_cons {message : RawMessage}
    (stands : session.Stands stage info answers (message :: rest))
    (later : ∀ {next : Session MemoryLink ScriptedPrompt} {stage : Stage}
      {answers : List String}, next.Stands stage info answers rest → stage.awaits →
        outcome (converse hash mode next) =
          (walk sendable hash info stage answers rest).mapError .failed) :
    outcome (converse hash mode session) =
      (follow sendable hash info stage answers rest (stage.answer hash mode info message)).mapError
        .failed := by
  obtain ⟨channel, arrived, holds⟩ := stands.holds.receive
  rw [converse_eq, round, arrived]
  dsimp only
  rw [stands.stage, stands.info]
  have after : Stands stage info answers rest { session.noteMessage message with channel } :=
    ⟨stands.stage, stands.info, stands.answers, holds⟩
  exact outcome_makeMove after (fun _ answered => Stage.awaits_target answered) later

/-- A session whose device has nothing more to say fails. -/
theorem outcome_converse_nil (stands : session.Stands stage info answers []) :
    outcome (converse hash mode session) = .error (.failed .connectionClosed) := by
  rw [converse_eq, round, stands.holds.receive_nothing]
  rfl

/-- A session goes on as the walk over the messages that wait. -/
theorem outcome_converse (messages : List RawMessage)
    (stands : session.Stands stage info answers messages) (awaiting : stage.awaits) :
    outcome (converse hash mode session) =
      (walk sendable hash info stage answers messages).mapError .failed := by
  induction messages generalizing session stage answers with
  | nil =>
      rw [outcome_converse_nil stands, walk]
      rfl
  | cons message rest hypothesis =>
      rw [walk_cons sendable hash mode info awaiting]
      exact outcome_converse_cons stands hypothesis

/-- The result of a run is the result of its exchange. -/
theorem outcome_conclude {σ π : Type} (result : EStateM.Result Halt (Session σ π) DerivedSecret) :
    outcome (conclude result) = outcome result := by
  cases result with
  | ok secret session => rfl
  | error halt session =>
      cases halt with
      | failed error => rfl
      | waitsForever => rfl

/-- A run with a device that has said everything comes to the verdict on what it said, and
with texts that fit this is the verdict without any limit on what is sent. -/
theorem run_eq_verdict (hash : HashFunction) (mode : Mode) (info : HostInfo)
    (answers : List String) {messages : List RawMessage} {link : MemoryLink}
    (queued : MemoryLink.queueAll messages (.ofReactions []) = .ok () link)
    (writeTimeout : Nat) (readTimeout : Deadline) :
    outcome (run hash mode (start (Channel.ofLink link writeTimeout readTimeout)
        (ScriptedPrompt.ofAnswers answers) info)) =
      (verdict sendable hash mode info answers messages).mapError .failed ∧
    (TextsFit info answers →
      verdict sendable hash mode info answers messages =
        verdict unlimited hash mode info answers messages) := by
  refine ⟨?_, fun short => verdict_of_textsFit short messages⟩
  obtain ⟨queue, waiting, rfl⟩ := queued_of_queueAll queued
  generalize asked : start (Channel.ofLink _ writeTimeout readTimeout)
    (ScriptedPrompt.ofAnswers answers) info = session
  have stands : session.Stands .handshake info answers messages := by
    subst asked
    exact ⟨rfl, rfl, rfl, waiting, rfl, rfl⟩
  have fits : sendable HostInfo.opening = .ok () := rfl
  obtain ⟨opened, sent, after⟩ := stands.send fits
  rw [run, if_pos stands.stage, outcome_conclude, exchange, sent]
  cases messages with
  | nil => exact outcome_converse_nil after
  | cons message rest =>
      rw [verdict_cons]
      exact outcome_converse_cons after (outcome_converse rest)

/-- A device that greets the host, asks for the PIN and a button, and signs. -/
def signingMessages : List RawMessage :=
  [⟨MessageKind.features.id, []⟩, ⟨MessageKind.pinMatrixRequest.id, []⟩,
    ⟨MessageKind.buttonRequest.id, []⟩,
    ⟨MessageKind.signedIdentity.id, 0x1a :: 65 :: List.replicate 65 7⟩]

theorem run_eq_verdict_of_signature :
    ∃ link, MemoryLink.queueAll signingMessages (.ofReactions []) = .ok () link ∧
      TextsFit ⟨defaultApp, "alice", "vault", ""⟩ ["1234"] ∧
      (outcome (run Digest.sha256 .legacy
        (start (Channel.ofLink link defaultWriteTimeout none) (ScriptedPrompt.ofAnswers ["1234"])
          ⟨defaultApp, "alice", "vault", ""⟩))).toOption = some ⟨List.replicate 64 7⟩ := by
  have queued : MemoryLink.queueAll signingMessages (.ofReactions []) =
      .ok () (leaves (MemoryLink.queueAll signingMessages (.ofReactions []))) := rfl
  have short : TextsFit ⟨defaultApp, "alice", "vault", ""⟩ ["1234"] :=
    ⟨by decide +kernel, by decide +kernel⟩
  refine ⟨_, queued, short, ?_⟩
  obtain ⟨decided, plain⟩ := run_eq_verdict Digest.sha256 .legacy
    ⟨defaultApp, "alice", "vault", ""⟩ ["1234"] queued defaultWriteTimeout none
  rw [decided, plain short]
  decide +kernel

end Session
end SecurityKey
