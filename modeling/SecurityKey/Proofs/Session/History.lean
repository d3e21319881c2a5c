import Mathlib.Logic.Function.Iterate
import SecurityKey.Proofs.Session.Answers
import SecurityKey.Proofs.Steps
import SecurityKey.Session.Run

/-!
# Histories of sessions

The history of a session is the list of everything that it does, in order: the messages
that it hands to the channel, the reports that it writes and reads, what comes of putting
them together and of reading their payloads, and what it shows to the user and asks.

A run over a link that never falls silent need not end, so a run is watched for a number of
rounds (`Session.runFor`).  On a finite link, watching long enough gives the run and all that is
done in it (`exists_runFor`), and nothing else can be seen (`run_of_runFor`).  So what holds of
a run however long it is watched holds of the run (`law_of_runFor`).
-/

set_option autoImplicit false

namespace SecurityKey

/-! ## Events -/

/-- Something that a session does, with what comes of it. -/
inductive Event where
  /-- A message is handed to the channel. -/
  | handed (message : RawMessage)
  /-- A report is written. -/
  | wrote (report : Report) (outcome : Except Halt Unit)
  /-- A report is read. -/
  | read (outcome : Except Halt Report)
  /-- A report is put to those that were read before it. -/
  | assembled (outcome : Except Error (Option RawMessage))
  /-- A message arrives in a stage. -/
  | received (stage : Stage) (message : RawMessage)
  /-- The payload of a message is read in a stage. -/
  | decoded (stage : Stage) (kind : MessageKind) (outcome : Except Error Unit)
  /-- A line is shown to the user. -/
  | shown (line : String)
  /-- The user is asked for a secret. -/
  | asked (interaction : Interaction) (outcome : Except Error String)

/-- A list with a last item splits at that item or before it. -/
theorem split_last {α : Type} {items before after : List α} {last item : α}
    (split : items ++ [last] = before ++ item :: after) :
    (after = [] ∧ items = before ∧ last = item) ∨ ∃ init, items = before ++ item :: init := by
  rcases List.eq_nil_or_concat after with rfl | ⟨init, final, rfl⟩
  · obtain ⟨same, itself⟩ := List.append_inj' split rfl
    cases itself
    exact .inl ⟨rfl, same, rfl⟩
  · rw [List.concat_eq_append, ← List.cons_append, ← List.append_assoc] at split
    obtain ⟨same, _⟩ := List.append_inj' split rfl
    exact .inr ⟨init, same⟩

namespace Channel

variable {σ : Type} [Link σ]

/-- What is done to write reports one after the other. -/
def writeEvents : List Report → Channel σ → List Event
  | [], _ => []
  | report :: rest, channel =>
      match Link.write report (some channel.writeTimeout) channel.link with
      | .ok () link => .wrote report (.ok ()) :: writeEvents rest { channel with link }
      | .error halt _ => [.wrote report (.error halt)]

/-- What is done to send a message that may have no encoding. -/
def sendEvents (encoded : Except Error RawMessage) (channel : Channel σ) : List Event :=
  match encoded with
  | .error _ => []
  | .ok message =>
      .handed message ::
        match message.packetize with
        | .ok reports => writeEvents reports channel
        | .error _ => []

/-- What is done to read reports until a message is complete. -/
def collectEvents (assembler : Reassembler) (channel : Channel σ) : List Event :=
  match Link.read channel.readTimeout channel.link with
  | .error halt _ => [.read (.error halt)]
  | .ok report link =>
      match _pushed : Reassembler.push report assembler with
      | .ok none assembler =>
          .read (.ok report) :: .assembled (.ok none) ::
            collectEvents assembler { channel with link }.countReport
      | .ok (some message) _ => [.read (.ok report), .assembled (.ok (some message))]
      | .error error _ => [.read (.ok report), .assembled (.error error)]
termination_by assembler.missing
decreasing_by exact Reassembler.missing_push _pushed

section Collect

variable {assembler next : Reassembler} {channel : Channel σ} {report : Report} {link : σ}

/-- A read that fails is the last thing that is done. -/
theorem collectEvents_of_failed {halt : Halt}
    (failed : Link.read channel.readTimeout channel.link = .error halt link) :
    collectEvents assembler channel = [.read (.error halt)] := by
  rw [collectEvents, failed]

/-- After a report that does not complete its message the next one is read. -/
theorem collectEvents_of_more
    (arrived : Link.read channel.readTimeout channel.link = .ok report link)
    (pushed : Reassembler.push report assembler = .ok none next) :
    collectEvents assembler channel =
      .read (.ok report) :: .assembled (.ok none) ::
        collectEvents next { channel with link }.countReport := by
  rw [collectEvents, arrived]
  dsimp only
  rw [pushed]

/-- A report that completes a message is the last one. -/
theorem collectEvents_of_message {message : RawMessage}
    (arrived : Link.read channel.readTimeout channel.link = .ok report link)
    (pushed : Reassembler.push report assembler = .ok (some message) next) :
    collectEvents assembler channel =
      [.read (.ok report), .assembled (.ok (some message))] := by
  rw [collectEvents, arrived]
  dsimp only
  rw [pushed]

/-- So is a report that does not belong to the message. -/
theorem collectEvents_of_fault {error : Error}
    (arrived : Link.read channel.readTimeout channel.link = .ok report link)
    (pushed : Reassembler.push report assembler = .error error next) :
    collectEvents assembler channel = [.read (.ok report), .assembled (.error error)] := by
  rw [collectEvents, arrived]
  dsimp only
  rw [pushed]

end Collect

end Channel

/-- What comes of reading the payload of a message, if a session in this stage does. -/
def Stage.decodeEvents (stage : Stage) (message : RawMessage) : List Event :=
  match MessageKind.ofId? message.id with
  | none => []
  | some kind =>
      if stage.opens kind then
        [.decoded stage kind ((fun _ => ()) <$> kind.schema.decode message.payload)]
      else
        []

namespace Session

variable {σ π : Type} [Link σ] [Prompt π]

/-- What is done to show the lines of a request and ask for what it needs. -/
def consultEvents (interaction : Interaction) (prompt : π) : List Event :=
  interaction.notices.map .shown ++
    match interaction.question with
    | none => []
    | some _ => [.asked interaction (outcome (consult interaction prompt))]

/-- What is done to answer a request to the user. -/
def interactEvents (interaction : Interaction) (session : Session σ π) : List Event :=
  consultEvents interaction session.prompt ++
    match consult interaction session.prompt with
    | .error _ _ => []
    | .ok text _ =>
        Channel.sendEvents (interaction.acknowledgement text) session.channel.countInteraction

theorem interact_of_error {interaction : Interaction} {session : Session σ π} {error : Error}
    {prompt : π} (asked : consult interaction session.prompt = .error error prompt) :
    interact interaction session =
      .error (.failed error) { session.tell (interaction.notices.map .line) with prompt } := by
  have told : consult interaction (session.tell (interaction.notices.map .line)).prompt =
      .error error prompt := asked
  rw [interact, told]

/-- A session whose user has answered a request. -/
def answered (interaction : Interaction) (prompt : π) (session : Session σ π) : Session σ π :=
  { session.tell (interaction.notices.map .line) with
    prompt
    channel := session.channel.countInteraction }

theorem interact_of_ok {interaction : Interaction} {session : Session σ π} {text : String}
    {prompt : π} (asked : consult interaction session.prompt = .ok text prompt) :
    interact interaction session =
      send (interaction.acknowledgement text) (session.answered interaction prompt) := by
  have told : consult interaction (session.tell (interaction.notices.map .line)).prompt =
      .ok text prompt := asked
  rw [interact, told]
  rfl

/-- What is done to make a move. -/
def moveEvents (move : Except Error Move) (session : Session σ π) : List Event :=
  match move with
  | .ok (.interact interaction) => interactEvents interaction session
  | .ok (.advance request _) => Channel.sendEvents request session.channel
  | .ok .wait | .ok (.finish _) | .error _ => []

/-- What is done in a round. -/
def roundEvents (hash : HashFunction) (mode : Mode) (session : Session σ π) : List Event :=
  Channel.collectEvents .idle session.channel ++
    match Channel.receive session.channel with
    | .error _ _ => []
    | .ok message channel =>
        .received session.stage message ::
          (session.stage.decodeEvents message ++
            moveEvents (session.stage.answer hash mode session.info message)
              { session.noteMessage message with channel })

/-! ## Watching a run -/

namespace Progress

/-- One more round, if the conversation goes on. -/
def next (hash : HashFunction) (mode : Mode) : Progress σ π → Progress σ π
  | .underway session => round hash mode session
  | .complete result => .complete result

/-- What is done in one more round. -/
def nextEvents (hash : HashFunction) (mode : Mode) : Progress σ π → List Event
  | .underway session => roundEvents hash mode session
  | .complete _ => []

/-- The session as it stands. -/
def session : Progress σ π → Session σ π
  | .underway session => session
  | .complete result => leaves result

end Progress

/-- How an exchange stands after some rounds. -/
def exchangeFor (hash : HashFunction) (mode : Mode) (rounds : Nat) (session : Session σ π) :
    Progress σ π :=
  (Progress.next hash mode)^[rounds] (goOn (send HostInfo.opening session))

theorem exchangeFor_succ (hash : HashFunction) (mode : Mode) (rounds : Nat)
    (session : Session σ π) :
    exchangeFor hash mode (rounds + 1) session =
      (exchangeFor hash mode rounds session).next hash mode :=
  Function.iterate_succ_apply' _ _ _

/-- What is done in an exchange during some rounds. -/
def exchangeEvents (hash : HashFunction) (mode : Mode) : Nat → Session σ π → List Event
  | 0, session => Channel.sendEvents HostInfo.opening session.channel
  | rounds + 1, session =>
      exchangeEvents hash mode rounds session ++
        (exchangeFor hash mode rounds session).nextEvents hash mode

omit [Link σ] [Prompt π] in
/-- A request that was sent does not give a secret. -/
theorem goOn_ne_secret {result : EStateM.Result Halt (Session σ π) Unit}
    {secret : DerivedSecret} {next : Session σ π} : goOn result ≠ .complete (.ok secret next) := by
  intro ended
  cases result with
  | ok _ session => cases ended
  | error halt session => cases ended

/-- The only move that gives a secret is the one that says so. -/
theorem makeMove_secret {move : Except Error Move} {session next : Session σ π}
    {secret : DerivedSecret} (made : makeMove move session = .complete (.ok secret next)) :
    move = .ok (.finish secret) ∧ next = session.note [secret.record] := by
  cases move with
  | error error => cases made
  | ok move =>
      cases move with
      | wait => cases made
      | interact interaction => exact absurd made goOn_ne_secret
      | advance request stage => exact absurd made goOn_ne_secret
      | finish found =>
          cases made
          exact ⟨rfl, rfl⟩

/-- A round that gives a secret receives the message that holds it. -/
theorem round_secret {hash : HashFunction} {mode : Mode} {session next : Session σ π}
    {secret : DerivedSecret} (last : round hash mode session = .complete (.ok secret next)) :
    ∃ message channel, Channel.receive session.channel = .ok message channel ∧
      session.stage.answer hash mode session.info message = .ok (.finish secret) ∧
      next = Session.note [secret.record] { session.noteMessage message with channel } := by
  rw [round] at last
  cases arrived : Channel.receive session.channel with
  | error halt channel =>
      rw [arrived] at last
      cases last
  | ok message channel =>
      rw [arrived] at last
      obtain ⟨answered, left⟩ := makeMove_secret last
      exact ⟨message, channel, rfl, answered, left⟩

/-- An exchange that has given a secret had a last round. -/
theorem exists_last_round {hash : HashFunction} {mode : Mode} {rounds : Nat}
    {session next : Session σ π} {secret : DerivedSecret}
    (ended : exchangeFor hash mode rounds session = .complete (.ok secret next)) :
    ∃ earlier following, exchangeFor hash mode earlier session = .underway following ∧
      round hash mode following = .complete (.ok secret next) ∧
      exchangeEvents hash mode rounds session =
        exchangeEvents hash mode earlier session ++ roundEvents hash mode following := by
  induction rounds with
  | zero =>
      rw [exchangeFor, Function.iterate_zero, id] at ended
      exact absurd ended goOn_ne_secret
  | succ rounds hypothesis =>
      rw [exchangeFor_succ] at ended
      rw [exchangeEvents]
      cases stands : exchangeFor hash mode rounds session with
      | underway following =>
          rw [stands] at ended
          exact ⟨rounds, following, stands, ended, rfl⟩
      | complete result =>
          rw [stands] at ended
          cases ended
          rw [Progress.nextEvents, List.append_nil]
          exact hypothesis stands

/-- How a run stands after some rounds. -/
def runFor (hash : HashFunction) (mode : Mode) (rounds : Nat) (session : Session σ π) :
    Progress σ π :=
  if session.stage = .handshake then
    match exchangeFor hash mode rounds session with
    | .underway session => .underway session
    | .complete result => .complete (conclude result)
  else
    .complete (.error (.failed (.state .sessionFinished)) session)

/-- What is done in a run during some rounds. -/
def history (hash : HashFunction) (mode : Mode) (rounds : Nat) (session : Session σ π) :
    List Event :=
  if session.stage = .handshake then
    exchangeEvents hash mode rounds session
  else
    []

/-- A run that has given a secret is an exchange that has. -/
theorem exchangeFor_of_runFor {hash : HashFunction} {mode : Mode} {rounds : Nat}
    {session next : Session σ π} {secret : DerivedSecret}
    (ended : runFor hash mode rounds session = .complete (.ok secret next)) :
    session.stage = .handshake ∧
      ∃ last, exchangeFor hash mode rounds session = .complete (.ok secret last) ∧
        next = last.finished := by
  rw [runFor] at ended
  split at ended
  · rename_i fresh
    refine ⟨fresh, ?_⟩
    cases stands : exchangeFor hash mode rounds session with
    | underway following =>
        rw [stands] at ended
        cases ended
    | complete result =>
        rw [stands] at ended
        cases result with
        | ok found last =>
            cases ended
            exact ⟨last, rfl, rfl⟩
        | error halt last => cases halt <;> cases ended
  · cases ended

/-! ## Runs over finite links -/

section Finite

variable {σ π : Type} [FiniteLink σ] [Prompt π] {hash : HashFunction} {mode : Mode}

/-- The result that a conversation comes to in the end. -/
def Progress.finish (hash : HashFunction) (mode : Mode) :
    Progress σ π → EStateM.Result Halt (Session σ π) DerivedSecret
  | .underway session => converse hash mode session
  | .complete result => result

/-- One more round does not change what a conversation comes to. -/
theorem Progress.finish_next (hash : HashFunction) (mode : Mode) (progress : Progress σ π) :
    (progress.next hash mode).finish hash mode = progress.finish hash mode := by
  cases progress with
  | complete result => rfl
  | underway session =>
      rw [next, finish, finish.eq_def, converse]
      cases round hash mode session with
      | underway following => rfl
      | complete result => rfl

/-- A conversation comes to what its first round comes to. -/
theorem converse_eq (session : Session σ π) :
    converse hash mode session = (round hash mode session).finish hash mode :=
  (Progress.finish_next hash mode (.underway session)).symm

theorem finish_exchangeFor (rounds : Nat) (session : Session σ π) :
    (exchangeFor hash mode rounds session).finish hash mode = exchange hash mode session := by
  induction rounds with
  | zero =>
      rw [exchangeFor, Function.iterate_zero, id, exchange]
      cases send HostInfo.opening session with
      | ok _ following => rfl
      | error halt following => rfl
  | succ rounds hypothesis =>
      rw [exchangeFor_succ, Progress.finish_next]
      exact hypothesis

/-- What is done in a conversation until it ends. -/
def converseEvents (hash : HashFunction) (mode : Mode) (session : Session σ π) : List Event :=
  roundEvents hash mode session ++
    match _made : round hash mode session with
    | .underway next => converseEvents hash mode next
    | .complete _ => []
termination_by session.supply
decreasing_by exact supply_round _made

/-- What is still done in a conversation. -/
def Progress.finishEvents (hash : HashFunction) (mode : Mode) : Progress σ π → List Event
  | .underway session => converseEvents hash mode session
  | .complete _ => []

/-- What is done in a run. -/
def runEvents (hash : HashFunction) (mode : Mode) (session : Session σ π) : List Event :=
  if session.stage = .handshake then
    Channel.sendEvents HostInfo.opening session.channel ++
      (goOn (send HostInfo.opening session)).finishEvents hash mode
  else
    []

/-- What is still done is done in one more round or behind it. -/
theorem Progress.finishEvents_next (hash : HashFunction) (mode : Mode) (progress : Progress σ π) :
    progress.nextEvents hash mode ++ (progress.next hash mode).finishEvents hash mode =
      progress.finishEvents hash mode := by
  cases progress with
  | complete result => rfl
  | underway session =>
      change _ = converseEvents hash mode session
      rw [converseEvents, next, nextEvents]
      cases round hash mode session with
      | underway following => rfl
      | complete result => rfl

/-- Some rounds and what is done behind them are the whole exchange. -/
theorem exchangeEvents_finish (rounds : Nat) (session : Session σ π) :
    exchangeEvents hash mode rounds session ++
        (exchangeFor hash mode rounds session).finishEvents hash mode =
      Channel.sendEvents HostInfo.opening session.channel ++
        (goOn (send HostInfo.opening session)).finishEvents hash mode := by
  induction rounds with
  | zero => rfl
  | succ rounds hypothesis =>
      rw [exchangeEvents, exchangeFor_succ, List.append_assoc, Progress.finishEvents_next]
      exact hypothesis

/-- Each round takes from the supply of the link, so that there is a last one. -/
theorem exists_iterate_complete (hash : HashFunction) (mode : Mode) (progress : Progress σ π) :
    ∃ rounds, (Progress.next hash mode)^[rounds] progress =
      .complete (progress.finish hash mode) := by
  cases progress with
  | complete result => exact ⟨0, rfl⟩
  | underway session =>
      induction supply : session.supply using Nat.strongRecOn generalizing session with
      | ind supply hypothesis =>
          have same := Progress.finish_next hash mode (.underway session)
          rw [Progress.next] at same
          cases made : round hash mode session with
          | complete result =>
              rw [made] at same
              refine ⟨1, ?_⟩
              rw [Function.iterate_one, Progress.next, made, ← same]
              rfl
          | underway following =>
              rw [made] at same
              obtain ⟨rounds, ended⟩ :=
                hypothesis following.supply (supply ▸ supply_round made) following rfl
              refine ⟨rounds + 1, ?_⟩
              rw [Function.iterate_succ_apply, Progress.next, made, ended, same]

/-- What is seen of a run that has ended is what the run comes to. -/
theorem run_of_runFor {rounds : Nat} {session : Session σ π}
    {result : EStateM.Result Halt (Session σ π) DerivedSecret}
    (ended : runFor hash mode rounds session = .complete result) :
    run hash mode session = result := by
  rw [runFor] at ended
  rw [run]
  split at ended
  · rename_i fresh
    rw [if_pos fresh, ← finish_exchangeFor rounds]
    split at ended
    · cases ended
    · rename_i exchanged
      cases ended
      rw [exchanged]
      rfl
  · rename_i used
    rw [if_neg used]
    cases ended
    rfl

/-- What is done in a run that has ended is all that is done in it. -/
theorem history_of_runFor {rounds : Nat} {session : Session σ π}
    {result : EStateM.Result Halt (Session σ π) DerivedSecret}
    (ended : runFor hash mode rounds session = .complete result) :
    history hash mode rounds session = runEvents hash mode session := by
  rw [runFor] at ended
  rw [history, runEvents]
  split at ended
  · rename_i fresh
    have whole : exchangeEvents hash mode rounds session ++ _ = _ :=
      exchangeEvents_finish rounds session
    rw [if_pos fresh, if_pos fresh]
    split at ended
    · cases ended
    · rename_i exchanged
      rw [exchanged, Progress.finishEvents, List.append_nil] at whole
      exact whole
  · rename_i used
    rw [if_neg used, if_neg used]

/-- A run over a finite link has ended after enough rounds, and then all of it was watched. -/
theorem exists_runFor (hash : HashFunction) (mode : Mode) (session : Session σ π) :
    ∃ rounds, runFor hash mode rounds session = .complete (run hash mode session) ∧
      history hash mode rounds session = runEvents hash mode session := by
  obtain ⟨rounds, ended⟩ :=
    exists_iterate_complete hash mode (goOn (send HostInfo.opening session))
  have whole : exchangeFor hash mode rounds session = .complete (exchange hash mode session) := by
    rw [exchangeFor, ended, ← finish_exchangeFor 0]
    rfl
  have complete : runFor hash mode rounds session = .complete (run hash mode session) := by
    rw [runFor, run, whole]
    split <;> rfl
  exact ⟨rounds, complete, history_of_runFor complete⟩

/-- A law of runs that are watched, for however long, is a law of runs. -/
theorem law_of_runFor {session : Session σ π} (law : List Event → Progress σ π → Prop)
    (watched : ∀ rounds, law (history hash mode rounds session)
      (runFor hash mode rounds session)) :
    law (runEvents hash mode session) (.complete (run hash mode session)) := by
  obtain ⟨rounds, ended, same⟩ := exists_runFor hash mode session
  rw [← ended, ← same]
  exact watched rounds

end Finite

end Session
end SecurityKey
