import SecurityKey.Proofs.Session.Account

/-!
# Laws of the parts of a session

A run is put together from a few parts: sending a message, receiving one, reading its
payload and asking the user.  A law speaks of what is done in a part and of what the part
fails with, if it fails.  When it holds of each part, and of two parts in a row if it holds
of both, it holds of every run (`Lawful.runFor`).
-/

set_option autoImplicit false

namespace SecurityKey

/-- What an operation failed with, if it did. -/
def halted {ε σ α : Type} : EStateM.Result ε σ α → Option ε
  | .ok _ _ => none
  | .error error _ => some error

theorem outcome_of_halted {ε σ α : Type} {result : EStateM.Result ε σ α} {error : ε}
    (failed : halted result = some error) : outcome result = .error error := by
  cases result with
  | ok value state => cases failed
  | error found state =>
      cases failed
      rfl

/-- The fault of a payload that ends a session in this stage, if it is one that is read and
cannot be. -/
def Stage.unreadable? (stage : Stage) (message : RawMessage) : Option Error :=
  match MessageKind.ofId? message.id with
  | none => none
  | some kind =>
      if stage.awaits && stage.opens kind then
        match kind.schema.decode message.payload with
        | .ok _ => none
        | .error error => some error
      else
        none

/-- A payload that cannot be read ends the session with its fault. -/
theorem Stage.answer_of_unreadable? {hash : HashFunction} {mode : Mode} {info : HostInfo}
    {stage : Stage} {message : RawMessage} {error : Error}
    (unreadable : stage.unreadable? message = some error) :
    stage.answer hash mode info message = .error error := by
  rw [unreadable?] at unreadable
  split at unreadable
  · cases unreadable
  · rename_i kind known
    split at unreadable
    · rename_i read
      obtain ⟨awaiting, opened⟩ := Bool.and_eq_true_iff.mp read
      split at unreadable
      · cases unreadable
      · rename_i fault decoded
        cases unreadable
        exact answer_of_unreadable awaiting known opened decoded
    · cases unreadable

namespace Session

/-- Why a conversation is over, if something failed. -/
def Progress.halted? {σ π : Type} : Progress σ π → Option Halt
  | .underway _ => none
  | .complete result => halted result

variable {σ π : Type}

theorem halted_onChannel {α : Type} (operation : EStateM Halt (Channel σ) α)
    (session : Session σ π) :
    halted (onChannel operation session) = halted (operation session.channel) := by
  rw [onChannel]
  cases operation session.channel with
  | ok value channel => rfl
  | error halt channel => rfl

theorem halted?_goOn (result : EStateM.Result Halt (Session σ π) Unit) :
    (goOn result).halted? = halted result := by
  cases result with
  | ok _ session => rfl
  | error halt session => rfl

theorem halted_conclude (result : EStateM.Result Halt (Session σ π) DerivedSecret) :
    halted (conclude result) = halted result := by
  cases result with
  | ok secret session => rfl
  | error halt session =>
      cases halt with
      | failed error => rfl
      | waitsForever => rfl

variable [Link σ]

theorem halted_advance (request : Except Error RawMessage) (stage : Stage)
    (session : Session σ π) :
    halted (advance request stage session) = halted (send request session) := by
  rw [advance]
  cases send request session with
  | ok _ next => rfl
  | error halt next => rfl

variable [Prompt π]

/-- A law about what is done and what it fails with, which holds of the parts of a session
and is kept when one part follows another that has not failed. -/
structure Lawful (σ π : Type) [Link σ] [Prompt π] (law : List Event → Option Halt → Prop) :
    Prop where
  nothing : ∀ stop, law [] stop
  append : ∀ {first second : List Event} {stop : Option Halt},
    law first none → law second stop → law (first ++ second) stop
  send : ∀ (request : Except Error RawMessage) (channel : Channel σ),
    law (Channel.sendEvents request channel) (halted (Channel.sendEncoded request channel))
  receive : ∀ channel : Channel σ,
    law (Channel.collectEvents .idle channel) (halted (Channel.receive channel))
  read : ∀ (stage : Stage) (message : RawMessage),
    law (.received stage message :: stage.decodeEvents message)
      ((stage.unreadable? message).map .failed)
  consult : ∀ (interaction : Interaction) (prompt : π),
    law (consultEvents interaction prompt) ((halted (consult interaction prompt)).map .failed)

namespace Lawful

variable {law : List Event → Option Halt → Prop} {hash : HashFunction} {mode : Mode}

theorem interact (lawful : Lawful σ π law) (interaction : Interaction) (session : Session σ π) :
    law (interactEvents interaction session) (halted (interact interaction session)) := by
  have consulted := lawful.consult interaction session.prompt
  rw [interactEvents]
  cases asked : Session.consult interaction session.prompt with
  | error error prompt =>
      rw [asked] at consulted
      rw [interact_of_error asked, List.append_nil]
      exact consulted
  | ok text prompt =>
      rw [asked] at consulted
      rw [interact_of_ok asked, Session.send, halted_onChannel]
      exact lawful.append consulted
        (lawful.send (interaction.acknowledgement text) session.channel.countInteraction)

theorem makeMove (lawful : Lawful σ π law) (move : Except Error Move) (session : Session σ π) :
    law (moveEvents move session) (makeMove move session).halted? := by
  cases move with
  | error error => exact lawful.nothing _
  | ok move =>
      cases move with
      | wait => exact lawful.nothing _
      | finish secret => exact lawful.nothing _
      | interact interaction =>
          rw [Session.makeMove, halted?_goOn]
          exact lawful.interact interaction session
      | advance request stage =>
          rw [Session.makeMove, halted?_goOn, halted_advance, Session.send, halted_onChannel]
          exact lawful.send request session.channel

/-- A message that has arrived is read, and then the move for it is made. -/
theorem answer (lawful : Lawful σ π law) (stage : Stage) (info : HostInfo)
    (message : RawMessage) (session : Session σ π) :
    law (.received stage message :: (stage.decodeEvents message ++
        moveEvents (stage.answer hash mode info message) session))
      (Session.makeMove (stage.answer hash mode info message) session).halted? := by
  have read := lawful.read stage message
  rw [← List.cons_append]
  cases unreadable : stage.unreadable? message with
  | none =>
      rw [unreadable] at read
      exact lawful.append read (lawful.makeMove _ session)
  | some error =>
      rw [unreadable] at read
      rw [Stage.answer_of_unreadable? unreadable, moveEvents, List.append_nil]
      exact read

theorem round (lawful : Lawful σ π law) (session : Session σ π) :
    law (roundEvents hash mode session) (round hash mode session).halted? := by
  have received := lawful.receive session.channel
  rw [roundEvents, Session.round]
  cases arrived : Channel.receive session.channel with
  | error halt channel =>
      rw [arrived] at received
      rw [List.append_nil]
      exact received
  | ok message channel =>
      rw [arrived] at received
      exact lawful.append received (lawful.answer _ _ _ _)

theorem exchangeFor (lawful : Lawful σ π law) (rounds : Nat) (session : Session σ π) :
    law (exchangeEvents hash mode rounds session)
      (exchangeFor hash mode rounds session).halted? := by
  induction rounds with
  | zero =>
      rw [Session.exchangeFor, Function.iterate_zero, id, halted?_goOn, Session.send,
        halted_onChannel]
      exact lawful.send HostInfo.opening session.channel
  | succ rounds hypothesis =>
      rw [exchangeFor_succ, exchangeEvents]
      cases stands : Session.exchangeFor hash mode rounds session with
      | underway following =>
          rw [stands] at hypothesis
          exact lawful.append hypothesis (lawful.round following)
      | complete result =>
          rw [stands] at hypothesis
          rw [Progress.nextEvents, List.append_nil]
          exact hypothesis

/-- What holds of the parts holds of every run. -/
theorem runFor (lawful : Lawful σ π law) (rounds : Nat) (session : Session σ π) :
    law (history hash mode rounds session) (runFor hash mode rounds session).halted? := by
  have holds : law (exchangeEvents hash mode rounds session) _ :=
    lawful.exchangeFor rounds session
  rw [history, Session.runFor]
  split
  · cases stands : Session.exchangeFor hash mode rounds session with
    | underway following =>
        rw [stands] at holds
        exact holds
    | complete result =>
        rw [stands] at holds
        rw [Progress.halted?, halted_conclude]
        exact holds
  · exact lawful.nothing _

end Lawful
end Session
end SecurityKey
