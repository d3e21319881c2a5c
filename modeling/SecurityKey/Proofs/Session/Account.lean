import SecurityKey.Proofs.Session.History

/-!
# Histories are full accounts

Doing what a history says, one thing after the other, comes out as the history says, and
leaves the link and the prompt as the session leaves them (`does_runFor`).  So a session
reads, writes, shows and asks exactly what is in its history: what is not there was not
done.

Every part of a session has its own account, and the accounts of parts that follow each
other are joined by `Does.trans`.
-/

set_option autoImplicit false

namespace SecurityKey

/-! ## Accounts of operations on a link and a prompt -/

/-- Whether an operation on a link and a prompt comes out as an event says.  Writes have one
deadline and reads another; what is done inside the session touches neither. -/
def Event.Happens {σ π : Type} [Link σ] [Prompt π] (writeTimeout : Nat) (readTimeout : Deadline) :
    Event → σ × π → σ × π → Prop
  | .wrote report result, (link, prompt), after =>
      let written := Link.write report (some writeTimeout) link
      result = outcome written ∧ after = (leaves written, prompt)
  | .read result, (link, prompt), after =>
      let arrived := Link.read readTimeout link
      result = outcome arrived ∧ after = (leaves arrived, prompt)
  | .shown line, (link, prompt), after => after = (link, Prompt.display line prompt)
  | .asked interaction result, (link, prompt), after =>
      ∃ question, interaction.question = some question ∧
        let answered := Prompt.secret question false prompt
        result = outcome answered ∧ after = (link, leaves answered)
  | .handed _, before, after | .assembled _, before, after | .received _ _, before, after
  | .decoded _ _ _, before, after => after = before

/-- What a list of events makes of a link and a prompt, each event coming out as it says. -/
inductive Accounts {σ π : Type} [Link σ] [Prompt π] (writeTimeout : Nat)
    (readTimeout : Deadline) : List Event → σ × π → σ × π → Prop where
  | nil (world : σ × π) : Accounts writeTimeout readTimeout [] world world
  | cons {event : Event} {rest : List Event} {before middle after : σ × π}
      (happens : event.Happens writeTimeout readTimeout before middle)
      (others : Accounts writeTimeout readTimeout rest middle after) :
      Accounts writeTimeout readTimeout (event :: rest) before after

variable {σ π : Type} [Link σ] [Prompt π]

theorem Accounts.append {writeTimeout : Nat} {readTimeout : Deadline}
    {first second : List Event} {before middle after : σ × π}
    (earlier : Accounts writeTimeout readTimeout first before middle)
    (later : Accounts writeTimeout readTimeout second middle after) :
    Accounts writeTimeout readTimeout (first ++ second) before after := by
  induction earlier with
  | nil world => exact later
  | cons happens _ hypothesis => exact .cons happens (hypothesis later)

/-! ## Channels -/

namespace Channel

/-- The deadlines of a channel. -/
def timeouts (channel : Channel σ) : Nat × Deadline := (channel.writeTimeout, channel.readTimeout)

/-- Something about a channel that stays as it is while the channel carries messages. -/
structure Steady {α : Type} (quantity : Channel σ → α) : Prop where
  link : ∀ channel link, quantity { channel with link } = quantity channel
  countSent : ∀ message channel, quantity (channel.countSent message) = quantity channel
  countReport : ∀ channel, quantity channel.countReport = quantity channel
  countReceived : ∀ message channel, quantity (channel.countReceived message) = quantity channel
  countError : ∀ channel, quantity channel.countError = quantity channel

omit [Link σ] in
theorem steady_timeouts : Steady (@timeouts σ) :=
  ⟨fun _ _ => rfl, fun _ _ => rfl, fun _ => rfl, fun _ _ => rfl, fun _ => rfl⟩

namespace Steady

variable {α : Type} {quantity : Channel σ → α}

theorem writeReports (steady : Steady quantity) (reports : List Report) (channel : Channel σ) :
    quantity (leaves (writeReports reports channel)) = quantity channel := by
  induction reports generalizing channel with
  | nil => rfl
  | cons report rest hypothesis =>
      rw [Channel.writeReports]
      split
      · rename_i link _
        exact (hypothesis _).trans (steady.link channel link)
      · rename_i halt link _
        exact steady.link channel link

theorem sendEncoded (steady : Steady quantity) (encoded : Except Error RawMessage)
    (channel : Channel σ) :
    quantity (leaves (sendEncoded encoded channel)) = quantity channel := by
  cases encoded with
  | error error => rfl
  | ok message =>
      rw [Channel.sendEncoded, send]
      cases message.packetize with
      | error error => rfl
      | ok reports =>
          have kept := steady.writeReports reports channel
          dsimp only
          cases wrote : Channel.writeReports reports channel with
          | ok _ next =>
              rw [wrote] at kept
              exact (steady.countSent message next).trans kept
          | error halt next => rwa [wrote] at kept

omit [Link σ] in
/-- A report that is read and counted leaves it as it is. -/
theorem read (steady : Steady quantity) (channel : Channel σ) (link : σ) :
    quantity { channel with link }.countReport = quantity channel :=
  (steady.countReport _).trans (steady.link channel link)

theorem collect (steady : Steady quantity) (assembler : Reassembler) (channel : Channel σ) :
    quantity (leaves (collect assembler channel)) = quantity channel := by
  fun_induction Channel.collect assembler channel with
  | case1 assembler channel halt link => exact steady.link channel link
  | case2 assembler channel report link _ _ _ _ hypothesis =>
      exact hypothesis.trans (steady.read channel link)
  | case3 assembler channel report link _ _ message =>
      exact (steady.countReceived message _).trans (steady.read channel link)
  | case4 assembler channel report link =>
      exact (steady.countError _).trans (steady.read channel link)

end Steady

theorem accounts_writeReports (reports : List Report) (channel : Channel σ) (prompt : π) :
    Accounts channel.writeTimeout channel.readTimeout (writeEvents reports channel)
      (channel.link, prompt) ((leaves (writeReports reports channel)).link, prompt) := by
  induction reports generalizing channel with
  | nil => exact .nil _
  | cons report rest hypothesis =>
      rw [writeEvents, writeReports]
      cases wrote : Link.write report (some channel.writeTimeout) channel.link with
      | ok _ link =>
          refine .cons ?_ (hypothesis { channel with link })
          simp only [Event.Happens, wrote]
          exact ⟨rfl, rfl⟩
      | error halt link =>
          refine .cons ?_ (.nil _)
          simp only [Event.Happens, wrote]
          exact ⟨rfl, rfl⟩

theorem accounts_sendEncoded (encoded : Except Error RawMessage) (channel : Channel σ)
    (prompt : π) :
    Accounts channel.writeTimeout channel.readTimeout (sendEvents encoded channel)
      (channel.link, prompt) ((leaves (sendEncoded encoded channel)).link, prompt) := by
  cases encoded with
  | error error => exact .nil _
  | ok message =>
      refine .cons rfl ?_
      rw [sendEncoded, send]
      cases message.packetize with
      | error error => exact .nil _
      | ok reports =>
          have written := accounts_writeReports reports channel prompt
          dsimp only
          cases wrote : writeReports reports channel with
          | ok _ next => rwa [wrote] at written
          | error halt next => rwa [wrote] at written

theorem accounts_collect (assembler : Reassembler) (channel : Channel σ) (prompt : π) :
    Accounts channel.writeTimeout channel.readTimeout (collectEvents assembler channel)
      (channel.link, prompt) ((leaves (collect assembler channel)).link, prompt) := by
  fun_induction collect assembler channel with
  | case1 assembler channel halt link failed =>
      rw [collectEvents_of_failed failed]
      refine .cons ?_ (.nil _)
      simp only [Event.Happens, failed]
      exact ⟨rfl, rfl⟩
  | case2 assembler channel report link arrived counted following pushed hypothesis =>
      rw [collectEvents_of_more arrived pushed]
      refine .cons ?_ (.cons rfl hypothesis)
      simp only [Event.Happens, arrived]
      exact ⟨rfl, rfl⟩
  | case3 assembler channel report link arrived counted message following pushed =>
      rw [collectEvents_of_message arrived pushed]
      refine .cons ?_ (.cons rfl (.nil _))
      simp only [Event.Happens, arrived]
      exact ⟨rfl, rfl⟩
  | case4 assembler channel report link arrived counted error following pushed =>
      rw [collectEvents_of_fault arrived pushed]
      refine .cons ?_ (.cons rfl (.nil _))
      simp only [Event.Happens, arrived]
      exact ⟨rfl, rfl⟩

end Channel

/-! ## Sessions -/

namespace Session

/-- The link and the prompt of a session. -/
def world (session : Session σ π) : σ × π := (session.channel.link, session.prompt)

/-- Some events are all that is done between two states of a session. -/
structure Does (events : List Event) (before after : Session σ π) : Prop where
  accounts : Accounts before.channel.writeTimeout before.channel.readTimeout events
    before.world after.world
  timeouts : after.channel.timeouts = before.channel.timeouts

/-- Nothing is done when link, prompt and deadlines stay. -/
theorem Does.nothing {before after : Session σ π} (world : after.world = before.world)
    (timeouts : after.channel.timeouts = before.channel.timeouts) : Does [] before after :=
  ⟨world ▸ .nil _, timeouts⟩

theorem Does.trans {first second : List Event} {before middle after : Session σ π}
    (earlier : Does first before middle) (later : Does second middle after) :
    Does (first ++ second) before after := by
  obtain ⟨write, read⟩ := Prod.mk.inj earlier.timeouts
  have accounts := later.accounts
  rw [write, read] at accounts
  exact ⟨earlier.accounts.append accounts, later.timeouts.trans earlier.timeouts⟩

omit [Link σ] [Prompt π] in
theorem leaves_onChannel {α : Type} (operation : EStateM Halt (Channel σ) α)
    (session : Session σ π) :
    leaves (onChannel operation session) =
      { session with channel := leaves (operation session.channel) } := by
  rw [onChannel]
  cases operation session.channel with
  | ok value channel => rfl
  | error halt channel => rfl

theorem does_send (request : Except Error RawMessage) (session : Session σ π) :
    Does (Channel.sendEvents request session.channel) session (leaves (send request session)) := by
  rw [send, leaves_onChannel]
  exact ⟨Channel.accounts_sendEncoded request session.channel session.prompt,
    Channel.steady_timeouts.sendEncoded request session.channel⟩

theorem accounts_display (writeTimeout : Nat) (readTimeout : Deadline) (lines : List String)
    (link : σ) (prompt : π) :
    Accounts writeTimeout readTimeout (lines.map .shown) (link, prompt)
      (link, lines.foldl (fun prompt line => Prompt.display line prompt) prompt) := by
  induction lines generalizing prompt with
  | nil => exact .nil _
  | cons line rest hypothesis => exact .cons rfl (hypothesis _)

theorem accounts_consult (writeTimeout : Nat) (readTimeout : Deadline)
    (interaction : Interaction) (link : σ) (prompt : π) :
    Accounts writeTimeout readTimeout (consultEvents interaction prompt) (link, prompt)
      (link, leaves (consult interaction prompt)) := by
  refine (accounts_display writeTimeout readTimeout interaction.notices link prompt).append ?_
  cases interaction with
  | button => exact .nil _
  | pin => exact .cons ⟨_, rfl, rfl, rfl⟩ (.nil _)
  | passphrase => exact .cons ⟨_, rfl, rfl, rfl⟩ (.nil _)

theorem does_interact (interaction : Interaction) (session : Session σ π) :
    Does (interactEvents interaction session) session (leaves (interact interaction session)) := by
  have consulted := accounts_consult session.channel.writeTimeout session.channel.readTimeout
    interaction session.channel.link session.prompt
  rw [interactEvents]
  cases asked : consult interaction session.prompt with
  | error error prompt =>
      rw [asked] at consulted
      rw [interact_of_error asked, List.append_nil]
      exact ⟨consulted, rfl⟩
  | ok text prompt =>
      rw [asked] at consulted
      rw [interact_of_ok asked]
      have told : Does (consultEvents interaction session.prompt) session
          (session.answered interaction prompt) := ⟨consulted, rfl⟩
      exact told.trans
        (does_send (interaction.acknowledgement text) (session.answered interaction prompt))

theorem does_advance (request : Except Error RawMessage) (stage : Stage)
    (session : Session σ π) :
    Does (Channel.sendEvents request session.channel) session
      (leaves (advance request stage session)) := by
  have sent := does_send request session
  rw [advance]
  cases made : send request session with
  | ok _ next =>
      rw [made] at sent
      exact ⟨sent.accounts, sent.timeouts⟩
  | error halt next =>
      rw [made] at sent
      exact sent

omit [Link σ] [Prompt π] in
theorem session_goOn (result : EStateM.Result Halt (Session σ π) Unit) :
    (goOn result).session = leaves result := by
  cases result with
  | ok _ session => rfl
  | error halt session => rfl

theorem does_makeMove (move : Except Error Move) (session : Session σ π) :
    Does (moveEvents move session) session (makeMove move session).session := by
  cases move with
  | error error => cases error <;> exact .nothing rfl rfl
  | ok move =>
      cases move with
      | wait => exact .nothing rfl rfl
      | finish secret => exact .nothing rfl rfl
      | interact interaction =>
          rw [makeMove, session_goOn]
          exact does_interact interaction session
      | advance request stage =>
          rw [makeMove, session_goOn]
          exact does_advance request stage session

theorem accounts_decodeEvents (stage : Stage) (message : RawMessage) (session : Session σ π) :
    Does (stage.decodeEvents message) session session := by
  rw [Stage.decodeEvents]
  split
  · exact .nothing rfl rfl
  · split
    · exact ⟨.cons rfl (.nil _), rfl⟩
    · exact .nothing rfl rfl

theorem does_round (hash : HashFunction) (mode : Mode) (session : Session σ π) :
    Does (roundEvents hash mode session) session (round hash mode session).session := by
  have accounts := Channel.accounts_collect .idle session.channel session.prompt
  have timeouts := Channel.steady_timeouts.collect .idle session.channel
  rw [roundEvents, round, Channel.receive]
  cases arrived : Channel.collect .idle session.channel with
  | error halt channel =>
      rw [arrived] at accounts timeouts
      rw [List.append_nil]
      exact ⟨accounts, timeouts⟩
  | ok message channel =>
      rw [arrived] at accounts timeouts
      have read : Does (Channel.collectEvents .idle session.channel) session
          { session.noteMessage message with channel } := ⟨accounts, timeouts⟩
      have noted : Does [.received session.stage message]
          { session.noteMessage message with channel }
          { session.noteMessage message with channel } := ⟨.cons rfl (.nil _), rfl⟩
      exact read.trans (noted.trans
        ((accounts_decodeEvents session.stage message _).trans (does_makeMove _ _)))

theorem does_exchangeFor (hash : HashFunction) (mode : Mode) (rounds : Nat)
    (session : Session σ π) :
    Does (exchangeEvents hash mode rounds session) session
      (exchangeFor hash mode rounds session).session := by
  induction rounds with
  | zero =>
      rw [exchangeFor, Function.iterate_zero, id, session_goOn]
      exact does_send HostInfo.opening session
  | succ rounds hypothesis =>
      refine hypothesis.trans ?_
      rw [exchangeFor_succ]
      cases exchangeFor hash mode rounds session with
      | underway following => exact does_round hash mode following
      | complete result => exact .nothing rfl rfl

/-- A history is a full account of what a run does to the link and the prompt. -/
theorem does_runFor (hash : HashFunction) (mode : Mode) (rounds : Nat) (session : Session σ π) :
    Does (history hash mode rounds session) session
      (runFor hash mode rounds session).session := by
  have done := does_exchangeFor hash mode rounds session
  rw [history, runFor]
  split
  · cases stands : exchangeFor hash mode rounds session with
    | underway following =>
        rw [stands] at done
        exact done
    | complete result =>
        rw [stands] at done
        cases result with
        | ok secret following => exact ⟨done.accounts, done.timeouts⟩
        | error halt following =>
            cases halt with
            | failed error => exact ⟨done.accounts, done.timeouts⟩
            | waitsForever => exact done
  · exact .nothing rfl rfl

end Session
end SecurityKey
