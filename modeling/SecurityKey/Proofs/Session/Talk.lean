import SecurityKey.Proofs.Session.Account

/-!
# What is said in a session

Of everything that a session does, its talk keeps what is said: the messages that are heard
from the device, what the user tells, and the messages that are said to the device.

A talk is a dialogue.  It begins with the start, and goes on in turns: a message is heard
and is followed by what it brings, if anything (`Turn`).  No round of a session says
anything else (`talks_round`), so the talk of every run is a dialogue (`dialogue_history`).
-/

set_option autoImplicit false

namespace SecurityKey

/-! ## Talks -/

/-- Something that is said in a session. -/
inductive Talk where
  /-- The device sends a message, which arrives in a stage. -/
  | heard (stage : Stage) (message : RawMessage)
  /-- The user answers a request. -/
  | told (interaction : Interaction) (text : String)
  /-- The host sends a message. -/
  | said (message : RawMessage)

/-- What is said by an event, if anything is. -/
def Event.talk? : Event → Option Talk
  | .received stage message => some (.heard stage message)
  | .asked interaction (.ok text) => some (.told interaction text)
  | .handed message => some (.said message)
  | _ => none

/-- What is said in a list of events. -/
def talkOf (events : List Event) : List Talk := events.filterMap Event.talk?

@[simp] theorem talkOf_nil : talkOf [] = [] := rfl

theorem talkOf_append (first second : List Event) :
    talkOf (first ++ second) = talkOf first ++ talkOf second := List.filterMap_append

/-- What the user tells for a request. -/
def Interaction.telling (text : String) : Interaction → List Talk
  | .button => []
  | .pin => [.told .pin text]
  | .passphrase => [.told .passphrase text]

/-- Whether something that is said answers a request to the user. -/
def Talk.isAck : Talk → Bool
  | .said message =>
      message.id == MessageKind.buttonAck.id || message.id == MessageKind.pinMatrixAck.id ||
        message.id == MessageKind.passphraseAck.id
  | .heard _ _ | .told _ _ => false

/-! ## Turns -/

/-- What a message that is heard in a stage may be followed by, and the stage after it. -/
inductive Turn (hash : HashFunction) (mode : Mode) (info : HostInfo) :
    Stage → RawMessage → List Talk → Stage → Prop
  /-- Nothing is said. -/
  | silent (stage : Stage) (message : RawMessage) : Turn hash mode info stage message [] stage
  /-- The reply to the start is followed by the request of the scheme. -/
  | first {message request : RawMessage} {next : Stage}
      (encoded : mode.firstMove hash info = .advance (.ok request) next) :
      Turn hash mode info .handshake message [.said request] next
  /-- A request to the user is followed by what the user tells and by the answer. -/
  | answer {stage : Stage} {message ack : RawMessage} {interaction : Interaction} {text : String}
      (awaiting : stage.awaits) (asks : message.id = interaction.request.id)
      (encoded : interaction.acknowledgement text = .ok ack) :
      Turn hash mode info stage message (interaction.telling text ++ [.said ack]) stage
  /-- The public key of the peer is followed by the request for the session key. -/
  | peerKey {message request : RawMessage} {key : PublicKey}
      (isKey : message.id = MessageKind.publicKey.id)
      (readable : decodeObject PublicKey message.payload = .ok key)
      (filled : key.node.publicKey ≠ [])
      (encoded : info.sessionKeyRequest key.node.publicKey = .ok request) :
      Turn hash mode info .awaitingPeerKey message [.said request] .awaitingSecret

/-- The talk of a session that has come to a stage. -/
inductive Dialogue (hash : HashFunction) (mode : Mode) (info : HostInfo) :
    List Talk → Stage → Prop
  /-- The start is said. -/
  | opening {message : RawMessage} (encoded : HostInfo.opening = .ok message) :
      Dialogue hash mode info [.said message] .handshake
  /-- A message is heard and followed by what it brings. -/
  | turn {talk reply : List Talk} {stage next : Stage} {message : RawMessage}
      (earlier : Dialogue hash mode info talk stage)
      (replied : Turn hash mode info stage message reply next) :
      Dialogue hash mode info (talk ++ .heard stage message :: reply) next

/-! ## Acknowledgements -/

/-- An encoded message has the number of its kind. -/
theorem id_ofMessage {Message : Type} [DeviceMessage Message] {message : Message}
    {raw : RawMessage} (encoded : RawMessage.ofMessage message = .ok raw) :
    raw.id = (DeviceMessage.kind Message).id := by
  obtain ⟨payload, _, made⟩ := bind_eq_ok.mp encoded
  cases made
  rfl

/-- Every answer of the user can be sent. -/
theorem Interaction.exists_acknowledgement (interaction : Interaction) (text : String) :
    ∃ ack, interaction.acknowledgement text = .ok ack := by
  cases interaction with
  | button => exact ⟨_, rfl⟩
  | pin => exact ⟨_, rfl⟩
  | passphrase => exact ⟨_, rfl⟩

theorem Interaction.id_acknowledgement {interaction : Interaction} {text : String}
    {ack : RawMessage} (encoded : interaction.acknowledgement text = .ok ack) :
    ack.id = interaction.answer.id := by
  cases interaction with
  | button => exact id_ofMessage encoded
  | pin => exact id_ofMessage encoded
  | passphrase => exact id_ofMessage encoded

/-- The kind of the first request of a scheme. -/
def Mode.request : Mode → MessageKind
  | .legacy => .signIdentity
  | .modern => .getPublicKey

/-- The stage after the first request of a scheme. -/
def Mode.firstStage : Mode → Stage
  | .legacy => .awaitingSecret
  | .modern => .awaitingPeerKey

theorem Mode.firstMove_eq {hash : HashFunction} {info : HostInfo} {mode : Mode}
    {request : RawMessage} {next : Stage}
    (first : mode.firstMove hash info = .advance (.ok request) next) :
    request.id = mode.request.id ∧ next = mode.firstStage := by
  cases mode with
  | legacy =>
      obtain ⟨encoded, stage⟩ := Move.advance.inj first
      exact ⟨id_ofMessage encoded, stage.symm⟩
  | modern =>
      obtain ⟨encoded, stage⟩ := Move.advance.inj first
      exact ⟨id_ofMessage encoded, stage.symm⟩

/-- A request that a session goes on with is a turn of its dialogue. -/
theorem turn_of_advance {hash : HashFunction} {mode : Mode} {info : HostInfo} {stage next : Stage}
    {message request : RawMessage}
    (brings : stage.Brings hash mode info message (.advance (.ok request) next)) :
    Turn hash mode info stage message [.said request] next ∧
      (request.id = mode.request.id ∨ request.id = MessageKind.getEcdhSessionKey.id) := by
  generalize made : Move.advance (.ok request) next = move at brings
  cases brings with
  | greeting => exact ⟨.first made.symm, .inl (Mode.firstMove_eq made.symm).1⟩
  | notice => cases made
  | request => cases made
  | peerKey isKey readable filled =>
      obtain ⟨encoded, stage⟩ := Move.advance.inj made
      subst stage
      exact ⟨.peerKey isKey readable filled encoded.symm, .inr (id_ofMessage encoded.symm)⟩
  | signature => cases made
  | sharedPoint => cases made

/-! ## Counting answers -/

theorem Talk.isAck_of_answer {ack : RawMessage} {interaction : Interaction}
    (isAnswer : ack.id = interaction.answer.id) : (Talk.said ack).isAck = true := by
  rw [isAck, isAnswer]
  cases interaction with
  | button => rfl
  | pin => rfl
  | passphrase => rfl

theorem Talk.not_isAck_of_request {request : RawMessage} {mode : Mode}
    (isRequest : request.id = mode.request.id ∨
      request.id = MessageKind.getEcdhSessionKey.id) : (Talk.said request).isAck = false := by
  rcases isRequest with isFirst | isSecond
  · rw [isAck, isFirst]
    cases mode with
    | legacy => rfl
    | modern => rfl
  · rw [isAck, isSecond]
    rfl

/-- An answer to a request of the user counts once. -/
theorem countP_answer {ack : RawMessage} {interaction : Interaction}
    (isAnswer : ack.id = interaction.answer.id) (text : String) :
    (interaction.telling text ++ [Talk.said ack]).countP Talk.isAck = 1 := by
  have told : (interaction.telling text).countP Talk.isAck = 0 := by
    cases interaction with
    | button => rfl
    | pin => rfl
    | passphrase => rfl
  rw [List.countP_append, told, List.countP_singleton, Talk.isAck_of_answer isAnswer]
  rfl

/-! ## Events in which nothing is said -/

namespace Channel

variable {σ : Type} [Link σ]

theorem talkOf_writeEvents (reports : List Report) (channel : Channel σ) :
    talkOf (writeEvents reports channel) = [] := by
  induction reports generalizing channel with
  | nil => rfl
  | cons report rest hypothesis =>
      rw [writeEvents]
      split
      · exact hypothesis _
      · rfl

/-- A message is said when it is handed over, whatever becomes of its reports. -/
theorem talkOf_sendEvents (message : RawMessage) (channel : Channel σ) :
    talkOf (sendEvents (.ok message) channel) = [.said message] := by
  have silent : ∀ reports, talkOf (writeEvents reports channel) = [] := fun reports =>
    talkOf_writeEvents reports channel
  rw [sendEvents]
  cases message.packetize with
  | error error => rfl
  | ok reports => exact congrArg (List.cons _) (silent reports)

theorem talkOf_collectEvents (assembler : Reassembler) (channel : Channel σ) :
    talkOf (collectEvents assembler channel) = [] := by
  fun_induction collect assembler channel with
  | case1 assembler channel halt link failed =>
      rw [collectEvents_of_failed failed]
      rfl
  | case2 assembler channel report link arrived counted following pushed hypothesis =>
      rw [collectEvents_of_more arrived pushed]
      exact hypothesis
  | case3 assembler channel report link arrived counted message following pushed =>
      rw [collectEvents_of_message arrived pushed]
      rfl
  | case4 assembler channel report link arrived counted error following pushed =>
      rw [collectEvents_of_fault arrived pushed]
      rfl

omit [Link σ] in
/-- The answers of the user are counted by nothing that carries messages. -/
theorem steady_interactions : Steady fun channel : Channel σ => channel.metrics.interactions :=
  ⟨fun _ _ => rfl, fun _ _ => rfl, fun _ => rfl, fun _ _ => rfl, fun _ => rfl⟩

end Channel

theorem Stage.talkOf_decodeEvents (stage : Stage) (message : RawMessage) :
    talkOf (stage.decodeEvents message) = [] := by
  rw [decodeEvents]
  split
  · rfl
  · split
    · rfl
    · rfl

namespace Session

theorem talkOf_shown (lines : List String) : talkOf (lines.map .shown) = [] := by
  induction lines with
  | nil => rfl
  | cons line rest hypothesis => exact hypothesis

variable {σ π : Type} [Link σ] [Prompt π]

theorem talkOf_consult_ok {interaction : Interaction} {prompt next : π} {text : String}
    (asked : consult interaction prompt = .ok text next) :
    talkOf (consultEvents interaction prompt) = interaction.telling text := by
  rw [consultEvents, talkOf_append, talkOf_shown, asked]
  cases interaction with
  | button => rfl
  | pin => rfl
  | passphrase => rfl

theorem talkOf_consult_error {interaction : Interaction} {prompt next : π} {error : Error}
    (asked : consult interaction prompt = .error error next) :
    talkOf (consultEvents interaction prompt) = [] := by
  rw [consultEvents, talkOf_append, talkOf_shown, asked]
  cases interaction with
  | button => rfl
  | pin => rfl
  | passphrase => rfl

/-! ## Rounds -/

/-- A session in the stage to which its talk has led, with a count of the answers in it. -/
structure Talks (hash : HashFunction) (mode : Mode) (info : HostInfo) (counted : UInt64)
    (talk : List Talk) (session : Session σ π) : Prop where
  dialogue : Dialogue hash mode info talk session.stage
  info : session.info = info
  count : session.channel.metrics.interactions =
    counted + UInt64.ofNat (talk.countP Talk.isAck)

/-- The talk of a conversation.  When something has failed, the stage is of no interest. -/
def Progress.Talks (hash : HashFunction) (mode : Mode) (info : HostInfo) (counted : UInt64)
    (talk : List Talk) : Progress σ π → Prop
  | .underway session | .complete (.ok _ session) =>
      Session.Talks hash mode info counted talk session
  | .complete (.error _ _) => ∃ stage, Dialogue hash mode info talk stage

variable {hash : HashFunction} {mode : Mode} {info : HostInfo} {counted : UInt64}
  {talk : List Talk}

omit [Link σ] [Prompt π] in
theorem talks_goOn {result : EStateM.Result Halt (Session σ π) Unit} {stage : Stage}
    (dialogue : Dialogue hash mode info talk stage)
    (sent : ∀ next, result = .ok () next → next.Talks hash mode info counted talk) :
    (goOn result).Talks hash mode info counted talk := by
  cases result with
  | ok _ next => exact sent next rfl
  | error halt next => exact ⟨stage, dialogue⟩

omit [Prompt π] in
/-- Sending changes neither the stage nor the count of answers. -/
theorem send_keeps {request : Except Error RawMessage} {session next : Session σ π}
    (sent : send request session = .ok () next) :
    next.stage = session.stage ∧ next.info = session.info ∧
      next.channel.metrics.interactions = session.channel.metrics.interactions := by
  have left : leaves (send request session) = next := by rw [sent]; rfl
  rw [send, leaves_onChannel] at left
  subst left
  exact ⟨rfl, rfl, Channel.steady_interactions.sendEncoded request _⟩

omit [Link σ] [Prompt π] in
/-- After a message that brings nothing the talk is longer by that message. -/
theorem Talks.heard {session : Session σ π} (talks : session.Talks hash mode info counted talk)
    (message : RawMessage) :
    session.Talks hash mode info counted (talk ++ [.heard session.stage message]) := by
  refine ⟨.turn talks.dialogue (.silent session.stage message), talks.info, ?_⟩
  rw [List.countP_append]
  exact talks.count

/-- A request to the user says what the user tells and the answer, or nothing. -/
theorem talks_interact {session : Session σ π} {message : RawMessage} {interaction : Interaction}
    (talks : session.Talks hash mode info counted talk) (awaiting : session.stage.awaits)
    (asks : message.id = interaction.request.id) :
    (goOn (interact interaction session)).Talks hash mode info counted
      (talk ++ .heard session.stage message :: talkOf (interactEvents interaction session)) := by
  rw [interactEvents, talkOf_append]
  cases asked : consult interaction session.prompt with
  | error error prompt =>
      rw [interact_of_error asked, talkOf_consult_error asked]
      exact ⟨session.stage, (talks.heard message).dialogue⟩
  | ok text prompt =>
      obtain ⟨ack, encoded⟩ := interaction.exists_acknowledgement text
      have one := countP_answer (Interaction.id_acknowledgement encoded) text
      have turn : Dialogue hash mode info _ session.stage :=
        .turn talks.dialogue (.answer awaiting asks encoded)
      dsimp only
      rw [interact_of_ok asked, talkOf_consult_ok asked, encoded, Channel.talkOf_sendEvents]
      refine talks_goOn turn fun next sent => ?_
      obtain ⟨stage, knows, count⟩ := send_keeps sent
      refine ⟨stage.symm ▸ turn, knows.trans talks.info, ?_⟩
      have more : (session.answered interaction prompt).channel.metrics.interactions =
          session.channel.metrics.interactions + 1 := rfl
      rw [count, more, talks.count, List.countP_append, List.countP_cons_of_neg, one,
        UInt64.ofNat_add, UInt64.add_assoc]
      · rfl
      · exact Bool.false_ne_true

omit [Prompt π] in
/-- A request that a session goes on with is said, if it has an encoding. -/
theorem talks_advance {session : Session σ π} {message : RawMessage}
    {request : Except Error RawMessage} {next : Stage}
    (talks : session.Talks hash mode info counted talk)
    (brings : session.stage.Brings hash mode info message (.advance request next)) :
    (goOn (advance request next session)).Talks hash mode info counted
      (talk ++ .heard session.stage message ::
        talkOf (Channel.sendEvents request session.channel)) := by
  cases request with
  | error error => exact ⟨session.stage, (talks.heard message).dialogue⟩
  | ok request =>
      obtain ⟨turn, isRequest⟩ := turn_of_advance brings
      have went : Dialogue hash mode info _ next := .turn talks.dialogue turn
      rw [advance, Channel.talkOf_sendEvents]
      cases sent : send (.ok request) session with
      | error halt after => exact ⟨next, went⟩
      | ok _ after =>
          obtain ⟨_, knows, count⟩ := send_keeps sent
          refine ⟨went, knows.trans talks.info, ?_⟩
          rw [List.countP_append, List.countP_cons_of_neg, List.countP_singleton,
            Talk.not_isAck_of_request isRequest]
          · exact count.trans talks.count
          · exact Bool.false_ne_true

/-- A move says nothing but a turn of the dialogue. -/
theorem talks_makeMove {session : Session σ π} {message : RawMessage} {move : Except Error Move}
    (talks : session.Talks hash mode info counted talk)
    (answered : session.stage.answer hash mode info message = move) :
    (makeMove move session).Talks hash mode info counted
      (talk ++ .heard session.stage message :: talkOf (moveEvents move session)) := by
  have waits := talks.heard message
  cases move with
  | error error => exact ⟨session.stage, waits.dialogue⟩
  | ok made =>
      have brings := Stage.brings_of_answer answered
      cases made with
      | wait => exact waits
      | finish secret => exact ⟨waits.dialogue, waits.info, waits.count⟩
      | interact interaction =>
          obtain ⟨awaiting, asks⟩ := brings.of_interact
          exact talks_interact talks awaiting asks
      | advance request next => exact talks_advance talks brings

/-- Nothing is said in a round in which nothing arrives. -/
theorem talkOf_round_of_halted {session : Session σ π} {halt : Halt} {channel : Channel σ}
    (arrived : Channel.receive session.channel = .error halt channel) :
    talkOf (roundEvents hash mode session) = [] := by
  rw [roundEvents, talkOf_append, Channel.talkOf_collectEvents, arrived]
  rfl

/-- In any other round a message is heard and then the move for it is made. -/
theorem talkOf_round_of_arrived {session : Session σ π} {message : RawMessage}
    {channel : Channel σ} (arrived : Channel.receive session.channel = .ok message channel) :
    talkOf (roundEvents hash mode session) = .heard session.stage message ::
      talkOf (moveEvents (session.stage.answer hash mode session.info message)
        { session.noteMessage message with channel }) := by
  rw [roundEvents, talkOf_append, Channel.talkOf_collectEvents, arrived, List.nil_append]
  refine congrArg (List.cons _) ((talkOf_append _ _).trans ?_)
  rw [Stage.talkOf_decodeEvents, List.nil_append]

/-- A round says nothing but a turn of the dialogue. -/
theorem talks_round {session : Session σ π} (talks : session.Talks hash mode info counted talk) :
    (round hash mode session).Talks hash mode info counted
      (talk ++ talkOf (roundEvents hash mode session)) := by
  have kept := Channel.steady_interactions.collect .idle session.channel
  rw [← Channel.receive] at kept
  cases arrived : Channel.receive session.channel with
  | error halt channel =>
      rw [round, arrived, talkOf_round_of_halted arrived, List.append_nil]
      exact ⟨session.stage, talks.dialogue⟩
  | ok message channel =>
      rw [arrived] at kept
      have after : Talks hash mode info counted talk
          { session.noteMessage message with channel } :=
        ⟨talks.dialogue, talks.info, kept.trans talks.count⟩
      rw [round, arrived, talkOf_round_of_arrived arrived, talks.info]
      exact talks_makeMove after rfl

/-! ## Runs -/

theorem talks_exchangeFor (rounds : Nat) {session : Session σ π}
    (fresh : session.stage = .handshake) :
    (exchangeFor hash mode rounds session).Talks hash mode session.info
      session.channel.metrics.interactions (talkOf (exchangeEvents hash mode rounds session)) := by
  induction rounds with
  | zero =>
      have encoded : HostInfo.opening = .ok ⟨MessageKind.initializeDevice.id, []⟩ := rfl
      have opening : Dialogue hash mode session.info _ .handshake := .opening encoded
      rw [exchangeFor, Function.iterate_zero, id, exchangeEvents, encoded,
        Channel.talkOf_sendEvents]
      refine talks_goOn opening fun next sent => ?_
      obtain ⟨stage, knows, count⟩ := send_keeps sent
      exact ⟨(stage.trans fresh).symm ▸ opening, knows, count.trans (UInt64.add_zero _).symm⟩
  | succ rounds hypothesis =>
      rw [exchangeFor_succ, exchangeEvents, talkOf_append]
      cases stands : exchangeFor hash mode rounds session with
      | underway following =>
          rw [stands] at hypothesis
          exact talks_round hypothesis
      | complete result =>
          rw [stands] at hypothesis
          rw [Progress.nextEvents, talkOf_nil, List.append_nil]
          exact hypothesis

omit [Link σ] [Prompt π] in
/-- However a conversation stands, its talk is a dialogue. -/
theorem Progress.Talks.dialogue {progress : Progress σ π}
    (talks : progress.Talks hash mode info counted talk) :
    ∃ stage, Dialogue hash mode info talk stage := by
  cases progress with
  | underway session => exact ⟨_, Session.Talks.dialogue talks⟩
  | complete result =>
      cases result with
      | ok secret session => exact ⟨_, Session.Talks.dialogue talks⟩
      | error halt session => exact talks

/-- The talk of every run is a dialogue. -/
theorem dialogue_history (rounds : Nat) {session : Session σ π}
    (fresh : session.stage = .handshake) :
    ∃ stage, Dialogue hash mode session.info
      (talkOf (history hash mode rounds session)) stage := by
  rw [history, if_pos fresh]
  exact (talks_exchangeFor rounds fresh).dialogue

/-- A run that gives a secret has counted the answers that it said. -/
theorem interactions_of_secret {rounds : Nat} {session next : Session σ π}
    {secret : DerivedSecret}
    (ended : runFor hash mode rounds session = .complete (.ok secret next)) :
    next.channel.metrics.interactions = session.channel.metrics.interactions +
      UInt64.ofNat ((talkOf (history hash mode rounds session)).countP Talk.isAck) := by
  obtain ⟨fresh, last, exchanged, rfl⟩ := exchangeFor_of_runFor ended
  have talks : (exchangeFor hash mode rounds session).Talks hash mode _ _ _ :=
    talks_exchangeFor rounds fresh
  rw [exchanged] at talks
  have stands : last.Talks hash mode _ _ _ := talks
  rw [history, if_pos fresh]
  exact stands.count

end Session
end SecurityKey
