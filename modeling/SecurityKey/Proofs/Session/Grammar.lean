import SecurityKey.Proofs.Session.Talk
import SecurityKey.Proofs.Session.Written

/-!
# The grammar of what a host sends

A dialogue has little freedom.  In the legacy scheme the host sends the start, the request
for a signature and then only answers to requests of the user; in the modern scheme it sends
the start, the request for a public key, answers, once the request for a session key, and
answers again (`Mode.sentence`).

What is said also has its place: each answer directly follows the request that asked for it
and what the user told, and the request for a session key directly follows a public key
that is not empty (`Talk.Justified`).  The secrets that are sent are those that the user
told, in order (`secretAcks_of_dialogue`).

`host_keeps_grammar` says all this about every run, however long it is watched, and
`run_keeps_grammar` about the whole run over a finite link.
-/

set_option autoImplicit false

namespace SecurityKey

/-! ## What stands before an item -/

/-- Every item of a list fits to what stands before it. -/
inductive Throughout {α : Type} (fits : List α → α → Prop) : List α → Prop where
  | nil : Throughout fits []
  | snoc {items : List α} {last : α} (earlier : Throughout fits items)
      (fitting : fits items last) : Throughout fits (items ++ [last])

namespace Throughout

variable {α : Type} {fits : List α → α → Prop} {items : List α}

/-- Wherever a list is split, the item after the split fits. -/
theorem fits_of_split (throughout : Throughout fits items) {before after : List α} {item : α}
    (split : items = before ++ item :: after) : fits before item := by
  induction throughout generalizing after with
  | nil => exact absurd split.symm (List.append_ne_nil_of_right_ne_nil _ (List.cons_ne_nil _ _))
  | @snoc items last earlier fitting hypothesis =>
      rcases split_last split with ⟨_, rfl, rfl⟩ | ⟨init, same⟩
      · exact fitting
      · exact hypothesis same

/-- Two more items that fit. -/
theorem pair {first second : α} (earlier : Throughout fits items) (one : fits items first)
    (two : fits (items ++ [first]) second) : Throughout fits (items ++ [first, second]) := by
  have both := (earlier.snoc one).snoc two
  rw [List.append_assoc] at both
  exact both

/-- Three more items that fit. -/
theorem triple {first second third : α} (earlier : Throughout fits items)
    (one : fits items first) (two : fits (items ++ [first]) second)
    (three : fits (items ++ [first, second]) third) :
    Throughout fits (items ++ [first, second, third]) := by
  have all := (earlier.pair one two).snoc three
  rw [List.append_assoc] at all
  exact all

end Throughout

/-! ## Numbers of kinds -/

theorem MessageKind.id_inj {first second : MessageKind} (same : first.id = second.id) :
    first = second := by
  have found := congrArg ofId? same
  rw [ofId?_id, ofId?_id] at found
  exact Option.some.inj found

theorem Interaction.answer_inj {first second : Interaction} (same : first.answer = second.answer) :
    first = second := by
  cases first <;> cases second <;> first | rfl | cases same

theorem Interaction.answer_ne_request {interaction : Interaction} {mode : Mode} :
    interaction.answer ≠ mode.request := by
  cases interaction <;> cases mode <;> exact MessageKind.noConfusion

/-! ## Every item in its place -/

namespace Talk

/-- Whether the host or the user has reason to say something after what was said before. -/
def Justified (before : List Talk) : Talk → Prop
  | .heard _ _ => True
  | .told interaction _ =>
      ∃ earlier stage request, before = earlier ++ [.heard stage request] ∧
        request.id = interaction.request.id
  | .said message =>
      (∀ interaction : Interaction, message.id = interaction.answer.id →
        ∃ earlier stage request text,
          before = earlier ++ .heard stage request :: interaction.telling text ∧
          request.id = interaction.request.id ∧
          interaction.acknowledgement text = .ok message) ∧
      (message.id = MessageKind.getEcdhSessionKey.id →
        ∃ earlier request key, before = earlier ++ [.heard .awaitingPeerKey request] ∧
          request.id = MessageKind.publicKey.id ∧
          decodeObject PublicKey request.payload = .ok key ∧ key.node.publicKey ≠ [])

/-- A message of another kind needs no reason. -/
theorem justified_of_kind {before : List Talk} {message : RawMessage} {kind : MessageKind}
    (isKind : message.id = kind.id) (notAnswer : ∀ interaction : Interaction,
      kind ≠ interaction.answer) (notSecond : kind ≠ .getEcdhSessionKey) :
    (Talk.said message).Justified before := by
  constructor
  · intro interaction isAnswer
    exact absurd (MessageKind.id_inj (isKind.symm.trans isAnswer)) (notAnswer interaction)
  · intro isSecond
    exact absurd (MessageKind.id_inj (isKind.symm.trans isSecond)) notSecond

/-- The answer to a request is justified by the request and what the user told. -/
theorem justified_answer {earlier : List Talk} {stage : Stage} {request ack : RawMessage}
    {interaction : Interaction} {text : String} (asks : request.id = interaction.request.id)
    (encoded : interaction.acknowledgement text = .ok ack) :
    (Talk.said ack).Justified (earlier ++ .heard stage request :: interaction.telling text) := by
  have isAnswer := Interaction.id_acknowledgement encoded
  constructor
  · intro other isOther
    have same : interaction = other :=
      Interaction.answer_inj (MessageKind.id_inj (isAnswer.symm.trans isOther))
    subst same
    exact ⟨earlier, stage, request, text, rfl, asks, encoded⟩
  · intro isSecond
    have same := MessageKind.id_inj (isAnswer.symm.trans isSecond)
    cases interaction <;> cases same

end Talk

variable {hash : HashFunction} {mode : Mode} {info : HostInfo} {talk : List Talk} {stage : Stage}

/-- In a dialogue everything is said for a reason. -/
theorem throughout_of_dialogue (dialogue : Dialogue hash mode info talk stage) :
    Throughout (fun before item => item.Justified before) talk := by
  induction dialogue with
  | @opening message encoded =>
      refine .snoc .nil (Talk.justified_of_kind (id_ofMessage encoded) ?_ MessageKind.noConfusion)
      intro interaction
      cases interaction <;> exact MessageKind.noConfusion
  | @turn talk reply stage next message earlier replied hypothesis =>
      cases replied with
      | silent => exact .snoc hypothesis trivial
      | @first _ request _ encoded =>
          obtain ⟨isFirst, _⟩ := Mode.firstMove_eq encoded
          refine hypothesis.pair trivial (Talk.justified_of_kind isFirst ?_ ?_)
          · exact fun interaction same => Interaction.answer_ne_request same.symm
          · cases mode <;> exact MessageKind.noConfusion
      | @answer _ _ ack interaction text awaiting asks encoded =>
          have answered := @Talk.justified_answer talk stage message ack interaction text asks
            encoded
          have told : (Talk.told interaction text).Justified (talk ++ [.heard stage message]) :=
            ⟨talk, stage, message, rfl, asks⟩
          cases interaction with
          | button => exact hypothesis.pair trivial answered
          | pin => exact hypothesis.triple trivial told answered
          | passphrase => exact hypothesis.triple trivial told answered
      | @peerKey _ request key isKey readable filled encoded =>
          have isSecond := id_ofMessage encoded
          refine hypothesis.pair trivial ⟨fun interaction isAnswer => ?_, fun _ => ?_⟩
          · have same := MessageKind.id_inj (isSecond.symm.trans isAnswer)
            cases interaction <;> cases same
          · exact ⟨talk, message, key, rfl, isKey, readable, filled⟩

/-! ## The order of the messages that are sent -/

/-- The numbers of the messages that the host sends in a talk. -/
def saidIds (talk : List Talk) : List UInt16 :=
  talk.filterMap fun
    | .said message => some message.id
    | .heard _ _ | .told _ _ => none

/-- What is said to the device is what is handed to the channel. -/
theorem saidIds_talkOf (events : List Event) :
    saidIds (talkOf events) = (handedMessages events).map RawMessage.id := by
  induction events with
  | nil => rfl
  | cons event rest hypothesis =>
      cases event with
      | handed message => exact congrArg (List.cons message.id) hypothesis
      | asked interaction outcome => cases outcome <;> exact hypothesis
      | wrote | read | assembled | received | decoded | shown => exact hypothesis

theorem saidIds_append (first second : List Talk) :
    saidIds (first ++ second) = saidIds first ++ saidIds second := List.filterMap_append

/-- The numbers of the answers to some requests of the user. -/
def answerIds (interactions : List Interaction) : List UInt16 :=
  interactions.map fun interaction => interaction.answer.id

/-- The numbers of the messages of a whole session, with the requests of the user that are
answered before and after the second request of the modern scheme. -/
def Mode.sentence (before after : List Interaction) : Mode → List UInt16
  | .legacy => MessageKind.initializeDevice.id :: MessageKind.signIdentity.id :: answerIds before
  | .modern =>
      MessageKind.initializeDevice.id :: MessageKind.getPublicKey.id ::
        (answerIds before ++ MessageKind.getEcdhSessionKey.id :: answerIds after)

/-- The numbers of the messages that have been sent when a stage is reached. -/
inductive Sent : Mode → Stage → List UInt16 → Prop where
  | opening (mode : Mode) : Sent mode .handshake [MessageKind.initializeDevice.id]
  | signature (acks : List Interaction) :
      Sent .legacy .awaitingSecret
        (MessageKind.initializeDevice.id :: MessageKind.signIdentity.id :: answerIds acks)
  | peerKey (acks : List Interaction) :
      Sent .modern .awaitingPeerKey
        (MessageKind.initializeDevice.id :: MessageKind.getPublicKey.id :: answerIds acks)
  | sessionKey (before after : List Interaction) :
      Sent .modern .awaitingSecret
        (MessageKind.initializeDevice.id :: MessageKind.getPublicKey.id ::
          (answerIds before ++ MessageKind.getEcdhSessionKey.id :: answerIds after))

namespace Sent

variable {ids : List UInt16}

/-- The first request of the scheme follows the start. -/
theorem first (sent : Sent mode .handshake ids) :
    Sent mode mode.firstStage (ids ++ [mode.request.id]) := by
  cases sent with
  | opening =>
      cases mode with
      | legacy => exact .signature []
      | modern => exact .peerKey []

/-- An answer may follow whenever something is awaited. -/
theorem answer (sent : Sent mode stage ids) (awaiting : stage.awaits)
    (interaction : Interaction) : Sent mode stage (ids ++ [interaction.answer.id]) := by
  cases sent with
  | opening => cases awaiting
  | signature acks =>
      have more := signature (acks ++ [interaction])
      rw [answerIds, List.map_append] at more
      exact more
  | peerKey acks =>
      have more := peerKey (acks ++ [interaction])
      rw [answerIds, List.map_append] at more
      exact more
  | sessionKey before after =>
      have more := sessionKey before (after ++ [interaction])
      rw [answerIds, answerIds, List.map_append] at more
      simpa [answerIds] using more

/-- The second request of the modern scheme ends the wait for the public key. -/
theorem second (sent : Sent mode .awaitingPeerKey ids) :
    Sent mode .awaitingSecret (ids ++ [MessageKind.getEcdhSessionKey.id]) := by
  cases sent with
  | peerKey acks => exact .sessionKey acks []

/-- Whatever stage is reached, the host is in the middle of a sentence. -/
theorem exists_sentence (sent : Sent mode stage ids) :
    ∃ before after, ids <+: mode.sentence before after := by
  cases sent with
  | opening =>
      cases mode with
      | legacy => exact ⟨[], [], _, rfl⟩
      | modern => exact ⟨[], [], _, rfl⟩
  | signature acks => exact ⟨acks, [], List.prefix_rfl⟩
  | peerKey acks => exact ⟨acks, [], _, rfl⟩
  | sessionKey before after => exact ⟨before, after, List.prefix_rfl⟩

end Sent

/-- The host sends its messages in order. -/
theorem sent_of_dialogue (dialogue : Dialogue hash mode info talk stage) :
    Sent mode stage (saidIds talk) := by
  induction dialogue with
  | @opening message encoded =>
      have isStart := id_ofMessage encoded
      have ids : saidIds [.said message] = [message.id] := rfl
      rw [ids, isStart]
      exact .opening mode
  | @turn talk reply stage next message earlier replied hypothesis =>
      have heard : saidIds (.heard stage message :: reply) = saidIds reply := rfl
      rw [saidIds_append, heard]
      cases replied with
      | silent => exact (List.append_nil _).symm ▸ hypothesis
      | @first _ request _ encoded =>
          obtain ⟨isFirst, rfl⟩ := Mode.firstMove_eq encoded
          have ids : saidIds [.said request] = [request.id] := rfl
          rw [ids, isFirst]
          exact hypothesis.first
      | @answer _ _ ack interaction text awaiting asks encoded =>
          have ids : saidIds (interaction.telling text ++ [.said ack]) = [ack.id] := by
            cases interaction <;> rfl
          rw [ids, Interaction.id_acknowledgement encoded]
          exact hypothesis.answer awaiting interaction
      | @peerKey _ request key isKey readable filled encoded =>
          have isSecond := id_ofMessage encoded
          have ids : saidIds [.said request] = [request.id] := rfl
          rw [ids, isSecond]
          exact hypothesis.second

/-! ## Secrets -/

/-- What the user told in a talk, in order. -/
def answersTold (talk : List Talk) : List (Interaction × String) :=
  talk.filterMap fun
    | .told interaction text => some (interaction, text)
    | .heard _ _ | .said _ => none

/-- The messages of a talk that carry secrets of the user, in order. -/
def secretAcks (talk : List Talk) : List RawMessage :=
  talk.filterMap fun
    | .said message =>
        if message.id = MessageKind.pinMatrixAck.id ∨
            message.id = MessageKind.passphraseAck.id then
          some message
        else
          none
    | .heard _ _ | .told _ _ => none

theorem secretAcks_append (first second : List Talk) :
    secretAcks (first ++ second) = secretAcks first ++ secretAcks second :=
  List.filterMap_append

theorem answersTold_append (first second : List Talk) :
    answersTold (first ++ second) = answersTold first ++ answersTold second :=
  List.filterMap_append

/-- A message of another kind carries no secret. -/
theorem secretAcks_of_kind {message : RawMessage} {kind : MessageKind}
    (isKind : message.id = kind.id)
    (plain : ¬ (kind = .pinMatrixAck ∨ kind = .passphraseAck)) :
    secretAcks [.said message] = [] := by
  have other : ¬ (message.id = MessageKind.pinMatrixAck.id ∨
      message.id = MessageKind.passphraseAck.id) := by
    rw [isKind]
    rintro (same | same)
    · exact plain (.inl (MessageKind.id_inj same))
    · exact plain (.inr (MessageKind.id_inj same))
  simp [secretAcks, other]

/-- The answer to a request for a secret carries what the user told. -/
theorem secretAcks_answer {interaction : Interaction} {ack : RawMessage}
    (isAnswer : ack.id = interaction.answer.id) (text : String)
    (secret : interaction ≠ .button) :
    secretAcks (interaction.telling text ++ [.said ack]) = [ack] ∧
      answersTold (interaction.telling text ++ [.said ack]) = [(interaction, text)] := by
  cases interaction with
  | button => exact absurd rfl secret
  | pin => exact ⟨by simp [secretAcks, Interaction.telling, isAnswer, Interaction.answer], rfl⟩
  | passphrase =>
      exact ⟨by simp [secretAcks, Interaction.telling, isAnswer, Interaction.answer], rfl⟩

/-- A turn sends the secret that the user told in it. -/
theorem secretAcks_of_turn {message : RawMessage} {reply : List Talk} {next : Stage}
    (turn : Turn hash mode info stage message reply next) :
    (secretAcks reply).map .ok =
      (answersTold reply).map fun (interaction, text) => interaction.acknowledgement text := by
  cases turn with
  | silent => rfl
  | first encoded =>
      obtain ⟨isFirst, _⟩ := Mode.firstMove_eq encoded
      rw [secretAcks_of_kind isFirst (by cases mode <;> decide)]
      rfl
  | @answer _ _ ack interaction text awaiting asks encoded =>
      have isAnswer := Interaction.id_acknowledgement encoded
      by_cases button : interaction = .button
      · subst button
        have plain : secretAcks (Interaction.button.telling text ++ [.said ack]) = [] :=
          secretAcks_of_kind isAnswer (by decide)
        rw [plain]
        rfl
      · obtain ⟨carries, told⟩ := secretAcks_answer isAnswer text button
        rw [carries, told, List.map_singleton, List.map_singleton, ← encoded]
  | peerKey _ _ _ encoded =>
      rw [secretAcks_of_kind (id_ofMessage encoded) (by decide)]
      rfl

/-- The host sends the secrets that the user told, each once and in the message that was
asked for. -/
theorem secretAcks_of_dialogue (dialogue : Dialogue hash mode info talk stage) :
    (secretAcks talk).map .ok =
      (answersTold talk).map fun (interaction, text) => interaction.acknowledgement text := by
  induction dialogue with
  | opening encoded =>
      rw [secretAcks_of_kind (id_ofMessage encoded) (by decide)]
      rfl
  | @turn talk reply stage next message earlier replied hypothesis =>
      have heard : secretAcks (.heard stage message :: reply) = secretAcks reply := rfl
      have told : answersTold (.heard stage message :: reply) = answersTold reply := rfl
      rw [secretAcks_append, answersTold_append, heard, told, List.map_append, List.map_append,
        hypothesis, secretAcks_of_turn replied]

/-! ## Runs -/

namespace Session

variable {σ π : Type}

/-- The host keeps to the grammar in what is seen of a run of a fresh session. -/
structure KeepsGrammar [Link σ] [Prompt π] (mode : Mode) (channel : Channel σ) (prompt : π)
    (info : HostInfo) (events : List Event) (stands : Progress σ π) : Prop where
  accounts : Accounts channel.writeTimeout channel.readTimeout events
    (start channel prompt info).world stands.session.world
  reports : writtenReports events <+: (handedMessages events).flatMap RawMessage.reports
  order : ∃ before after, (handedMessages events).map RawMessage.id <+: mode.sentence before after
  reasons : ∀ before item after, talkOf events = before ++ item :: after → item.Justified before
  secrets : (secretAcks (talkOf events)).map .ok =
    (answersTold (talkOf events)).map fun (interaction, text) => interaction.acknowledgement text
  count : ∀ secret next, stands = .complete (.ok secret next) →
    next.channel.metrics.interactions =
      channel.metrics.interactions + UInt64.ofNat ((talkOf events).countP Talk.isAck)

theorem keepsGrammar_runFor [Link σ] [Prompt π] (hash : HashFunction) (mode : Mode)
    (rounds : Nat) (channel : Channel σ) (prompt : π) (info : HostInfo) :
    KeepsGrammar mode channel prompt info (history hash mode rounds (start channel prompt info))
      (runFor hash mode rounds (start channel prompt info)) := by
  have unused : (start channel prompt info).stage = .handshake := rfl
  obtain ⟨stage, dialogue⟩ : ∃ stage, Dialogue hash mode info
      (talkOf (history hash mode rounds (start channel prompt info))) stage :=
    dialogue_history rounds unused
  have delivers : Delivers (history hash mode rounds (start channel prompt info))
      (runFor hash mode rounds (start channel prompt info)).halted? :=
    lawful_delivers.runFor rounds _
  refine ⟨(does_runFor hash mode rounds (start channel prompt info)).accounts,
    delivers.beginning, ?order, ?reasons, secretAcks_of_dialogue dialogue, ?count⟩
  case order =>
    rw [← saidIds_talkOf]
    exact (sent_of_dialogue dialogue).exists_sentence
  case reasons =>
    intro before item after split
    exact (throughout_of_dialogue dialogue).fits_of_split split
  case count =>
    intro secret next ended
    exact interactions_of_secret ended

/-- The host keeps to the grammar in every run of a fresh session, whatever link and prompt
it has:

* what is done to link and prompt is in the history of the run, and the reports that are
  written are those of the messages that are handed to the channel;
* these messages are the beginning of a sentence of the scheme;
* each answer directly follows its request, and the request for a session key directly
  follows a public key that is not empty;
* the secrets that are sent are those that the user told, in order;
* a run that gives a secret has counted the answers. -/
theorem host_keeps_grammar {σ π : Type} [Link σ] [Prompt π] (hash : HashFunction)
    (mode : Mode) (rounds : Nat) (channel : Channel σ) (prompt : π) (info : HostInfo) :
    let fresh := start channel prompt info
    let events := history hash mode rounds fresh
    let talk := talkOf events
    Accounts channel.writeTimeout channel.readTimeout events fresh.world
        (runFor hash mode rounds fresh).session.world ∧
      writtenReports events <+: (handedMessages events).flatMap RawMessage.reports ∧
      (∃ before after,
        (handedMessages events).map RawMessage.id <+: mode.sentence before after) ∧
      (∀ before item after, talk = before ++ item :: after → item.Justified before) ∧
      (secretAcks talk).map .ok =
        (answersTold talk).map (fun (interaction, text) => interaction.acknowledgement text) ∧
      (∀ secret next, runFor hash mode rounds fresh = .complete (.ok secret next) →
        next.channel.metrics.interactions =
          channel.metrics.interactions + UInt64.ofNat (talk.countP Talk.isAck)) := by
  intro fresh events talk
  obtain ⟨accounts, reports, order, reasons, secrets, count⟩ :=
    keepsGrammar_runFor hash mode rounds channel prompt info
  exact ⟨accounts, reports, order, reasons, secrets, count⟩

/-- Over a finite link the host keeps to the grammar in the whole run. -/
theorem run_keeps_grammar [FiniteLink σ] [Prompt π] (hash : HashFunction) (mode : Mode)
    (channel : Channel σ) (prompt : π) (info : HostInfo) :
    KeepsGrammar mode channel prompt info (runEvents hash mode (start channel prompt info))
      (.complete (run hash mode (start channel prompt info))) :=
  law_of_runFor (KeepsGrammar mode channel prompt info) fun rounds =>
    keepsGrammar_runFor hash mode rounds channel prompt info

end Session
end SecurityKey
