import SecurityKey.Proofs.Session.Delivered
import SecurityKey.Proofs.Session.Payloads
import SecurityKey.Proofs.Session.SecretLength

/-!
# What requests are bound to

Everything that a session says is the start, an answer of the user, or one of three requests
(`Asked`).  The requests are made of the identity of the session; the last one also of a public
key, which is the first that was heard while one was awaited and is not empty (`firstPeerKey?`).
Such a key ends the wait: no other can be heard behind it, and until it is heard the session says
nothing that depends on a key (`keyless_exchangeFor`).

`requests_bind_identity` says what this means for the device: how the requests read that it puts
together from the reports of a run.  `run_requests_bind_identity` says it of all reports of a run
over a finite link.
-/

set_option autoImplicit false

namespace SecurityKey

/-! ## The key that is heard -/

/-- The public key that a session hears, if it awaits one and this one is not empty. -/
def Talk.peerKey? : Talk → Option Bytes
  | .heard .awaitingPeerKey message =>
      if message.id = MessageKind.publicKey.id then
        match decodeObject PublicKey message.payload with
        | .ok key => if key.node.publicKey = [] then none else some key.node.publicKey
        | .error _ => none
      else
        none
  | _ => none

/-- The first public key in a talk that is heard while one is awaited and is not empty. -/
def firstPeerKey? (talk : List Talk) : Option Bytes := talk.findSome? Talk.peerKey?

/-- The first key stays the first. -/
theorem firstPeerKey?_append {talk : List Talk} {key : Bytes}
    (found : firstPeerKey? talk = some key) (more : List Talk) :
    firstPeerKey? (talk ++ more) = some key := by
  rw [firstPeerKey?, List.findSome?_append, ← firstPeerKey?, found, Option.some_or]

/-- Before the first key there is none. -/
theorem firstPeerKey?_of_none {talk : List Talk} (none : firstPeerKey? talk = none)
    (more : List Talk) : firstPeerKey? (talk ++ more) = firstPeerKey? more := by
  rw [firstPeerKey?, List.findSome?_append, ← firstPeerKey?, none, Option.none_or, firstPeerKey?]

/-- A public key that is awaited and not empty is heard. -/
theorem Talk.peerKey?_of_filled {message : RawMessage} {key : PublicKey}
    (isKey : message.id = MessageKind.publicKey.id)
    (readable : decodeObject PublicKey message.payload = .ok key)
    (filled : key.node.publicKey ≠ []) :
    (Talk.heard .awaitingPeerKey message).peerKey? = some key.node.publicKey := by
  rw [peerKey?, if_pos isKey, readable]
  exact if_neg filled

/-- A key that is heard leads to the request that is made of it. -/
theorem Talk.answer_of_peerKey? {hash : HashFunction} {mode : Mode} {info : HostInfo}
    {stage : Stage} {message : RawMessage} {key : Bytes}
    (heard : (Talk.heard stage message).peerKey? = some key) :
    stage.answer hash mode info message =
      .ok (.advance (info.sessionKeyRequest key) .awaitingSecret) := by
  cases stage with
  | handshake | awaitingSecret | done => cases heard
  | awaitingPeerKey =>
      rw [peerKey?] at heard
      split at heard
      · rename_i isKey
        have known : MessageKind.ofId? message.id = some .publicKey := by
          rw [isKey, MessageKind.ofId?_id]
        rw [Stage.answer_known rfl known]
        split at heard
        · rename_i found readable
          by_cases empty : found.node.publicKey = []
          · rw [if_pos empty] at heard
            cases heard
          · rw [if_neg empty] at heard
            cases heard
            simp only [Stage.answerKind, readable]
            exact if_neg empty
        · cases heard
      · cases heard

/-! ## Messages that are said -/

/-- What a session of some mode and identity says when it has heard a key or none. -/
inductive Asked (hash : HashFunction) (mode : Mode) (info : HostInfo) (key? : Option Bytes)
    (message : RawMessage) : Prop
  /-- The start. -/
  | opening (encoded : HostInfo.opening = .ok message)
  /-- An answer of the user. -/
  | answer {interaction : Interaction} {text : String}
      (encoded : interaction.acknowledgement text = .ok message)
  /-- The request for a signature. -/
  | signature (scheme : mode = .legacy) (encoded : info.signatureRequest = .ok message)
  /-- The request for the public key of the peer. -/
  | peerKey (scheme : mode = .modern) (encoded : info.peerKeyRequest hash = .ok message)
  /-- The request for the session key that is shared with the owner of the key. -/
  | sessionKey {key : Bytes} (scheme : mode = .modern) (heard : key? = some key)
      (encoded : info.sessionKeyRequest key = .ok message)

/-- How the requests of a session of some mode and identity read when it has heard a key or
none. -/
structure RawMessage.BoundTo (hash : HashFunction) (mode : Mode) (info : HostInfo)
    (key? : Option Bytes) (message : RawMessage) : Prop where
  /-- A signature is asked for in the legacy scheme: of the identity, of the application with its
  ending, and of the text for the user. -/
  signature : message.id = MessageKind.signIdentity.id →
    mode = .legacy ∧ decodeObject SignIdentity message.payload =
      .ok ⟨⟨info.app, info.user, info.host⟩, info.app ++ "_luks_drive", info.message, "ed25519"⟩
  /-- A public key is asked for in the modern scheme: the one whose path is that of the locator,
  which is not shown. -/
  peerKey : message.id = MessageKind.getPublicKey.id →
    mode = .modern ∧ decodeObject GetPublicKey message.payload =
      .ok ⟨KeyPath.ofDigest
          (hash (Bytes.ofText (info.app ++ "_peerkey://" ++ info.user ++ "@" ++ info.host))),
        some "curve25519", none⟩
  /-- A session key is asked for in the modern scheme: the one that the identity shares with the
  owner of the key, of which 32 bytes behind the first are sent behind a mark. -/
  sessionKey : message.id = MessageKind.getEcdhSessionKey.id →
    mode = .modern ∧ ∃ (key : Bytes) (peer : FixedBytes 33), key? = some key ∧
      decodeObject GetEcdhSessionKey message.payload =
        .ok ⟨⟨info.app, info.user, info.host⟩, peer, "curve25519"⟩ ∧
      peer.bytes = 0x40 :: Bytes.fit 32 (key.drop 1)

/-- A message is of one kind only. -/
theorem MessageKind.elim_of_ne {message : RawMessage} {first second : MessageKind}
    {goal : Prop} (isFirst : message.id = first.id) (differ : first ≠ second)
    (isSecond : message.id = second.id) : goal :=
  absurd (id_inj (isFirst.symm.trans isSecond)) differ

variable {hash : HashFunction} {mode : Mode} {info : HostInfo}

namespace Asked

variable {key? : Option Bytes} {message : RawMessage}

/-- What was said with no key or with the first one still is when more is heard. -/
theorem append {talk : List Talk} (asked : Asked hash mode info (firstPeerKey? talk) message)
    (more : List Talk) : Asked hash mode info (firstPeerKey? (talk ++ more)) message := by
  cases asked with
  | opening encoded => exact .opening encoded
  | answer encoded => exact .answer encoded
  | signature scheme encoded => exact .signature scheme encoded
  | peerKey scheme encoded => exact .peerKey scheme encoded
  | sessionKey scheme heard encoded =>
      exact .sessionKey scheme (firstPeerKey?_append heard more) encoded

/-- The device reads what is said as it was made. -/
theorem boundTo (asked : Asked hash mode info key? message)
    (fits : message.payload.length ≤ Report.maximumPayload) :
    message.BoundTo hash mode info key? := by
  cases asked with
  | opening encoded =>
      have isKind := id_ofMessage encoded
      exact {
        signature := MessageKind.elim_of_ne isKind (by decide)
        peerKey := MessageKind.elim_of_ne isKind (by decide)
        sessionKey := MessageKind.elim_of_ne isKind (by decide) }
  | @answer interaction text encoded =>
      have isKind := Interaction.id_acknowledgement encoded
      exact {
        signature := MessageKind.elim_of_ne isKind (by cases interaction <;> decide)
        peerKey := MessageKind.elim_of_ne isKind (by cases interaction <;> decide)
        sessionKey := MessageKind.elim_of_ne isKind (by cases interaction <;> decide) }
  | signature scheme encoded =>
      have isKind := id_ofMessage encoded
      exact {
        signature := fun _ => ⟨scheme, HostInfo.decode_signatureRequest encoded fits⟩
        peerKey := MessageKind.elim_of_ne isKind (by decide)
        sessionKey := MessageKind.elim_of_ne isKind (by decide) }
  | peerKey scheme encoded =>
      have isKind := id_ofMessage encoded
      exact {
        signature := MessageKind.elim_of_ne isKind (by decide)
        peerKey := fun _ => ⟨scheme, HostInfo.decode_peerKeyRequest encoded⟩
        sessionKey := MessageKind.elim_of_ne isKind (by decide) }
  | @sessionKey key scheme heard encoded =>
      have isKind := id_ofMessage encoded
      exact {
        signature := MessageKind.elim_of_ne isKind (by decide)
        peerKey := MessageKind.elim_of_ne isKind (by decide)
        sessionKey := fun _ => ⟨scheme, key, HostInfo.peerKey key, heard,
          HostInfo.decode_sessionKeyRequest encoded fits, HostInfo.bytes_peerKey key⟩ }

end Asked

namespace Sent

variable {ids : List UInt16}

/-- Only the modern scheme awaits a public key. -/
theorem modern (sent : Sent mode .awaitingPeerKey ids) : mode = .modern := by
  cases sent with
  | peerKey acks => rfl

/-- When the secret is awaited the sentence is whole. -/
theorem sentence (sent : Sent mode .awaitingSecret ids) :
    ∃ before after, ids = mode.sentence before after := by
  cases sent with
  | signature acks => exact ⟨acks, [], rfl⟩
  | sessionKey before after => exact ⟨before, after, rfl⟩

end Sent

namespace Session

variable {σ π : Type} [Link σ] [Prompt π]

/-! ## What moves say -/

/-- What a move says is what the user tells, an answer of the user or the request of the move. -/
inductive Says (move : Except Error Move) : Talk → Prop
  | told (interaction : Interaction) (text : String) : Says move (.told interaction text)
  | answer {interaction : Interaction} {text : String} {ack : RawMessage}
      (encoded : interaction.acknowledgement text = .ok ack) : Says move (.said ack)
  | request {request : RawMessage} {next : Stage}
      (advances : move = .ok (.advance (.ok request) next)) : Says move (.said request)

theorem says_of_interact {move : Except Error Move} {interaction : Interaction}
    {session : Session σ π} {item : Talk}
    (uttered : item ∈ talkOf (interactEvents interaction session)) : Says move item := by
  rw [interactEvents, talkOf_append] at uttered
  cases asked : consult interaction session.prompt with
  | error error prompt =>
      rw [asked, talkOf_consult_error asked] at uttered
      cases uttered
  | ok text prompt =>
      obtain ⟨ack, encoded⟩ := interaction.exists_acknowledgement text
      rw [asked, talkOf_consult_ok asked] at uttered
      dsimp only at uttered
      rw [encoded, Channel.talkOf_sendEvents] at uttered
      rcases List.mem_append.mp uttered with told | said
      · cases interaction with
        | button => cases told
        | pin | passphrase =>
            cases List.mem_singleton.mp told
            exact .told _ text
      · cases List.mem_singleton.mp said
        exact .answer encoded

/-- A move says nothing else. -/
theorem says_of_move {move : Except Error Move} {session : Session σ π} {item : Talk}
    (uttered : item ∈ talkOf (moveEvents move session)) : Says move item := by
  cases move with
  | error error => cases uttered
  | ok made =>
      cases made with
      | wait | finish => cases uttered
      | interact interaction => exact says_of_interact uttered
      | advance request next =>
          rw [moveEvents] at uttered
          cases request with
          | error error => cases uttered
          | ok request =>
              rw [Channel.talkOf_sendEvents] at uttered
              cases List.mem_singleton.mp uttered
              exact .request rfl

/-- A key is heard, not said. -/
theorem firstPeerKey?_move (move : Except Error Move) (session : Session σ π) :
    firstPeerKey? (talkOf (moveEvents move session)) = none := by
  refine List.findSome?_eq_none_iff.mpr fun item uttered => ?_
  cases says_of_move uttered with
  | told | answer | request => rfl

/-- A session that goes on after a move is in the stage that the move leads to. -/
theorem stage_of_makeMove {move : Move} {session next : Session σ π}
    (made : makeMove (.ok move) session = .underway next) :
    next.stage = move.target session.stage := by
  cases move with
  | wait =>
      cases made
      rfl
  | finish => cases made
  | interact interaction =>
      have answered := underway_of_goOn made
      cases asked : consult interaction session.prompt with
      | error error prompt =>
          rw [interact_of_error asked] at answered
          cases answered
      | ok text prompt =>
          rw [interact_of_ok asked] at answered
          exact (send_keeps answered).1
  | advance request stage =>
      have went := underway_of_goOn made
      rw [advance] at went
      split at went
      · cases went
        rfl
      · cases went

/-! ## Rounds -/

/-- The key of a round is the one in the message that is heard. -/
theorem firstPeerKey?_round {session : Session σ π} {message : RawMessage}
    {channel : Channel σ} (arrived : Channel.receive session.channel = .ok message channel) :
    firstPeerKey? (talkOf (roundEvents hash mode session)) =
      (Talk.heard session.stage message).peerKey? := by
  rw [talkOf_round_of_arrived arrived, firstPeerKey?, List.findSome?_cons]
  cases heard : (Talk.heard session.stage message).peerKey? with
  | some key => rfl
  | none => exact firstPeerKey?_move _ _

/-- Once a session awaits the secret it awaits nothing else. -/
theorem awaitingSecret_of_answer {message : RawMessage} {move : Move}
    (answered : Stage.awaitingSecret.answer hash mode info message = .ok move) :
    move.target .awaitingSecret = .awaitingSecret := by
  generalize late : Stage.awaitingSecret = stage at answered
  cases Stage.brings_of_answer answered with
  | greeting | peerKey => cases late
  | notice | request | signature | sharedPoint => rfl

/-- A session that has not come to await the secret in a round has heard no key in it. -/
theorem keyless_round {session next : Session σ π}
    (went : round hash mode session = .underway next) (early : next.stage ≠ .awaitingSecret) :
    session.stage ≠ .awaitingSecret ∧
      firstPeerKey? (talkOf (roundEvents hash mode session)) = none := by
  rw [round] at went
  cases arrived : Channel.receive session.channel with
  | error halt channel =>
      rw [arrived] at went
      cases went
  | ok message channel =>
      rw [arrived] at went
      dsimp only at went
      cases answered : session.stage.answer hash mode session.info message with
      | error error =>
          rw [answered] at went
          cases went
      | ok move =>
          rw [answered] at went
          have stage : next.stage = move.target session.stage := (stage_of_makeMove went :)
          constructor
          · intro late
            rw [late] at answered stage
            exact early (stage.trans (awaitingSecret_of_answer answered))
          · rw [firstPeerKey?_round arrived]
            cases heard : (Talk.heard session.stage message).peerKey? with
            | none => rfl
            | some key =>
                cases answered.symm.trans (Talk.answer_of_peerKey? heard)
                exact absurd stage early

/-- A request that a session goes on with is asked of its identity, and of a key only if that
is just heard. -/
theorem asked_of_advance {stage next : Stage} {heard request : RawMessage}
    (brings : stage.Brings hash mode info heard (.advance (.ok request) next))
    (scheme : stage = .awaitingPeerKey → mode = .modern) :
    stage ≠ .awaitingSecret ∧ Asked hash mode info (Talk.heard stage heard).peerKey? request := by
  generalize made : Move.advance (.ok request) next = move at brings
  cases brings with
  | greeting =>
      refine ⟨Stage.noConfusion, ?_⟩
      cases mode with
      | legacy => exact .signature rfl (Move.advance.inj made).1.symm
      | modern => exact .peerKey rfl (Move.advance.inj made).1.symm
  | peerKey isKey readable filled =>
      exact ⟨Stage.noConfusion, .sessionKey (scheme rfl)
        (Talk.peerKey?_of_filled isKey readable filled) (Move.advance.inj made).1.symm⟩
  | notice | request | signature | sharedPoint => cases made

/-- What a round says is asked of the identity of the session, and of a key only if it is the
first, provided that none was heard before. -/
theorem asked_round {session : Session σ π} {talk : List Talk} {message : RawMessage}
    (scheme : session.stage = .awaitingPeerKey → mode = .modern)
    (keyless : session.stage ≠ .awaitingSecret → firstPeerKey? talk = none)
    (said : .said message ∈ talkOf (roundEvents hash mode session)) :
    Asked hash mode session.info
      (firstPeerKey? (talk ++ talkOf (roundEvents hash mode session))) message := by
  cases arrived : Channel.receive session.channel with
  | error halt channel =>
      rw [talkOf_round_of_halted arrived] at said
      cases said
  | ok heard channel =>
      have uttered := said
      rw [talkOf_round_of_arrived arrived] at uttered
      cases says_of_move ((List.mem_cons.mp uttered).resolve_left Talk.noConfusion) with
      | answer encoded => exact .answer encoded
      | request advances =>
          obtain ⟨early, asked⟩ := asked_of_advance (Stage.brings_of_answer advances) scheme
          rw [firstPeerKey?_of_none (keyless early), firstPeerKey?_round arrived]
          exact asked

/-! ## Runs -/

/-- A session that does not await the secret yet has heard no key. -/
theorem keyless_exchangeFor (rounds : Nat) {session next : Session σ π}
    (stands : exchangeFor hash mode rounds session = .underway next)
    (early : next.stage ≠ .awaitingSecret) :
    firstPeerKey? (talkOf (exchangeEvents hash mode rounds session)) = none := by
  induction rounds generalizing next with
  | zero =>
      have encoded : HostInfo.opening = .ok ⟨MessageKind.initializeDevice.id, []⟩ := rfl
      rw [exchangeEvents, encoded, Channel.talkOf_sendEvents]
      rfl
  | succ rounds hypothesis =>
      rw [exchangeFor_succ] at stands
      cases before : exchangeFor hash mode rounds session with
      | underway following =>
          rw [before] at stands
          -- No round leads back from the last stage, so the session was early before it too.
          obtain ⟨earlier, silent⟩ := keyless_round stands early
          rw [exchangeEvents, talkOf_append, before,
            firstPeerKey?_of_none (hypothesis before earlier)]
          exact silent
      | complete result =>
          rw [before] at stands
          cases stands

/-- Whatever an exchange says is asked of the identity of the session and of the first key that
it has heard. -/
theorem asked_exchangeFor (rounds : Nat) {session : Session σ π}
    (fresh : session.stage = .handshake) {message : RawMessage}
    (said : .said message ∈ talkOf (exchangeEvents hash mode rounds session)) :
    Asked hash mode session.info
      (firstPeerKey? (talkOf (exchangeEvents hash mode rounds session))) message := by
  induction rounds with
  | zero =>
      have encoded : HostInfo.opening = .ok ⟨MessageKind.initializeDevice.id, []⟩ := rfl
      rw [exchangeEvents, encoded, Channel.talkOf_sendEvents] at said
      cases List.mem_singleton.mp said
      exact .opening encoded
  | succ rounds hypothesis =>
      rw [exchangeEvents, talkOf_append] at said ⊢
      -- What was said keeps its key, and what is said now finds no key before its own.
      rcases List.mem_append.mp said with before | behind
      · exact (hypothesis before).append _
      · cases stands : exchangeFor hash mode rounds session with
        | complete result =>
            rw [stands] at behind
            cases behind
        | underway following =>
            have talks : (exchangeFor hash mode rounds session).Talks hash mode _ _ _ :=
              talks_exchangeFor rounds fresh
            rw [stands] at talks behind
            have stood : following.Talks hash mode _ _ _ := talks
            have scheme : following.stage = .awaitingPeerKey → mode = .modern := by
              intro awaiting
              have sent := sent_of_dialogue stood.dialogue
              rw [awaiting] at sent
              exact sent.modern
            rw [← stood.info]
            exact asked_round scheme (keyless_exchangeFor rounds stands) behind

/-- A run that gives a secret has handed over a whole sentence. -/
theorem sentence_of_runFor {rounds : Nat} {session next : Session σ π} {secret : DerivedSecret}
    (ended : runFor hash mode rounds session = .complete (.ok secret next)) :
    ∃ before after, (handedMessages (history hash mode rounds session)).map RawMessage.id =
      mode.sentence before after := by
  obtain ⟨fresh, last, exchanged, _⟩ := exchangeFor_of_runFor ended
  obtain ⟨_, following, _, finished, _⟩ := exists_last_round exchanged
  obtain ⟨message, channel, _, answered, left⟩ := round_secret finished
  have late : last.stage = .awaitingSecret := by
    rw [left]
    exact (Stage.answer_finish_iff.mp answered).1
  have talks : (exchangeFor hash mode rounds session).Talks hash mode _ _ _ :=
    talks_exchangeFor rounds fresh
  rw [exchanged] at talks
  have stood : last.Talks hash mode _ _ _ := talks
  have dialogue := stood.dialogue
  rw [late] at dialogue
  rw [history, if_pos fresh, ← saidIds_talkOf]
  exact (sent_of_dialogue dialogue).sentence

/-- What the device puts together is bound to the identity and to the first key that was heard. -/
theorem boundTo_of_delivered (rounds : Nat) {session : Session σ π}
    (fresh : session.stage = .handshake) {message : RawMessage}
    (delivered : message ∈ deliveredMessages (history hash mode rounds session)) :
    message.BoundTo hash mode session.info
      (firstPeerKey? (talkOf (history hash mode rounds session))) := by
  have delivers : Delivers (history hash mode rounds session)
      (runFor hash mode rounds session).halted? := lawful_delivers.runFor rounds session
  have watched : history hash mode rounds session = exchangeEvents hash mode rounds session :=
    if_pos fresh
  have handed := (deliveredMessages_beginning delivers).subset delivered
  obtain ⟨handed, fits⟩ := List.mem_filter.mp handed
  have said := mem_handedMessages_iff.mp handed
  rw [watched] at said ⊢
  exact (asked_exchangeFor rounds fresh said).boundTo (of_decide_eq_true fits)

/-- When a run gives a secret, the device has put together a whole sentence. -/
theorem delivered_of_runFor {rounds : Nat} {session next : Session σ π} {secret : DerivedSecret}
    (ended : runFor hash mode rounds session = .complete (.ok secret next)) :
    ∃ before after, (deliveredMessages (history hash mode rounds session)).map RawMessage.id =
      mode.sentence before after := by
  have well : (runFor hash mode rounds session).halted? = none := by rw [ended]; rfl
  rw [deliveredMessages_of_runFor well]
  exact sentence_of_runFor ended

/-- The requests of a derivation bind the identity that it is for.  In every run of a fresh
session, whatever link and prompt it has and whatever texts its identity is made of:

* each request that the device puts together from the reports that are written reads as the
  request of the scheme for this identity, and the request for a session key also holds 32 bytes
  of the first public key that was heard while one was awaited and is not empty, whatever came
  before it;
* if the run gives a secret, the device has put together all of its requests, each once and in
  their order. -/
theorem requests_bind_identity (hash : HashFunction) (mode : Mode) (rounds : Nat)
    (channel : Channel σ) (prompt : π) (info : HostInfo) :
    let fresh := start channel prompt info
    let events := history hash mode rounds fresh
    (∀ message ∈ deliveredMessages events,
      message.BoundTo hash mode info (firstPeerKey? (talkOf events))) ∧
    (∀ secret next, runFor hash mode rounds fresh = .complete (.ok secret next) →
      ∃ before after,
        (deliveredMessages events).map RawMessage.id = mode.sentence before after) := by
  intro fresh events
  have unused : fresh.stage = .handshake := rfl
  exact ⟨fun message delivered => boundTo_of_delivered rounds unused delivered,
    fun secret next ended => delivered_of_runFor ended⟩

/-- Over a finite link the requests of the whole run bind the identity. -/
theorem run_requests_bind_identity {σ π : Type} [FiniteLink σ] [Prompt π] (hash : HashFunction)
    (mode : Mode) (channel : Channel σ) (prompt : π) (info : HostInfo) :
    let fresh := start channel prompt info
    let events := runEvents hash mode fresh
    (∀ message ∈ deliveredMessages events,
      message.BoundTo hash mode info (firstPeerKey? (talkOf events))) ∧
    (∀ secret next, run hash mode fresh = .ok secret next →
      ∃ before after,
        (deliveredMessages events).map RawMessage.id = mode.sentence before after) := by
  intro fresh events
  have unused : fresh.stage = .handshake := rfl
  have bound : ∀ message ∈ deliveredMessages events,
      message.BoundTo hash mode info (firstPeerKey? (talkOf events)) :=
    law_of_runFor (fun events _ => ∀ message ∈ deliveredMessages events,
        message.BoundTo hash mode info (firstPeerKey? (talkOf events)))
      fun rounds message delivered => boundTo_of_delivered rounds unused delivered
  refine ⟨bound, fun secret next ended => ?_⟩
  obtain ⟨rounds, complete, watched⟩ := exists_runFor hash mode fresh
  rw [ended] at complete
  have sentence := delivered_of_runFor complete
  rw [watched] at sentence
  exact sentence

end Session
end SecurityKey
