import SecurityKey.Session.Dialogue

/-!
# What a session makes of a message

A message either brings a move or ends the session.  `Stage.Brings` lists every move that
a message can bring in a stage, with what the message has to be for it, and
`brings_of_answer` says that there are no others.

A session looks into a message only if its kind is one that the stage opens
(`Stage.opens`).  What cannot be read ends the session with the fault of its bytes
(`answer_of_unreadable`), what can be read brings a move unless it is a failure
(`exists_move_of_readable`), and what is not opened decides nothing (`answer_of_not_opens`).
-/

set_option autoImplicit false

namespace SecurityKey

/-! ## Messages that are read -/

/-- An object can be read when a record of its fields can. -/
theorem decodeObject_of_ok {Object : Type} [WireObject Object] {payload : Bytes}
    {record : (WireObject.schema Object).Record}
    (readable : (WireObject.schema Object).decode payload = .ok record) :
    decodeObject Object payload = .ok (WireObject.ofRecord record) := by
  rw [decodeObject, readable]
  rfl

/-- An object cannot be read when a record of its fields cannot. -/
theorem decodeObject_of_error {Object : Type} [WireObject Object] {payload : Bytes}
    {error : Error} (unreadable : (WireObject.schema Object).decode payload = .error error) :
    decodeObject Object payload = .error error := by
  rw [decodeObject, unreadable]
  rfl

/-! ## Kinds of messages -/

/-- The kind of message with which a device asks for an interaction. -/
def Interaction.request : Interaction → MessageKind
  | .button => .buttonRequest
  | .pin => .pinMatrixRequest
  | .passphrase => .passphraseRequest

/-- The kind of message that a request to the user is answered with. -/
def Interaction.answer : Interaction → MessageKind
  | .button => .buttonAck
  | .pin => .pinMatrixAck
  | .passphrase => .passphraseAck

/-- The kind of message that ends a derivation of a scheme. -/
def Mode.terminal : Mode → MessageKind
  | .legacy => .signedIdentity
  | .modern => .ecdhSessionKey

/-- Whether a kind of message carries a result, which only one stage waits for. -/
def MessageKind.isResult : MessageKind → Bool
  | .publicKey | .signedIdentity | .ecdhSessionKey => true
  | _ => false

/-- The stage that a move leads to. -/
def Move.target (stage : Stage) : Move → Stage
  | .advance _ next => next
  | .wait | .interact _ | .finish _ => stage

namespace Stage

/-- Whether a session in this stage waits for the answer to a request. -/
def awaits : Stage → Bool
  | .awaitingPeerKey | .awaitingSecret => true
  | .handshake | .done => false

/-- Whether a session in this stage looks into the messages of a kind. -/
def opens : Stage → MessageKind → Bool
  | .done, _ => false
  | _, .failure | _, .features => true
  | .handshake, _ => false
  | _, .buttonRequest | _, .pinMatrixRequest | _, .passphraseRequest | _, .success => true
  | .awaitingPeerKey, .publicKey => true
  | .awaitingSecret, .signedIdentity | .awaitingSecret, .ecdhSessionKey => true
  | _, _ => false

theorem opens_publicKey {stage : Stage} (opened : stage.opens .publicKey) :
    stage = .awaitingPeerKey := by
  cases stage <;> first | rfl | cases opened

theorem opens_signedIdentity {stage : Stage} (opened : stage.opens .signedIdentity) :
    stage = .awaitingSecret := by
  cases stage <;> first | rfl | cases opened

theorem opens_ecdhSessionKey {stage : Stage} (opened : stage.opens .ecdhSessionKey) :
    stage = .awaitingSecret := by
  cases stage <;> first | rfl | cases opened

variable {hash : HashFunction} {mode : Mode} {info : HostInfo}

/-! ## The answer by kinds -/

/-- A message of a number that is not known is not supported. -/
theorem answer_unknown {stage : Stage} {message : RawMessage} (awaiting : stage.awaits)
    (unknown : MessageKind.ofId? message.id = none) :
    stage.answer hash mode info message = .error (.unsupportedMessage message.id) := by
  cases stage with
  | handshake => cases awaiting
  | done => cases awaiting
  | awaitingPeerKey => simp only [answer, unknown]
  | awaitingSecret => simp only [answer, unknown]

/-- A message of a known kind is answered by its kind. -/
theorem answer_known {stage : Stage} {message : RawMessage} (awaiting : stage.awaits)
    {kind : MessageKind} (known : MessageKind.ofId? message.id = some kind) :
    stage.answer hash mode info message =
      stage.answerKind hash info kind message.payload := by
  cases stage with
  | handshake => cases awaiting
  | done => cases awaiting
  | awaitingPeerKey => simp only [answer, known]
  | awaitingSecret => simp only [answer, known]

/-- A payload that cannot be read ends the session with the fault that it has. -/
theorem answer_of_unreadable {stage : Stage} {message : RawMessage} (awaiting : stage.awaits)
    {kind : MessageKind} (known : MessageKind.ofId? message.id = some kind)
    (opened : stage.opens kind) {error : Error}
    (unreadable : kind.schema.decode message.payload = .error error) :
    stage.answer hash mode info message = .error error := by
  rw [answer_known awaiting known]
  cases kind with
  | failure => exact bind_of_error (@decodeObject_of_error Failure _ _ _ unreadable)
  | buttonRequest => exact bind_of_error (@decodeObject_of_error ButtonRequest _ _ _ unreadable)
  | pinMatrixRequest =>
      exact bind_of_error (@decodeObject_of_error PinMatrixRequest _ _ _ unreadable)
  | passphraseRequest =>
      exact bind_of_error (@decodeObject_of_error PassphraseRequest _ _ _ unreadable)
  | success => exact bind_of_error (@decodeObject_of_error Success _ _ _ unreadable)
  | features => exact bind_of_error (@decodeObject_of_error Features _ _ _ unreadable)
  | publicKey =>
      cases opens_publicKey opened
      exact bind_of_error (@decodeObject_of_error PublicKey _ _ _ unreadable)
  | signedIdentity =>
      cases opens_signedIdentity opened
      exact bind_of_error (@decodeObject_of_error SignedIdentity _ _ _ unreadable)
  | ecdhSessionKey =>
      cases opens_ecdhSessionKey opened
      exact bind_of_error (@decodeObject_of_error EcdhSessionKey _ _ _ unreadable)
  | initializeDevice | getPublicKey | pinMatrixAck | buttonAck | passphraseAck | signIdentity
  | getEcdhSessionKey => cases stage <;> cases opened

/-- A failure message that can be read ends the session. -/
theorem answerKind_failure {stage : Stage} {payload : Bytes}
    {record : MessageKind.failure.schema.Record}
    (readable : MessageKind.failure.schema.decode payload = .ok record) :
    ∃ text, stage.answerKind hash info .failure payload = .error (.deviceFailure text) := by
  rw [answerKind, @decodeObject_of_ok Failure _ _ _ readable]
  exact ⟨_, rfl⟩

/-- Any other message that is opened and can be read brings a move. -/
theorem exists_move_of_readable {stage : Stage} {kind : MessageKind}
    (opened : stage.opens kind) (other : kind ≠ .failure) {payload : Bytes}
    {record : kind.schema.Record}
    (readable : kind.schema.decode payload = .ok record) :
    ∃ move, stage.answerKind hash info kind payload = .ok move := by
  cases kind with
  | failure => exact absurd rfl other
  | buttonRequest =>
      rw [answerKind, @decodeObject_of_ok ButtonRequest _ _ _ readable]
      exact ⟨_, rfl⟩
  | pinMatrixRequest =>
      rw [answerKind, @decodeObject_of_ok PinMatrixRequest _ _ _ readable]
      exact ⟨_, rfl⟩
  | passphraseRequest =>
      rw [answerKind, @decodeObject_of_ok PassphraseRequest _ _ _ readable]
      exact ⟨_, rfl⟩
  | success =>
      rw [answerKind, @decodeObject_of_ok Success _ _ _ readable]
      exact ⟨_, rfl⟩
  | features =>
      rw [answerKind, @decodeObject_of_ok Features _ _ _ readable]
      exact ⟨_, rfl⟩
  | publicKey =>
      cases opens_publicKey opened
      rw [answerKind, if_neg (by decide), @decodeObject_of_ok PublicKey _ _ _ readable]
      by_cases empty : (WireObject.ofRecord record : PublicKey).node.publicKey = []
      · exact ⟨_, if_pos empty⟩
      · exact ⟨_, if_neg empty⟩
  | signedIdentity =>
      cases opens_signedIdentity opened
      rw [answerKind, if_neg (by decide), @decodeObject_of_ok SignedIdentity _ _ _ readable]
      exact ⟨_, rfl⟩
  | ecdhSessionKey =>
      cases opens_ecdhSessionKey opened
      rw [answerKind, if_neg (by decide), @decodeObject_of_ok EcdhSessionKey _ _ _ readable]
      exact ⟨_, rfl⟩
  | initializeDevice | getPublicKey | pinMatrixAck | buttonAck | passphraseAck | signIdentity
  | getEcdhSessionKey => cases stage <;> cases opened

/-- What is not opened is refused, whatever bytes it holds. -/
theorem answer_of_not_opens {stage : Stage} {message : RawMessage} (awaiting : stage.awaits)
    {kind : MessageKind} (known : MessageKind.ofId? message.id = some kind)
    (closed : stage.opens kind = false) :
    stage.answer hash mode info message =
      .error (if kind.isResult then .unexpectedMessage else .unsupportedMessage message.id) := by
  rw [answer_known awaiting known, ← MessageKind.id_of_ofId? known]
  cases stage with
  | handshake => cases awaiting
  | done => cases awaiting
  | awaitingPeerKey => cases kind <;> first | rfl | cases closed
  | awaitingSecret => cases kind <;> first | rfl | cases closed

/-! ## Moves -/

/-- The moves that a message brings in a stage. -/
inductive Brings (hash : HashFunction) (mode : Mode) (info : HostInfo) :
    Stage → RawMessage → Move → Prop
  /-- Whatever the reply to the start is, the request of the scheme follows. -/
  | greeting (message : RawMessage) :
      Brings hash mode info .handshake message (mode.firstMove hash info)
  /-- A notice, or a public key that holds nothing, is passed over. -/
  | notice {stage : Stage} (message : RawMessage) (awaiting : stage.awaits) :
      Brings hash mode info stage message .wait
  /-- A request to the user is answered. -/
  | request {stage : Stage} {message : RawMessage} {interaction : Interaction}
      (awaiting : stage.awaits) (asks : message.id = interaction.request.id) :
      Brings hash mode info stage message (.interact interaction)
  /-- The public key of the peer leads to the request for the session key. -/
  | peerKey {message : RawMessage} {key : PublicKey} (isKey : message.id = MessageKind.publicKey.id)
      (readable : decodeObject PublicKey message.payload = .ok key)
      (filled : key.node.publicKey ≠ []) :
      Brings hash mode info .awaitingPeerKey message
        (.advance (info.sessionKeyRequest key.node.publicKey) .awaitingSecret)
  /-- A signature is the secret of 64 bytes. -/
  | signature {message : RawMessage} {signed : SignedIdentity}
      (isSignature : message.id = MessageKind.signedIdentity.id)
      (readable : decodeObject SignedIdentity message.payload = .ok signed) :
      Brings hash mode info .awaitingSecret message (.finish ⟨signed.signature.bytes.drop 1⟩)
  /-- The digest of a shared point is the secret of 32 bytes. -/
  | sharedPoint {message : RawMessage} {session : EcdhSessionKey}
      (isPoint : message.id = MessageKind.ecdhSessionKey.id)
      (readable : decodeObject EcdhSessionKey message.payload = .ok session) :
      Brings hash mode info .awaitingSecret message
        (.finish ⟨(hash (session.sessionKey.bytes.drop 1)).bytes⟩)

/-- The answer for a message of a known kind brings nothing else. -/
theorem brings_of_answerKind {stage : Stage} (awaiting : stage.awaits) {message : RawMessage}
    {kind : MessageKind} (isKind : message.id = kind.id) {move : Move}
    (answered : stage.answerKind hash info kind message.payload = .ok move) :
    Brings hash mode info stage message move := by
  cases kind with
  | failure =>
      obtain ⟨_, _, ended⟩ := bind_eq_ok.mp answered
      cases ended
  | buttonRequest =>
      obtain ⟨_, _, made⟩ := bind_eq_ok.mp answered
      cases made
      exact .request awaiting isKind
  | pinMatrixRequest =>
      obtain ⟨_, _, made⟩ := bind_eq_ok.mp answered
      cases made
      exact .request awaiting isKind
  | passphraseRequest =>
      obtain ⟨_, _, made⟩ := bind_eq_ok.mp answered
      cases made
      exact .request awaiting isKind
  | success =>
      obtain ⟨_, _, made⟩ := bind_eq_ok.mp answered
      cases made
      exact .notice message awaiting
  | features =>
      obtain ⟨_, _, made⟩ := bind_eq_ok.mp answered
      cases made
      exact .notice message awaiting
  | publicKey =>
      cases stage with
      | handshake => cases awaiting
      | done => cases awaiting
      | awaitingSecret => cases answered
      | awaitingPeerKey =>
          obtain ⟨key, readable, made⟩ := bind_eq_ok.mp answered
          by_cases empty : key.node.publicKey = []
          · rw [if_pos empty] at made
            cases made
            exact .notice message awaiting
          · rw [if_neg empty] at made
            cases made
            exact .peerKey isKind readable empty
  | signedIdentity =>
      cases stage with
      | handshake => cases awaiting
      | done => cases awaiting
      | awaitingPeerKey => cases answered
      | awaitingSecret =>
          obtain ⟨signed, readable, made⟩ := bind_eq_ok.mp answered
          cases made
          exact .signature isKind readable
  | ecdhSessionKey =>
      cases stage with
      | handshake => cases awaiting
      | done => cases awaiting
      | awaitingPeerKey => cases answered
      | awaitingSecret =>
          obtain ⟨session, readable, made⟩ := bind_eq_ok.mp answered
          cases made
          exact .sharedPoint isKind readable
  | initializeDevice | getPublicKey | pinMatrixAck | buttonAck | passphraseAck | signIdentity
  | getEcdhSessionKey => cases answered

/-- A message brings no move but the listed ones. -/
theorem brings_of_answer {stage : Stage} {message : RawMessage} {move : Move}
    (answered : stage.answer hash mode info message = .ok move) :
    Brings hash mode info stage message move := by
  cases stage with
  | handshake =>
      cases answered
      exact .greeting message
  | done => cases answered
  | awaitingPeerKey | awaitingSecret =>
      cases known : MessageKind.ofId? message.id with
      | none =>
          rw [answer_unknown rfl known] at answered
          cases answered
      | some kind =>
          rw [answer_known rfl known] at answered
          exact brings_of_answerKind rfl (MessageKind.id_of_ofId? known).symm answered

/-- The user is asked only when a message asks for it. -/
theorem Brings.of_interact {stage : Stage} {message : RawMessage} {interaction : Interaction}
    (brings : Brings hash mode info stage message (.interact interaction)) :
    stage.awaits ∧ message.id = interaction.request.id := by
  generalize made : Move.interact interaction = move at brings
  cases brings with
  | greeting => cases mode <;> cases made
  | notice => cases made
  | request awaiting asks =>
      cases made
      exact ⟨awaiting, asks⟩
  | peerKey => cases made
  | signature => cases made
  | sharedPoint => cases made

/-- Every move leads to a stage that waits for an answer. -/
theorem awaits_target {stage : Stage} {message : RawMessage} {move : Move}
    (answered : stage.answer hash mode info message = .ok move) : (move.target stage).awaits := by
  cases brings_of_answer answered with
  | greeting => cases mode <;> rfl
  | notice _ awaiting => exact awaiting
  | request awaiting => exact awaiting
  | peerKey => rfl
  | signature => rfl
  | sharedPoint => rfl

end Stage
end SecurityKey
