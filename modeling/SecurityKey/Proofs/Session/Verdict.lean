import SecurityKey.Proofs.Session.Answers

/-!
# The verdict on what a device says

When everything that a device will ever say is known, what a run comes to is a function of
the messages and the answers of the user.  `walk` is this function: it takes the messages
one by one and keeps nothing but the stage and the answers that are left.

What a device says decides the run together with a rule for what can be sent: the rule of
the reports is `sendable`, and with `unlimited` nothing is too long.

The walk has a rule for each kind of message.  `walk_cons` says that the rules are those of
the session: one step of the walk makes the move that a session in the same stage makes.
-/

set_option autoImplicit false

namespace SecurityKey

/-! ## The walk -/

/-- A rule for the requests that can be sent. -/
abbrev SendRule : Type := Except Error RawMessage → Except Error Unit

/-- What fits into the reports of one message can be sent. -/
def sendable : SendRule := fun request => do
  let message ← request
  if message.payload.length ≤ Report.maximumPayload then
    return ()
  else
    throw (.oversizedPacket message.payload.length)

/-- Everything can be sent. -/
def unlimited : SendRule := fun _ => .ok ()

theorem sendable_ok (message : RawMessage) :
    sendable (.ok message) =
      if message.payload.length ≤ Report.maximumPayload then
        .ok ()
      else
        .error (.oversizedPacket message.payload.length) := rfl

namespace Interaction

/-- What the user says to a request, and the answers that are left. -/
def draw : Interaction → List String → Except Error (String × List String)
  | .button, answers => .ok ("", answers)
  | .pin, [] | .passphrase, [] => .error (.argument .inputClosed)
  | .pin, answer :: left | .passphrase, answer :: left => .ok (answer, left)

/-- The answers that are left when a request has been answered. -/
def reply (rule : SendRule) (interaction : Interaction) (answers : List String) :
    Except Error (List String) := do
  let (text, left) ← interaction.draw answers
  rule (interaction.acknowledgement text)
  return left

end Interaction

/-- What a run comes to that has sent its first request, has some answers left and finds
some messages. -/
def walk (rule : SendRule) (hash : HashFunction) (info : HostInfo) :
    Stage → List String → List RawMessage → Except Error DerivedSecret
  | _, _, [] => .error .connectionClosed
  | stage, answers, message :: rest =>
      match MessageKind.ofId? message.id with
      | some .success => do
          let _ ← decodeObject Success message.payload
          walk rule hash info stage answers rest
      | some .features => do
          let _ ← decodeObject Features message.payload
          walk rule hash info stage answers rest
      | some .buttonRequest => do
          let _ ← decodeObject ButtonRequest message.payload
          let left ← Interaction.button.reply rule answers
          walk rule hash info stage left rest
      | some .pinMatrixRequest => do
          let _ ← decodeObject PinMatrixRequest message.payload
          let left ← Interaction.pin.reply rule answers
          walk rule hash info stage left rest
      | some .passphraseRequest => do
          let _ ← decodeObject PassphraseRequest message.payload
          let left ← Interaction.passphrase.reply rule answers
          walk rule hash info stage left rest
      | some .publicKey =>
          if stage = .awaitingPeerKey then do
            let key ← decodeObject PublicKey message.payload
            if key.node.publicKey = [] then
              walk rule hash info stage answers rest
            else do
              rule (info.sessionKeyRequest key.node.publicKey)
              walk rule hash info .awaitingSecret answers rest
          else
            .error .unexpectedMessage
      | some .signedIdentity =>
          if stage = .awaitingSecret then do
            let signed ← decodeObject SignedIdentity message.payload
            return ⟨signed.signature.bytes.drop 1⟩
          else
            .error .unexpectedMessage
      | some .ecdhSessionKey =>
          if stage = .awaitingSecret then do
            let session ← decodeObject EcdhSessionKey message.payload
            return ⟨(hash (session.sessionKey.bytes.drop 1)).bytes⟩
          else
            .error .unexpectedMessage
      | some .failure => do
          let failure ← decodeObject Failure message.payload
          throw (.deviceFailure (failure.message.getD ""))
      | some _ | none => .error (.unsupportedMessage message.id)

/-- What a run comes to that finds some messages: the first one is the reply to the start
and decides nothing. -/
def verdict (rule : SendRule) (hash : HashFunction) (mode : Mode) (info : HostInfo)
    (answers : List String) : List RawMessage → Except Error DerivedSecret
  | [] => .error .connectionClosed
  | _ :: rest =>
      match mode with
      | .legacy => do
          rule info.signatureRequest
          walk rule hash info .awaitingSecret answers rest
      | .modern => do
          rule (info.peerKeyRequest hash)
          walk rule hash info .awaitingPeerKey answers rest

/-! ## The walk by moves -/

/-- How the walk goes on after a move. -/
def follow (rule : SendRule) (hash : HashFunction) (info : HostInfo) (stage : Stage)
    (answers : List String) (rest : List RawMessage) :
    Except Error Move → Except Error DerivedSecret
  | .error error => .error error
  | .ok .wait => walk rule hash info stage answers rest
  | .ok (.interact interaction) => do
      let left ← interaction.reply rule answers
      walk rule hash info stage left rest
  | .ok (.advance request next) => do
      rule request
      walk rule hash info next answers rest
  | .ok (.finish secret) => .ok secret

variable (rule : SendRule)

/-- The first step of a verdict is the first move of the scheme. -/
theorem verdict_cons (hash : HashFunction) (mode : Mode) (info : HostInfo)
    (answers : List String) (message : RawMessage) (rest : List RawMessage) :
    verdict rule hash mode info answers (message :: rest) =
      follow rule hash info .handshake answers rest
        (Stage.handshake.answer hash mode info message) := by
  cases mode with
  | legacy => rfl
  | modern => rfl

/-- What comes before a move comes before what follows it. -/
theorem follow_bind {α : Type} (hash : HashFunction) (info : HostInfo) (stage : Stage)
    (answers : List String) (rest : List RawMessage) (step : Except Error α)
    (move : α → Except Error Move) :
    follow rule hash info stage answers rest (step >>= move) =
      step >>= fun value => follow rule hash info stage answers rest (move value) := by
  cases step with
  | ok value => rfl
  | error error => rfl

/-- The walk makes the move that the session makes. -/
theorem walk_cons (hash : HashFunction) (mode : Mode) (info : HostInfo) {stage : Stage}
    (awaiting : stage.awaits) (answers : List String) (message : RawMessage)
    (rest : List RawMessage) :
    walk rule hash info stage answers (message :: rest) =
      follow rule hash info stage answers rest (stage.answer hash mode info message) := by
  cases known : MessageKind.ofId? message.id with
  | none =>
      rw [Stage.answer_unknown awaiting known, walk, known]
      rfl
  | some kind =>
      rw [Stage.answer_known awaiting known, walk, known]
      have isKind := MessageKind.id_of_ofId? known
      cases kind with
      | success | features | buttonRequest | pinMatrixRequest | passphraseRequest | failure =>
          rw [Stage.answerKind, follow_bind]
          rfl
      | publicKey =>
          simp only [Stage.answerKind]
          by_cases expected : stage = .awaitingPeerKey
          · rw [if_pos expected, if_neg (not_not_intro expected)]
            cases decodeObject PublicKey message.payload with
            | error error => rfl
            | ok key =>
                by_cases empty : key.node.publicKey = []
                · simp only [follow, bind, Except.bind, empty, if_true]
                  rfl
                · simp only [follow, bind, Except.bind, empty, if_false]
                  rfl
          · rw [if_neg expected, if_pos expected]
            rfl
      | signedIdentity =>
          simp only [Stage.answerKind]
          by_cases expected : stage = .awaitingSecret
          · rw [if_pos expected, if_neg (not_not_intro expected)]
            cases decodeObject SignedIdentity message.payload with
            | ok signed => rfl
            | error error => rfl
          · rw [if_neg expected, if_pos expected]
            rfl
      | ecdhSessionKey =>
          simp only [Stage.answerKind]
          by_cases expected : stage = .awaitingSecret
          · rw [if_pos expected, if_neg (not_not_intro expected)]
            cases decodeObject EcdhSessionKey message.payload with
            | ok session => rfl
            | error error => rfl
          · rw [if_neg expected, if_pos expected]
            rfl
      | initializeDevice | getPublicKey | pinMatrixAck | buttonAck | passphraseAck
      | signIdentity | getEcdhSessionKey =>
          rw [← isKind]
          rfl

end SecurityKey
