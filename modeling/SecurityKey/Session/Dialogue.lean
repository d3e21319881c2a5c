import SecurityKey.Message.Catalogue
import SecurityKey.Message.KeyPath
import SecurityKey.Session.HostInfo
import SecurityKey.Session.Secret

/-!
# The dialogue with a device

What a session does next is a function of the stage that it is in and the message that
has arrived: `Stage.answer`.  It does not depend on how messages travel or where the
answers of the user come from, so the whole protocol is in this function.

A session starts with a handshake, whose reply decides nothing.  Then it asks for what
the derivation needs: in the legacy scheme a signature, in the modern scheme the public
key of a peer and then a session key.  In between the device may ask for a button, the PIN
or the passphrase at any time.
-/

set_option autoImplicit false

namespace SecurityKey

/-- How far a session is. -/
inductive Stage where
  /-- Nothing but the start has been sent. -/
  | handshake
  /-- The public key of the peer has been asked for. -/
  | awaitingPeerKey
  /-- The secret has been asked for. -/
  | awaitingSecret
  /-- The session is over. -/
  | done
  deriving DecidableEq, Repr

/-- The name of a stage. -/
def Stage.name : Stage → String
  | .handshake => "Handshake"
  | .awaitingPeerKey => "AwaitingPeerKey"
  | .awaitingSecret => "AwaitingSecret"
  | .done => "Done"

/-! ## Requests to the user -/

/-- What a device may ask of its user. -/
inductive Interaction where
  | button
  | pin
  | passphrase
  deriving DecidableEq, Repr

namespace Interaction

/-- The lines that are shown for a request; the digits of a PIN stand for places on the
screen of the device. -/
def notices : Interaction → List String
  | .button => ["Check device"]
  | .pin => ["  7 8 9", "  4 5 6", "  1 2 3"]
  | .passphrase => []

/-- The message that a secret is asked with, if a request needs one. -/
def question : Interaction → Option String
  | .button => none
  | .pin => some "Device PIN"
  | .passphrase => some "Device passphrase"

/-- The message that answers a request; `text` is what the user said. -/
def acknowledgement (text : String) : Interaction → Except Error RawMessage
  | .button => RawMessage.ofMessage ButtonAck.mk
  | .pin => RawMessage.ofMessage (PinMatrixAck.mk text)
  | .passphrase => RawMessage.ofMessage (PassphraseAck.mk text)

end Interaction

/-! ## Requests to the device -/

/-- The curve of the legacy scheme. -/
def legacyCurve : String := "ed25519"

/-- The curve of the modern scheme. -/
def modernCurve : String := "curve25519"

namespace HostInfo

/-- The start of a session. -/
def opening : Except Error RawMessage := RawMessage.ofMessage (Initialize.mk none)

/-- The request for a signature. -/
def signatureRequest (info : HostInfo) : Except Error RawMessage :=
  RawMessage.ofMessage (SignIdentity.mk info.identity info.challenge info.message legacyCurve)

/-- The request for the public key of the peer. -/
def peerKeyRequest (hash : HashFunction) (info : HostInfo) : Except Error RawMessage :=
  let path := KeyPath.ofDigest (hash (Bytes.ofText info.peerLocator))
  RawMessage.ofMessage (GetPublicKey.mk path (some modernCurve) none)

/-- The peer key that goes into a session key request: 33 bytes, the first of which says
how the others are written. -/
def peerKey (publicKey : Bytes) : FixedBytes 33 :=
  FixedBytes.ofBytes 33 (0x40 :: publicKey.drop 1)

/-- The request for a session key that is shared with the owner of a public key. -/
def sessionKeyRequest (info : HostInfo) (publicKey : Bytes) : Except Error RawMessage :=
  RawMessage.ofMessage (GetEcdhSessionKey.mk info.identity (peerKey publicKey) modernCurve)

end HostInfo

/-! ## What a message means -/

/-- What a session does about a message. -/
inductive Move where
  /-- Waits for the next message. -/
  | wait
  /-- Answers a request to the user. -/
  | interact (interaction : Interaction)
  /-- Sends a request and goes on to a stage. -/
  | advance (request : Except Error RawMessage) (stage : Stage)
  /-- Ends with a secret. -/
  | finish (secret : DerivedSecret)

/-- The request that follows the handshake, and the stage that it leads to. -/
def Mode.firstMove (hash : HashFunction) (info : HostInfo) : Mode → Move
  | .legacy => .advance info.signatureRequest .awaitingSecret
  | .modern => .advance (info.peerKeyRequest hash) .awaitingPeerKey

/-- The move for a message of a known kind, after the handshake. -/
def Stage.answerKind (hash : HashFunction) (info : HostInfo) (stage : Stage)
    (kind : MessageKind) (payload : Bytes) : Except Error Move := do
  match kind with
  | .failure =>
      let failure ← decodeObject Failure payload
      throw (.deviceFailure (failure.message.getD ""))
  | .buttonRequest =>
      let _ ← decodeObject ButtonRequest payload
      return .interact .button
  | .pinMatrixRequest =>
      let _ ← decodeObject PinMatrixRequest payload
      return .interact .pin
  | .passphraseRequest =>
      let _ ← decodeObject PassphraseRequest payload
      return .interact .passphrase
  | .success =>
      let _ ← decodeObject Success payload
      return .wait
  | .features =>
      let _ ← decodeObject Features payload
      return .wait
  | .publicKey =>
      if stage ≠ .awaitingPeerKey then
        throw .unexpectedMessage
      let key ← decodeObject PublicKey payload
      if key.node.publicKey = [] then
        return .wait
      return .advance (info.sessionKeyRequest key.node.publicKey) .awaitingSecret
  | .signedIdentity =>
      if stage ≠ .awaitingSecret then
        throw .unexpectedMessage
      let signed ← decodeObject SignedIdentity payload
      return .finish ⟨signed.signature.bytes.drop 1⟩
  | .ecdhSessionKey =>
      if stage ≠ .awaitingSecret then
        throw .unexpectedMessage
      let session ← decodeObject EcdhSessionKey payload
      return .finish ⟨(hash (session.sessionKey.bytes.drop 1)).bytes⟩
  | kind => throw (.unsupportedMessage kind.id)

/-- The move for a message. -/
def Stage.answer (hash : HashFunction) (mode : Mode) (info : HostInfo) (stage : Stage)
    (message : RawMessage) : Except Error Move :=
  match stage with
  | .handshake => .ok (mode.firstMove hash info)
  | .done => .error (.state .sessionFinished)
  | stage =>
      match MessageKind.ofId? message.id with
      | some kind => stage.answerKind hash info kind message.payload
      | none => .error (.unsupportedMessage message.id)

end SecurityKey
