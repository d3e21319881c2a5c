import SecurityKey.Message.Kind
import SecurityKey.Report.Frame
import SecurityKey.Schema.Decode
import SecurityKey.Schema.Encode

/-!
# The message catalogue

Every message that is exchanged with a device, with its fields.  A message is a
structure with a `WireObject` instance, which gives its schema and its fields as a
record of that schema; encoding and decoding are those of the schema.  A message with
a number of its own is a `DeviceMessage`.

Only the fields that are read or written are listed.  Whatever else a device sends is
passed over.

Messages that hold secrets are shown without them: `describe`.
-/

set_option autoImplicit false

namespace SecurityKey

/-! ## Objects on the wire -/

/-- Objects that are encoded by a schema. -/
class WireObject (Object : Type) where
  /-- The fields of the object. -/
  schema : Schema
  /-- The object as a record of its fields. -/
  toRecord : Object → schema.Record
  /-- The object with given fields. -/
  ofRecord : schema.Record → Object

/-- The bytes of an object. -/
def encodeObject {Object : Type} [WireObject Object] (object : Object) : Except Error Bytes :=
  (WireObject.schema Object).encode (WireObject.toRecord object)

/-- The object that is encoded by the given bytes. -/
def decodeObject (Object : Type) [WireObject Object] (input : Bytes) : Except Error Object :=
  WireObject.ofRecord <$> (WireObject.schema Object).decode input

/-- Objects that are messages of a fixed kind. -/
class DeviceMessage (Message : Type) extends WireObject Message where
  /-- The kind of the message. -/
  kind : MessageKind

/-- A message as it travels, under the number of its kind. -/
def RawMessage.ofMessage {Message : Type} [DeviceMessage Message] (message : Message) :
    Except Error RawMessage := do
  let payload ← encodeObject message
  pure ⟨(DeviceMessage.kind Message).id, payload⟩

/-- A blob is shown by its size only. -/
def FixedBytes.describe {size : Nat} (_ : FixedBytes size) : String :=
  "FixedBytes<" ++ toString size ++ ">(..)"

/-! ## Both directions -/

/-- Who asks for a key. -/
structure Identity where
  protocol : String
  user : String
  host : String
  deriving DecidableEq, Repr

/-- The fields of an identity. -/
def Identity.schema : Schema :=
  .required 1 "protocol" .text <|
  .required 2 "user" .text <|
  .required 3 "host" .text .nil

instance : WireObject Identity where
  schema := Identity.schema
  toRecord identity := (identity.protocol, identity.user, identity.host, ())
  ofRecord := fun (protocol, user, host, ()) => ⟨protocol, user, host⟩

/-! ## What the host sends -/

/-- Starts a session; the device answers with its features. -/
structure Initialize where
  sessionId : Option Bytes

/-- The fields of the start of a session. -/
def Initialize.schema : Schema :=
  .optional 1 "session_id" (.optional .blob) .nil

instance : DeviceMessage Initialize where
  kind := .initializeDevice
  schema := Initialize.schema
  toRecord message := (message.sessionId, ())
  ofRecord := fun (sessionId, ()) => ⟨sessionId⟩

/-- Asks for the public key at a derivation path. -/
structure GetPublicKey where
  addressN : List UInt32
  curve : Option String
  showDisplay : Option Bool

/-- The fields of a public key request. -/
def GetPublicKey.schema : Schema :=
  .optional 1 "address_n" (.repeated .u32) <|
  .optional 2 "ecdsa_curve_name" (.optional .text) <|
  .optional 3 "show_display" (.optional .boolean) .nil

instance : DeviceMessage GetPublicKey where
  kind := .getPublicKey
  schema := GetPublicKey.schema
  toRecord message := (message.addressN, message.curve, message.showDisplay, ())
  ofRecord := fun (addressN, curve, showDisplay, ()) => ⟨addressN, curve, showDisplay⟩

/-- Asks for a signature of an identity. -/
structure SignIdentity where
  identity : Identity
  challengeHidden : String
  challengeVisual : String
  curve : String

/-- The fields of a signature request. -/
def SignIdentity.schema : Schema :=
  .required 1 "identity" (.object Identity.schema) <|
  .required 2 "challenge_hidden" .text <|
  .required 3 "challenge_visual" .text <|
  .required 4 "ecdsa_curve_name" .text .nil

instance : DeviceMessage SignIdentity where
  kind := .signIdentity
  schema := SignIdentity.schema
  toRecord message :=
    (WireObject.toRecord message.identity, message.challengeHidden, message.challengeVisual,
      message.curve, ())
  ofRecord := fun (identity, hidden, visual, curve, ()) =>
    ⟨WireObject.ofRecord identity, hidden, visual, curve⟩

/-- Asks for a session key that is shared with the owner of a peer key. -/
structure GetEcdhSessionKey where
  identity : Identity
  peerPublicKey : FixedBytes 33
  curve : String

/-- The fields of a session key request. -/
def GetEcdhSessionKey.schema : Schema :=
  .required 1 "identity" (.object Identity.schema) <|
  .required 2 "peer_public_key" (.fixed 33) <|
  .optional 3 "ecdsa_curve_name" .text .nil

instance : DeviceMessage GetEcdhSessionKey where
  kind := .getEcdhSessionKey
  schema := GetEcdhSessionKey.schema
  toRecord message :=
    (WireObject.toRecord message.identity, message.peerPublicKey, message.curve, ())
  ofRecord := fun (identity, peerPublicKey, curve, ()) =>
    ⟨WireObject.ofRecord identity, peerPublicKey, curve⟩

/-- Answers a request to press a button. -/
structure ButtonAck where

/-- The fields of a button answer. -/
def ButtonAck.schema : Schema := .nil

instance : DeviceMessage ButtonAck where
  kind := .buttonAck
  schema := ButtonAck.schema
  toRecord _ := ()
  ofRecord _ := {}

/-- Answers a request for the device PIN. -/
structure PinMatrixAck where
  pin : String

/-- The fields of a PIN answer. -/
def PinMatrixAck.schema : Schema := .required 1 "pin" .text .nil

instance : DeviceMessage PinMatrixAck where
  kind := .pinMatrixAck
  schema := PinMatrixAck.schema
  toRecord message := (message.pin, ())
  ofRecord := fun (pin, ()) => ⟨pin⟩

/-- A PIN is never shown. -/
def PinMatrixAck.describe (_ : PinMatrixAck) : String := "PinMatrixAck \x7b .. \x7d"

/-- Answers a request for the device passphrase. -/
structure PassphraseAck where
  passphrase : String

/-- The fields of a passphrase answer. -/
def PassphraseAck.schema : Schema := .required 1 "passphrase" .text .nil

instance : DeviceMessage PassphraseAck where
  kind := .passphraseAck
  schema := PassphraseAck.schema
  toRecord message := (message.passphrase, ())
  ofRecord := fun (passphrase, ()) => ⟨passphrase⟩

/-- A passphrase is never shown. -/
def PassphraseAck.describe (_ : PassphraseAck) : String := "PassphraseAck \x7b .. \x7d"

/-! ## What the device sends -/

/-- Reports success. -/
structure Success where
  message : Option String

/-- The fields of a success report. -/
def Success.schema : Schema := .optional 1 "message" (.optional .text) .nil

instance : DeviceMessage Success where
  kind := .success
  schema := Success.schema
  toRecord message := (message.message, ())
  ofRecord := fun (message, ()) => ⟨message⟩

/-- Reports a failure. -/
structure Failure where
  code : Option failureType.Member
  message : Option String

/-- The fields of a failure report. -/
def Failure.schema : Schema :=
  .optional 1 "code" (.optional (.enumeration failureType)) <|
  .optional 2 "message" (.optional .text) .nil

instance : DeviceMessage Failure where
  kind := .failure
  schema := Failure.schema
  toRecord message := (message.code, message.message, ())
  ofRecord := fun (code, message, ()) => ⟨code, message⟩

/-- What a device is and can do. -/
structure Features where
  vendor : Option String
  majorVersion : Option UInt32
  minorVersion : Option UInt32
  patchVersion : Option UInt32
  deviceId : Option String
  pinProtection : Option Bool
  passphraseProtection : Option Bool
  label : Option String
  initialized : Option Bool
  model : Option String

/-- The fields of a feature report. -/
def Features.schema : Schema :=
  .optional 1 "vendor" (.optional .text) <|
  .optional 2 "major_version" (.optional .u32) <|
  .optional 3 "minor_version" (.optional .u32) <|
  .optional 4 "patch_version" (.optional .u32) <|
  .optional 6 "device_id" (.optional .text) <|
  .optional 7 "pin_protection" (.optional .boolean) <|
  .optional 8 "passphrase_protection" (.optional .boolean) <|
  .optional 10 "label" (.optional .text) <|
  .optional 12 "initialized" (.optional .boolean) <|
  .optional 21 "model" (.optional .text) .nil

instance : DeviceMessage Features where
  kind := .features
  schema := Features.schema
  toRecord message :=
    (message.vendor, message.majorVersion, message.minorVersion, message.patchVersion,
      message.deviceId, message.pinProtection, message.passphraseProtection, message.label,
      message.initialized, message.model, ())
  ofRecord := fun
    (vendor, majorVersion, minorVersion, patchVersion, deviceId, pinProtection,
      passphraseProtection, label, initialized, model, ()) =>
    ⟨vendor, majorVersion, minorVersion, patchVersion, deviceId, pinProtection,
      passphraseProtection, label, initialized, model⟩

/-- Asks for the device PIN. -/
structure PinMatrixRequest where

/-- The fields of a PIN request. -/
def PinMatrixRequest.schema : Schema := .nil

instance : DeviceMessage PinMatrixRequest where
  kind := .pinMatrixRequest
  schema := PinMatrixRequest.schema
  toRecord _ := ()
  ofRecord _ := {}

/-- Asks for a press of a button. -/
structure ButtonRequest where
  code : Option buttonRequestType.Member

/-- The fields of a button request. -/
def ButtonRequest.schema : Schema :=
  .optional 1 "code" (.optional (.enumeration buttonRequestType)) .nil

instance : DeviceMessage ButtonRequest where
  kind := .buttonRequest
  schema := ButtonRequest.schema
  toRecord message := (message.code, ())
  ofRecord := fun (code, ()) => ⟨code⟩

/-- Asks for the device passphrase. -/
structure PassphraseRequest where

/-- The fields of a passphrase request. -/
def PassphraseRequest.schema : Schema := .nil

instance : DeviceMessage PassphraseRequest where
  kind := .passphraseRequest
  schema := PassphraseRequest.schema
  toRecord _ := ()
  ofRecord _ := {}

/-- A node of the key hierarchy. -/
structure HdNode where
  depth : UInt32
  fingerprint : UInt32
  childNum : UInt32
  chainCode : Bytes
  privateKey : Option Bytes
  publicKey : Bytes

/-- The fields of a node. -/
def HdNode.schema : Schema :=
  .required 1 "depth" .u32 <|
  .required 2 "fingerprint" .u32 <|
  .required 3 "child_num" .u32 <|
  .required 4 "chain_code" .blob <|
  .optional 5 "private_key" (.optional .blob) <|
  .required 6 "public_key" .blob .nil

instance : WireObject HdNode where
  schema := HdNode.schema
  toRecord node :=
    (node.depth, node.fingerprint, node.childNum, node.chainCode, node.privateKey,
      node.publicKey, ())
  ofRecord := fun (depth, fingerprint, childNum, chainCode, privateKey, publicKey, ()) =>
    ⟨depth, fingerprint, childNum, chainCode, privateKey, publicKey⟩

/-- A node is shown without its keys. -/
def HdNode.describe (node : HdNode) : String :=
  "HdNode \x7b depth: " ++ toString node.depth.toNat ++
    ", fingerprint: " ++ toString node.fingerprint.toNat ++
    ", child_num: " ++ toString node.childNum.toNat ++
    ", public_key_len: " ++ toString node.publicKey.length ++ ", .. \x7d"

/-- Gives the public key at a derivation path. -/
structure PublicKey where
  node : HdNode
  xpub : Option String

/-- The fields of a public key. -/
def PublicKey.schema : Schema :=
  .required 1 "node" (.object HdNode.schema) <|
  .optional 2 "xpub" (.optional .text) .nil

instance : DeviceMessage PublicKey where
  kind := .publicKey
  schema := PublicKey.schema
  toRecord message := (WireObject.toRecord message.node, message.xpub, ())
  ofRecord := fun (node, xpub, ()) => ⟨WireObject.ofRecord node, xpub⟩

/-- Gives the signature of an identity, after one byte of filling. -/
structure SignedIdentity where
  address : Option String
  publicKey : Option Bytes
  signature : FixedBytes 65

/-- The fields of a signed identity. -/
def SignedIdentity.schema : Schema :=
  .optional 1 "address" (.optional .text) <|
  .optional 2 "public_key" (.optional .blob) <|
  .required 3 "signature" (.fixed 65) .nil

instance : DeviceMessage SignedIdentity where
  kind := .signedIdentity
  schema := SignedIdentity.schema
  toRecord message := (message.address, message.publicKey, message.signature, ())
  ofRecord := fun (address, publicKey, signature, ()) => ⟨address, publicKey, signature⟩

/-- Gives a shared point, after one byte that says how it is written. -/
structure EcdhSessionKey where
  sessionKey : FixedBytes 33
  publicKey : Option Bytes

/-- The fields of a session key. -/
def EcdhSessionKey.schema : Schema :=
  .required 1 "session_key" (.fixed 33) <|
  .optional 2 "public_key" (.optional .blob) .nil

instance : DeviceMessage EcdhSessionKey where
  kind := .ecdhSessionKey
  schema := EcdhSessionKey.schema
  toRecord message := (message.sessionKey, message.publicKey, ())
  ofRecord := fun (sessionKey, publicKey, ()) => ⟨sessionKey, publicKey⟩

/-! ## Schemas by kind -/

/-- The fields of the messages of a kind. -/
def MessageKind.schema : MessageKind → Schema
  | .initializeDevice => Initialize.schema
  | .success => Success.schema
  | .failure => Failure.schema
  | .getPublicKey => GetPublicKey.schema
  | .publicKey => PublicKey.schema
  | .features => Features.schema
  | .pinMatrixRequest => PinMatrixRequest.schema
  | .pinMatrixAck => PinMatrixAck.schema
  | .buttonRequest => ButtonRequest.schema
  | .buttonAck => ButtonAck.schema
  | .passphraseRequest => PassphraseRequest.schema
  | .passphraseAck => PassphraseAck.schema
  | .signIdentity => SignIdentity.schema
  | .signedIdentity => SignedIdentity.schema
  | .getEcdhSessionKey => GetEcdhSessionKey.schema
  | .ecdhSessionKey => EcdhSessionKey.schema

end SecurityKey
