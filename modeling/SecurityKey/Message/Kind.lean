import SecurityKey.Schema.Shape

/-!
# Message kinds and enumerations

Every message has a number, which the report header carries, and a name.  A number
that belongs to no kind is not known: `MessageKind.ofId?_id` and
`MessageKind.id_of_ofId?` say that `MessageKind.ofId?` accepts exactly the numbers of
the kinds.

Two enumerations travel inside messages: why a device failed, and what a device asks
its user to confirm.
-/

set_option autoImplicit false

namespace SecurityKey

/-! ## Kinds -/

/-- The kinds of messages that the host and the device exchange. -/
inductive MessageKind where
  | initializeDevice
  | success
  | failure
  | getPublicKey
  | publicKey
  | features
  | pinMatrixRequest
  | pinMatrixAck
  | buttonRequest
  | buttonAck
  | passphraseRequest
  | passphraseAck
  | signIdentity
  | signedIdentity
  | getEcdhSessionKey
  | ecdhSessionKey
  deriving DecidableEq, Repr

namespace MessageKind

/-- The number of a kind in a report header. -/
def id : MessageKind → UInt16
  | .initializeDevice => 0
  | .success => 2
  | .failure => 3
  | .getPublicKey => 11
  | .publicKey => 12
  | .features => 17
  | .pinMatrixRequest => 18
  | .pinMatrixAck => 19
  | .buttonRequest => 26
  | .buttonAck => 27
  | .passphraseRequest => 41
  | .passphraseAck => 42
  | .signIdentity => 53
  | .signedIdentity => 54
  | .getEcdhSessionKey => 61
  | .ecdhSessionKey => 62

/-- The name of a kind. -/
def name : MessageKind → String
  | .initializeDevice => "Initialize"
  | .success => "Success"
  | .failure => "Failure"
  | .getPublicKey => "GetPublicKey"
  | .publicKey => "PublicKey"
  | .features => "Features"
  | .pinMatrixRequest => "PinMatrixRequest"
  | .pinMatrixAck => "PinMatrixAck"
  | .buttonRequest => "ButtonRequest"
  | .buttonAck => "ButtonAck"
  | .passphraseRequest => "PassphraseRequest"
  | .passphraseAck => "PassphraseAck"
  | .signIdentity => "SignIdentity"
  | .signedIdentity => "SignedIdentity"
  | .getEcdhSessionKey => "GetEcdhSessionKey"
  | .ecdhSessionKey => "EcdhSessionKey"

/-- All kinds, in the order of their numbers. -/
def all : List MessageKind :=
  [.initializeDevice, .success, .failure, .getPublicKey, .publicKey, .features,
    .pinMatrixRequest, .pinMatrixAck, .buttonRequest, .buttonAck, .passphraseRequest,
    .passphraseAck, .signIdentity, .signedIdentity, .getEcdhSessionKey, .ecdhSessionKey]

/-- The kind with a given number. -/
def ofId? (id : UInt16) : Option MessageKind := all.find? fun kind => kind.id == id

theorem ofId?_id (kind : MessageKind) : ofId? kind.id = some kind := by
  cases kind <;> rfl

theorem id_of_ofId? {id : UInt16} {kind : MessageKind} (found : ofId? id = some kind) :
    kind.id = id := by
  simpa using List.find?_some found

end MessageKind

/-! ## Enumerations -/

/-- Why a device failed. -/
def failureType : Enumeration where
  members := [
    (1, "UnexpectedMessage"), (2, "ButtonExpected"), (3, "DataError"), (4, "ActionCancelled"),
    (5, "PinExpected"), (6, "PinCancelled"), (7, "PinInvalid"), (8, "InvalidSignature"),
    (9, "ProcessError"), (10, "NotEnoughFunds"), (11, "NotInitialized"), (12, "PinMismatch"),
    (13, "WipeCodeMismatch"), (14, "InvalidSession"), (99, "FirmwareError")]

/-- What a device asks its user to confirm. -/
def buttonRequestType : Enumeration where
  members := [
    (1, "Other"), (2, "FeeOverThreshold"), (3, "ConfirmOutput"), (4, "ResetDevice"),
    (5, "ConfirmWord"), (6, "WipeDevice"), (7, "ProtectCall"), (8, "SignTx"),
    (9, "FirmwareCheck"), (10, "Address"), (11, "PublicKey"), (12, "MnemonicWordCount"),
    (13, "MnemonicInput"), (14, "Deprecated"), (15, "UnknownDerivationPath"),
    (16, "RecoveryHomepage"), (17, "Success"), (18, "Warning"), (19, "PassphraseEntry"),
    (20, "PinEntry")]

end SecurityKey
