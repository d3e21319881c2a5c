import SecurityKey.Log.Record
import SecurityKey.Metrics
import SecurityKey.Session.Dialogue
import SecurityKey.Text.Quoted

/-!
# Records of a session

What a session tells the log: the messages that it sends and receives, what it makes of
them, and at the end what the traffic was.  `Stage.records` says what is worth a record
about a message; the session does not depend on it.

The records of a session are made inside the span of the session, which is left to the one
who runs it (`Mode.span`).
-/

set_option autoImplicit false

namespace SecurityKey

open Log

/-! ## Parts of the program -/

/-- The part that talks with a device. -/
def engineTarget : String := "macer::protocol::engine"

/-- The part that carries messages. -/
def channelTarget : String := "macer::transport::channel"

/-- The part that reads and writes reports. -/
def streamTarget : String := "macer::transport::stream"

/-- The part that counts and measures. -/
def metricsTarget : String := "macer::utils::metrics"

/-! ## Values -/

/-- A field whose text is written as it is. -/
def textField (name text : String) : Field := ⟨name, .text text⟩

/-- A field with a number. -/
def numberField (name : String) (number : Nat) : Field := ⟨name, .number number⟩

/-- A value that may be missing. -/
def optionText (text : Option String) : String :=
  text.elim "None" fun text => "Some(" ++ text ++ ")"

/-! ## Traffic -/

/-- The span of a session. -/
def Mode.span (info : HostInfo) (mode : Mode) : Span where
  level := .info
  target := engineTarget
  name := "run"
  fields := [textField "mode" mode.name, textField "user" info.user, textField "host" info.host]

/-- The record of a message that is about to be sent under a deadline. -/
def RawMessage.sendingRecord (writeTimeout : Nat) (message : RawMessage) : Record where
  scope := [{
    level := .debug
    target := channelTarget
    name := "send_raw"
    fields := [numberField "id" message.id.toNat, numberField "len" message.payload.length] }]
  level := .debug
  target := channelTarget
  sentence := "Sending message"
  fields := [
    numberField "reports" (Report.count message.payload.length),
    textField "timeout_ms" (toString writeTimeout)]
  said := none

/-- The records of a request that is about to be sent: one, if it can be. -/
def sendingRecords (writeTimeout : Nat) (request : Except Error RawMessage) : List Record :=
  match request.bind fun message => message.packetize.map fun _ => message with
  | .ok message => [message.sendingRecord writeTimeout]
  | .error _ => []

/-- The record of a message that has arrived. -/
def RawMessage.receivedRecord (message : RawMessage) : Record where
  scope := [⟨.debug, channelTarget, "receive_raw", []⟩]
  level := .debug
  target := channelTarget
  sentence := "Received message"
  fields := [numberField "id" message.id.toNat, numberField "len" message.payload.length]
  said := none

/-! ## Messages -/

/-- A record of what a session makes of a message. -/
def engineRecord (level : Level) (sentence : String) (fields : List Field)
    (said : Option String) : Record :=
  ⟨[], level, engineTarget, sentence, fields, said⟩

/-- What a device says about itself. -/
def Features.fields (features : Features) : List Field :=
  let version := [features.majorVersion, features.minorVersion, features.patchVersion].map
    fun number => toString (number.getD 0).toNat
  [⟨"vendor", .quoted (features.vendor.getD "unknown")⟩,
    ⟨"model", .quoted (features.model.getD "unknown")⟩,
    textField "version" (".".intercalate version),
    ⟨"initialized", .flag (features.initialized.getD false)⟩]

/-- The record of the reply to the handshake. -/
def RawMessage.handshakeRecord (message : RawMessage) : Record :=
  match MessageKind.ofId? message.id with
  | some .features =>
      match decodeObject Features message.payload with
      | .ok features => engineRecord .info "Device connected" features.fields none
      | .error error =>
          engineRecord .warn "Unreadable feature report" [textField "error" error.message] none
  | some .failure =>
      let text := match decodeObject Failure message.payload with
        | .ok failure => failure.message.getD ""
        | .error _ => ""
      engineRecord .warn "Device reported failure on initialize, continuing" [] (some text)
  | _ => engineRecord .debug "Ignoring initialize reply" [numberField "id" message.id.toNat] none

/-- The records of what a message of a known kind holds. -/
def RawMessage.contentRecords (kind : MessageKind) (stage : Stage) (message : RawMessage) :
    Except Error (List Record) := do
  match kind with
  | .failure =>
      let failure ← decodeObject Failure message.payload
      let code := optionText (failure.code.map Enumeration.Member.name)
      return [engineRecord .warn "Device failure" [textField "code" code]
        (some (failure.message.getD ""))]
  | .buttonRequest =>
      let request ← decodeObject ButtonRequest message.payload
      let code := optionText (request.code.map Enumeration.Member.name)
      return [engineRecord .debug "Button confirmation requested" [textField "code" code] none]
  | .success =>
      let success ← decodeObject Success message.payload
      return [engineRecord .debug "Device success" []
        (some (optionText (success.message.map Quoted.legible)))]
  | .publicKey =>
      if stage ≠ .awaitingPeerKey then
        return []
      let key ← decodeObject PublicKey message.payload
      if key.node.publicKey = [] then
        return [engineRecord .debug "Empty peer key, waiting for the next reply" [] none]
      return []
  | _ => return []

/-- What is worth a record about a message: the reply to the handshake, and later the kind of
the message and what it holds if it can be read. -/
def Stage.records (stage : Stage) (message : RawMessage) : List Record :=
  match stage, MessageKind.ofId? message.id with
  | .handshake, _ => [message.handshakeRecord]
  | .done, _ | _, none => []
  | stage, some kind =>
      engineRecord .debug "Dispatching device message"
          [textField "kind" kind.name, textField "state" stage.name] none ::
        match message.contentRecords kind stage with
        | .ok records => records
        | .error _ => []

/-! ## The end -/

/-- The record of a secret that a device has derived. -/
def DerivedSecret.record (secret : DerivedSecret) : Record :=
  engineRecord .info "Device secret derived" [numberField "len" secret.bytes.length] none

/-- The record of the traffic of a session that took some milliseconds. -/
def Metrics.record (elapsed : Nat) (metrics : Metrics) : Record where
  scope := []
  level := .info
  target := metricsTarget
  sentence := "Device session metrics"
  fields := [
    numberField "messages_sent" metrics.messagesSent.toNat,
    numberField "messages_received" metrics.messagesReceived.toNat,
    numberField "reports_sent" metrics.reportsSent.toNat,
    numberField "reports_received" metrics.reportsReceived.toNat,
    numberField "bytes_sent" metrics.bytesSent.toNat,
    numberField "bytes_received" metrics.bytesReceived.toNat,
    numberField "interactions" metrics.interactions.toNat,
    numberField "protocol_errors" metrics.protocolErrors.toNat,
    numberField "elapsed_ms" elapsed]
  said := none

end SecurityKey
