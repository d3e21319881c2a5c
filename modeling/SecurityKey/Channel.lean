import SecurityKey.Link.Basic
import SecurityKey.Message.Catalogue
import SecurityKey.Metrics
import SecurityKey.Report.Reassembler

/-!
# Whole messages over a link

A channel sends a message report by report under its write deadline; the first write
that fails ends the send.  It receives a message by reading reports until they make up
one.  Messages, reports and bytes are counted: a send counts when all of it was written,
a receive counts every report that was read.

Receiving ends on every link, because each report brings more of the message.  On a finite
link `supply_receive` and `supply_send` say what a call leaves of the supply.
-/

set_option autoImplicit false

namespace SecurityKey

/-- The write deadline of a channel when none is set, in milliseconds. -/
def defaultWriteTimeout : Nat := 1000

/-- A link that carries whole messages. -/
structure Channel (σ : Type) where
  link : σ
  /-- How long the write of one report may take, in milliseconds. -/
  writeTimeout : Nat
  /-- How long the read of one report may take. -/
  readTimeout : Deadline
  metrics : Metrics

namespace Channel

variable {σ : Type}

/-- A channel that has carried nothing yet. -/
def ofLink (link : σ) (writeTimeout : Nat) (readTimeout : Deadline) : Channel σ :=
  ⟨link, writeTimeout, readTimeout, .zero⟩

/-! ## Sending -/

/-- Writes reports one after the other. -/
def writeReports [Link σ] : List Report → EStateM Halt (Channel σ) Unit
  | [], channel => .ok () channel
  | report :: rest, channel =>
      match Link.write report (some channel.writeTimeout) channel.link with
      | .ok () link => writeReports rest { channel with link }
      | .error halt link => .error halt { channel with link }

/-- Counts a message that was sent. -/
def countSent (message : RawMessage) (channel : Channel σ) : Channel σ :=
  let length := message.payload.length
  { channel with
    metrics := channel.metrics.messageSent (UInt64.ofNat length)
      (UInt64.ofNat (Report.count length)) }

/-- Sends a message. -/
def send [Link σ] (message : RawMessage) : EStateM Halt (Channel σ) Unit := fun channel =>
  match message.packetize with
  | .error error => .error (.failed error) channel
  | .ok reports =>
      match writeReports reports channel with
      | .ok () channel => .ok () (channel.countSent message)
      | .error halt channel => .error halt channel

/-- Sends a message that may have no encoding. -/
def sendEncoded [Link σ] (encoded : Except Error RawMessage) : EStateM Halt (Channel σ) Unit :=
  fun channel =>
    match encoded with
    | .ok message => send message channel
    | .error error => .error (.failed error) channel

/-! ## Receiving -/

/-- Counts a report that was read. -/
def countReport (channel : Channel σ) : Channel σ :=
  { channel with metrics := channel.metrics.reportReceived }

/-- Counts a message that was put together. -/
def countReceived (message : RawMessage) (channel : Channel σ) : Channel σ :=
  { channel with
    metrics := channel.metrics.messageReceived (UInt64.ofNat message.payload.length) }

/-- Counts an error of the device. -/
def countError (channel : Channel σ) : Channel σ :=
  { channel with metrics := channel.metrics.protocolError }

/-- Counts a request that the user has answered. -/
def countInteraction (channel : Channel σ) : Channel σ :=
  { channel with metrics := channel.metrics.interaction }

/-- Reads reports until a message is complete. -/
def collect [Link σ] (assembler : Reassembler) (channel : Channel σ) :
    EStateM.Result Halt (Channel σ) RawMessage :=
  match Link.read channel.readTimeout channel.link with
  | .error halt link => .error halt { channel with link }
  | .ok report link =>
      let channel := { channel with link }.countReport
      match _pushed : Reassembler.push report assembler with
      | .ok none assembler => collect assembler channel
      | .ok (some message) _ => .ok message (channel.countReceived message)
      | .error error _ => .error (.failed error) channel.countError
termination_by assembler.missing
decreasing_by exact Reassembler.missing_push _pushed

/-- Receives a message. -/
def receive [Link σ] : EStateM Halt (Channel σ) RawMessage := collect .idle

/-- Sends a message and receives the next one. -/
def request [Link σ] (encoded : Except Error RawMessage) :
    EStateM Halt (Channel σ) RawMessage := do
  sendEncoded encoded
  receive

/-! ## What is left of the supply -/

/-- The supply of the link of a channel. -/
def supply [FiniteLink σ] (channel : Channel σ) : Nat := FiniteLink.supply channel.link

theorem supply_writeReports [FiniteLink σ] (reports : List Report) {channel next : Channel σ}
    (run : writeReports reports channel = .ok () next) : next.supply ≤ channel.supply := by
  induction reports generalizing channel with
  | nil =>
      cases run
      exact Nat.le_refl _
  | cons report rest hypothesis =>
      simp only [writeReports] at run
      split at run
      · rename_i link wrote
        exact Nat.le_trans (hypothesis run) (FiniteLink.supply_write wrote)
      · cases run

/-- A send leaves no larger supply. -/
theorem supply_send [FiniteLink σ] {message : RawMessage} {channel next : Channel σ}
    (run : send message channel = .ok () next) : next.supply ≤ channel.supply := by
  simp only [send] at run
  split at run
  · cases run
  · split at run
    · rename_i wrote
      cases run
      have left := supply_writeReports _ wrote
      exact left
    · cases run

theorem supply_sendEncoded [FiniteLink σ] {encoded : Except Error RawMessage}
    {channel next : Channel σ} (run : sendEncoded encoded channel = .ok () next) :
    next.supply ≤ channel.supply := by
  simp only [sendEncoded] at run
  split at run
  · exact supply_send run
  · cases run

/-- A receive leaves a smaller supply. -/
theorem supply_collect [FiniteLink σ] {assembler : Reassembler} {channel next : Channel σ}
    {message : RawMessage} (run : collect assembler channel = .ok message next) :
    next.supply < channel.supply := by
  fun_induction collect assembler channel with
  | case1 => cases run
  | case2 assembler channel report link arrived counted following _ hypothesis =>
      exact Nat.lt_trans (hypothesis run) (FiniteLink.supply_read arrived)
  | case3 assembler channel report link arrived counted received _ =>
      cases run
      exact FiniteLink.supply_read arrived
  | case4 => cases run

theorem supply_receive [FiniteLink σ] {channel next : Channel σ} {message : RawMessage}
    (run : receive channel = .ok message next) : next.supply < channel.supply :=
  supply_collect run

end Channel

end SecurityKey
