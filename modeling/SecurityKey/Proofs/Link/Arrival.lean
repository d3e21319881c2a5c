import SecurityKey.Channel
import SecurityKey.Proofs.Report.Completion

/-!
# Messages that arrive

A link gives some reports when it can be read that often under a deadline and these are what
the reads bring (`Link.Gives`).  When a link gives reports that complete a message, the
channel over it receives that message and has read nothing else (`collect_of_completes`).

What a link will give is no business of a write.  A change of a link that no write takes
notice of goes through every send (`sendEncoded_of_unnoticed`).
-/

set_option autoImplicit false

namespace SecurityKey

/-- Reports that the reads of a link bring one after the other, and the link that is left. -/
inductive Link.Gives {σ : Type} [Link σ] (deadline : Deadline) : σ → List Report → σ → Prop where
  | nil (link : σ) : Link.Gives deadline link [] link
  | cons {link middle last : σ} {report : Report} {rest : List Report}
      (arrived : Link.read deadline link = .ok report middle)
      (others : Link.Gives deadline middle rest last) :
      Link.Gives deadline link (report :: rest) last

namespace Channel

variable {σ : Type}

/-- A channel that has read some reports and stands at a link. -/
def afterReports (count : Nat) (link : σ) (channel : Channel σ) : Channel σ :=
  { channel with link, metrics := Metrics.reportReceived^[count] channel.metrics }

variable [Link σ]

section Collect

variable {assembler next : Reassembler} {channel : Channel σ} {report : Report} {link : σ}

/-- Nothing is received when a read fails. -/
theorem collect_of_failed {halt : Halt}
    (failed : Link.read channel.readTimeout channel.link = .error halt link) :
    collect assembler channel = .error halt { channel with link } := by
  rw [collect, failed]

/-- After a report that does not complete its message the next one is read. -/
theorem collect_of_more
    (arrived : Link.read channel.readTimeout channel.link = .ok report link)
    (pushed : Reassembler.push report assembler = .ok none next) :
    collect assembler channel = collect next { channel with link }.countReport := by
  rw [collect, arrived]
  dsimp only
  rw [pushed]

/-- A report that completes a message is the last one. -/
theorem collect_of_message {message : RawMessage}
    (arrived : Link.read channel.readTimeout channel.link = .ok report link)
    (pushed : Reassembler.push report assembler = .ok (some message) next) :
    collect assembler channel =
      .ok message ({ channel with link }.countReport.countReceived message) := by
  rw [collect, arrived]
  dsimp only
  rw [pushed]

/-- So is a report that does not belong to the message. -/
theorem collect_of_fault {error : Error}
    (arrived : Link.read channel.readTimeout channel.link = .ok report link)
    (pushed : Reassembler.push report assembler = .error error next) :
    collect assembler channel =
      .error (.failed error) { channel with link }.countReport.countError := by
  rw [collect, arrived]
  dsimp only
  rw [pushed]

end Collect

/-- A message is received when reports arrive that complete it. -/
theorem collect_of_completes {assembler : Reassembler} {reports : List Report}
    {message : RawMessage} (completes : assembler.Completes reports message)
    {channel : Channel σ} {link : σ}
    (gives : Link.Gives channel.readTimeout channel.link reports link) :
    collect assembler channel =
      .ok message ((channel.afterReports reports.length link).countReceived message) := by
  induction completes generalizing channel with
  | last pushed =>
      cases gives with
      | cons arrived others =>
          cases others
          exact collect_of_message arrived pushed
  | more pushed _ hypothesis =>
      cases gives with
      | @cons _ middle _ _ _ arrived others =>
          rw [collect_of_more arrived pushed]
          exact @hypothesis { channel with link := middle }.countReport others

end Channel

/-! ## Changes that a write does not notice -/

/-- A result with another state. -/
def restate {ε σ τ α : Type} (change : σ → τ) :
    EStateM.Result ε σ α → EStateM.Result ε τ α
  | .ok value state => .ok value (change state)
  | .error error state => .error error (change state)

/-- A change of a link that comes through every write, whatever the write comes to. -/
def Link.Unnoticed {σ : Type} [Link σ] (change : σ → σ) : Prop :=
  ∀ (report : Report) (deadline : Deadline) (link : σ),
    Link.write report deadline (change link) = restate change (Link.write report deadline link)

namespace Channel

variable {σ : Type}

/-- A channel over a changed link. -/
def relink (change : σ → σ) (channel : Channel σ) : Channel σ :=
  { channel with link := change channel.link }

variable [Link σ] {change : σ → σ} (unnoticed : Link.Unnoticed change)
include unnoticed

theorem writeReports_of_unnoticed (reports : List Report) (channel : Channel σ) :
    writeReports reports (channel.relink change) =
      restate (relink change) (writeReports reports channel) := by
  induction reports generalizing channel with
  | nil => rfl
  | cons report rest hypothesis =>
      have wrote := unnoticed report (some channel.writeTimeout) channel.link
      rw [writeReports, writeReports, relink, wrote]
      cases Link.write report (some channel.writeTimeout) channel.link with
      | ok _ link => exact hypothesis { channel with link }
      | error halt link => rfl

/-- A send over the changed link is the send over the link itself, changed in the end. -/
theorem sendEncoded_of_unnoticed (request : Except Error RawMessage) (channel : Channel σ) :
    sendEncoded request (channel.relink change) =
      restate (relink change) (sendEncoded request channel) := by
  cases request with
  | error error => rfl
  | ok message =>
      rw [sendEncoded, sendEncoded, send, send]
      cases message.packetize with
      | error error => rfl
      | ok reports =>
          dsimp only
          rw [writeReports_of_unnoticed unnoticed]
          cases writeReports reports channel with
          | ok _ next => rfl
          | error halt next => rfl

end Channel
end SecurityKey
