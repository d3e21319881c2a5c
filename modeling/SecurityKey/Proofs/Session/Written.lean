import SecurityKey.Proofs.Session.Parts

/-!
# What is written is what was handed over

The reports that a session writes are those of the messages that it hands to its channel,
one message after the other and nothing else.  When something fails, they are a beginning of
these reports (`lawful_delivers`).
-/

set_option autoImplicit false

namespace SecurityKey

/-- The reports of a message; one that does not fit a header has none. -/
def RawMessage.reports (message : RawMessage) : List Report :=
  match message.packetize with
  | .ok reports => reports
  | .error _ => []

/-- The reports that are written, in order, the one that fails included. -/
def writtenReports (events : List Event) : List Report :=
  events.filterMap fun
    | .wrote report _ => some report
    | _ => none

/-- The messages that are handed to the channel, in order. -/
def handedMessages (events : List Event) : List RawMessage :=
  events.filterMap fun
    | .handed message => some message
    | _ => none

theorem writtenReports_append (first second : List Event) :
    writtenReports (first ++ second) = writtenReports first ++ writtenReports second :=
  List.filterMap_append

theorem handedMessages_append (first second : List Event) :
    handedMessages (first ++ second) = handedMessages first ++ handedMessages second :=
  List.filterMap_append

/-- The reports that are written are those of the messages that are handed over, all of them
if nothing fails. -/
structure Delivers (events : List Event) (stop : Option Halt) : Prop where
  beginning : writtenReports events <+: (handedMessages events).flatMap RawMessage.reports
  all : stop = none →
    writtenReports events = (handedMessages events).flatMap RawMessage.reports

namespace Delivers

/-- Nothing is handed over and nothing is written. -/
theorem silent {events : List Event} (stop : Option Halt) (unwritten : writtenReports events = [])
    (unhanded : handedMessages events = []) : Delivers events stop := by
  have same : writtenReports events = (handedMessages events).flatMap RawMessage.reports := by
    rw [unwritten, unhanded, List.flatMap_nil]
  exact ⟨same ▸ List.prefix_rfl, fun _ => same⟩

theorem append {first second : List Event} {stop : Option Halt} (earlier : Delivers first none)
    (later : Delivers second stop) : Delivers (first ++ second) stop := by
  have whole := earlier.all rfl
  constructor
  · rw [writtenReports_append, handedMessages_append, List.flatMap_append, whole]
    exact (List.prefix_append_right_inj _).mpr later.beginning
  · intro complete
    rw [writtenReports_append, handedMessages_append, List.flatMap_append, whole,
      later.all complete]

end Delivers

namespace Channel

variable {σ : Type} [Link σ]

theorem handedMessages_writeEvents (reports : List Report) (channel : Channel σ) :
    handedMessages (writeEvents reports channel) = [] := by
  induction reports generalizing channel with
  | nil => rfl
  | cons report rest hypothesis =>
      rw [writeEvents]
      split
      · exact hypothesis _
      · rfl

/-- Reports are written one after the other until one fails. -/
theorem writtenReports_writeEvents (reports : List Report) (channel : Channel σ) :
    writtenReports (writeEvents reports channel) <+: reports ∧
      (halted (writeReports reports channel) = none →
        writtenReports (writeEvents reports channel) = reports) := by
  induction reports generalizing channel with
  | nil => exact ⟨List.prefix_rfl, fun _ => rfl⟩
  | cons report rest hypothesis =>
      rw [writeEvents, writeReports]
      cases Link.write report (some channel.writeTimeout) channel.link with
      | ok _ link =>
          obtain ⟨beginning, all⟩ := hypothesis { channel with link }
          refine ⟨(List.prefix_cons_inj report).mpr beginning, fun complete => ?_⟩
          exact congrArg (List.cons report) (all complete)
      | error halt link => exact ⟨⟨rest, rfl⟩, fun complete => by cases complete⟩

omit [Link σ] in
/-- What a message that is handed over owes, when nothing else is. -/
theorem reports_of_handed (message : RawMessage) {rest : List Event}
    (silent : handedMessages rest = []) :
    (handedMessages (.handed message :: rest)).flatMap RawMessage.reports = message.reports := by
  have one : handedMessages (.handed message :: rest) = message :: handedMessages rest := rfl
  rw [one, silent, List.flatMap_singleton]

theorem delivers_sendEncoded (encoded : Except Error RawMessage) (channel : Channel σ) :
    Delivers (sendEvents encoded channel) (halted (sendEncoded encoded channel)) := by
  cases encoded with
  | error error => exact .silent _ rfl rfl
  | ok message =>
      rw [sendEncoded, sendEvents, send]
      cases framed : message.packetize with
      | error error =>
          have owed : (handedMessages [.handed message]).flatMap RawMessage.reports = [] := by
            rw [reports_of_handed message rfl, RawMessage.reports, framed]
          exact ⟨List.nil_prefix, fun _ => owed.symm⟩
      | ok reports =>
          have owed : (handedMessages (.handed message :: writeEvents reports channel)).flatMap
              RawMessage.reports = reports := by
            rw [reports_of_handed message (handedMessages_writeEvents reports channel),
              RawMessage.reports, framed]
          obtain ⟨beginning, all⟩ := writtenReports_writeEvents reports channel
          dsimp only
          refine ⟨owed.symm ▸ beginning, fun complete => owed.symm ▸ all ?_⟩
          cases wrote : writeReports reports channel with
          | ok _ next => rfl
          | error halt next =>
              rw [wrote] at complete
              cases complete

theorem delivers_collect (assembler : Reassembler) (channel : Channel σ) (stop : Option Halt) :
    Delivers (collectEvents assembler channel) stop := by
  have silent : writtenReports (collectEvents assembler channel) = [] ∧
      handedMessages (collectEvents assembler channel) = [] := by
    fun_induction collect assembler channel with
    | case1 assembler channel halt link failed =>
        rw [collectEvents_of_failed failed]
        exact ⟨rfl, rfl⟩
    | case2 assembler channel report link arrived counted following pushed hypothesis =>
        rw [collectEvents_of_more arrived pushed]
        exact hypothesis
    | case3 assembler channel report link arrived counted message following pushed =>
        rw [collectEvents_of_message arrived pushed]
        exact ⟨rfl, rfl⟩
    | case4 assembler channel report link arrived counted error following pushed =>
        rw [collectEvents_of_fault arrived pushed]
        exact ⟨rfl, rfl⟩
  exact .silent stop silent.1 silent.2

end Channel

theorem Stage.delivers_decodeEvents (stage : Stage) (message : RawMessage) (stop : Option Halt) :
    Delivers (.received stage message :: stage.decodeEvents message) stop := by
  rw [decodeEvents]
  split
  · exact .silent stop rfl rfl
  · split
    · exact .silent stop rfl rfl
    · exact .silent stop rfl rfl

namespace Session

variable {σ π : Type} [Link σ] [Prompt π]

omit [Link σ] in
theorem delivers_consult (interaction : Interaction) (prompt : π) (stop : Option Halt) :
    Delivers (consultEvents interaction prompt) stop := by
  cases interaction with
  | button => exact .silent stop rfl rfl
  | pin => exact .silent stop rfl rfl
  | passphrase => exact .silent stop rfl rfl

/-- That what is written is what was handed over is a law of the parts of a session. -/
theorem lawful_delivers : Lawful σ π Delivers where
  nothing stop := .silent stop rfl rfl
  append := .append
  send := Channel.delivers_sendEncoded
  receive channel := Channel.delivers_collect .idle channel _
  read stage message := stage.delivers_decodeEvents message _
  consult interaction prompt := delivers_consult interaction prompt _

end Session
end SecurityKey
