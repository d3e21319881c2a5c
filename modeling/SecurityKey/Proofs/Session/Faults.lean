import SecurityKey.Proofs.Session.Parts

/-!
# The first fault is the end

Reading and writing a report, putting reports together, reading a payload and asking the
user for a secret can each fail, at any point of a session.  The first of these operations
that fails is the last one that the session ever performs, and the run gives its error back
unchanged.  One failure is forgiven: the payload of the reply to the start is read only to
be told to the log.

`StopsAtFault` says this about the events of any part of a session and what the part comes
to.  It is a law of the parts (`lawful_stopsAtFault`), so it holds of every run.
-/

set_option autoImplicit false

namespace SecurityKey

/-! ## Faults -/

/-- Why an operation failed, if it did. -/
def Event.fault? : Event → Option Halt
  | .wrote _ (.error halt) => some halt
  | .read (.error halt) => some halt
  | .assembled (.error error) => some (.failed error)
  | .decoded _ _ (.error error) => some (.failed error)
  | .asked _ (.error error) => some (.failed error)
  | _ => none

/-- Whether an event is the reading of the payload of the reply to the start. -/
def Event.isGreeting : Event → Bool
  | .decoded .handshake _ _ => true
  | _ => false

/-- An event that no session ends for. -/
def Event.Harmless (event : Event) : Prop := event.isGreeting ∨ event.fault? = none

/-- Events of which at most the last is a fault, and then the operation as a whole comes to
that fault. -/
inductive StopsAtFault : List Event → Option Halt → Prop where
  | harmless {events : List Event} (stop : Option Halt)
      (harmless : ∀ event ∈ events, event.Harmless) : StopsAtFault events stop
  | fault {before : List Event} {last : Event} {halt : Halt}
      (harmless : ∀ event ∈ before, event.Harmless) (faulty : last.fault? = some halt) :
      StopsAtFault (before ++ [last]) (some halt)

namespace StopsAtFault

/-- Nothing is done. -/
theorem nil (stop : Option Halt) : StopsAtFault [] stop :=
  .harmless stop fun _ member => by cases member

/-- One operation that fails. -/
theorem single {event : Event} {halt : Halt} (faulty : event.fault? = some halt) :
    StopsAtFault [event] (some halt) := by
  have stops : StopsAtFault ([] ++ [event]) (some halt) :=
    .fault (fun _ member => by cases member) faulty
  exact stops

/-- What succeeds has no fault in it. -/
theorem all_harmless {events : List Event} (stops : StopsAtFault events none) :
    ∀ event ∈ events, event.Harmless := by
  cases stops with
  | harmless _ harmless => exact harmless

/-- Something that succeeds may come before. -/
theorem after {first second : List Event} {stop : Option Halt}
    (harmless : ∀ event ∈ first, event.Harmless) (stops : StopsAtFault second stop) :
    StopsAtFault (first ++ second) stop := by
  cases stops with
  | harmless _ others =>
      refine .harmless stop fun event member => ?_
      rcases List.mem_append.mp member with member | member
      · exact harmless event member
      · exact others event member
  | @fault before last halt others faulty =>
      rw [← List.append_assoc]
      refine .fault (fun event member => ?_) faulty
      rcases List.mem_append.mp member with member | member
      · exact harmless event member
      · exact others event member

/-- One harmless event may come before. -/
theorem cons {event : Event} {rest : List Event} {stop : Option Halt}
    (harmless : event.Harmless) (stops : StopsAtFault rest stop) :
    StopsAtFault (event :: rest) stop := by
  have single : ∀ other ∈ [event], other.Harmless := by
    intro other member
    rw [List.mem_singleton.mp member]
    exact harmless
  exact after single stops

/-- A fault that is not forgiven is the last event, and the operation comes to it. -/
theorem eq_of_fault {events before after : List Event} {event : Event} {stop : Option Halt}
    {halt : Halt} (stops : StopsAtFault events stop) (split : events = before ++ event :: after)
    (faulty : event.fault? = some halt) (final : event.isGreeting = false) :
    after = [] ∧ stop = some halt := by
  have harmful : ¬ event.Harmless := by
    rintro (greeting | sound)
    · rw [final] at greeting
      cases greeting
    · rw [faulty] at sound
      cases sound
  cases stops with
  | harmless _ harmless =>
      refine absurd (harmless event ?_) harmful
      rw [split]
      exact List.mem_append_right _ List.mem_cons_self
  | @fault earlier last other harmless lastFaulty =>
      rcases split_last split with ⟨nothing, _, rfl⟩ | ⟨init, rfl⟩
      · rw [faulty] at lastFaulty
        exact ⟨nothing, lastFaulty.symm⟩
      · exact absurd (harmless event (List.mem_append_right _ List.mem_cons_self)) harmful

end StopsAtFault

/-! ## Operations of the channel -/

namespace Channel

variable {σ : Type} [Link σ]

theorem stops_writeReports (reports : List Report) (channel : Channel σ) :
    StopsAtFault (writeEvents reports channel) (halted (writeReports reports channel)) := by
  induction reports generalizing channel with
  | nil => exact .nil _
  | cons report rest hypothesis =>
      rw [writeEvents, writeReports]
      cases Link.write report (some channel.writeTimeout) channel.link with
      | ok _ link => exact .cons (.inr rfl) (hypothesis _)
      | error halt link => exact .single rfl

theorem stops_sendEncoded (encoded : Except Error RawMessage) (channel : Channel σ) :
    StopsAtFault (sendEvents encoded channel) (halted (sendEncoded encoded channel)) := by
  cases encoded with
  | error error => exact .nil _
  | ok message =>
      refine .cons (.inr rfl) ?_
      rw [sendEncoded, send]
      cases message.packetize with
      | error error => exact .nil _
      | ok reports =>
          have stops := stops_writeReports reports channel
          dsimp only
          cases wrote : writeReports reports channel with
          | ok _ next => rwa [wrote] at stops
          | error halt next => rwa [wrote] at stops

theorem stops_collect (assembler : Reassembler) (channel : Channel σ) :
    StopsAtFault (collectEvents assembler channel) (halted (collect assembler channel)) := by
  fun_induction collect assembler channel with
  | case1 assembler channel halt link failed =>
      rw [collectEvents_of_failed failed]
      exact .single rfl
  | case2 assembler channel report link arrived counted following pushed hypothesis =>
      rw [collectEvents_of_more arrived pushed]
      exact .cons (.inr rfl) (.cons (.inr rfl) hypothesis)
  | case3 assembler channel report link arrived counted message following pushed =>
      rw [collectEvents_of_message arrived pushed]
      exact .cons (.inr rfl) (.cons (.inr rfl) (.nil _))
  | case4 assembler channel report link arrived counted error following pushed =>
      rw [collectEvents_of_fault arrived pushed]
      exact .cons (.inr rfl) (.single rfl)

end Channel

/-! ## Runs -/

/-- A payload that cannot be read is the end, unless it is that of the reply to the start. -/
theorem Stage.stops_decodeEvents (stage : Stage) (message : RawMessage) :
    StopsAtFault (stage.decodeEvents message) ((stage.unreadable? message).map .failed) := by
  rw [decodeEvents, unreadable?]
  cases MessageKind.ofId? message.id with
  | none => exact .nil _
  | some kind =>
      dsimp only
      by_cases opened : stage.opens kind
      · rw [if_pos opened]
        by_cases awaiting : stage.awaits
        · rw [if_pos (Bool.and_eq_true_iff.mpr ⟨awaiting, opened⟩)]
          cases kind.schema.decode message.payload with
          | ok record => exact .cons (.inr rfl) (.nil _)
          | error error => exact .single rfl
        · have start : stage = .handshake := by
            cases stage with
            | handshake => rfl
            | done => cases opened
            | awaitingPeerKey => exact absurd rfl awaiting
            | awaitingSecret => exact absurd rfl awaiting
          subst start
          exact .cons (.inl rfl) (.nil _)
      · rw [if_neg opened]
        exact .nil _

namespace Session

variable {σ π : Type} [Link σ] [Prompt π]

theorem harmless_shown (lines : List String) :
    ∀ event ∈ lines.map Event.shown, event.Harmless := by
  intro event member
  obtain ⟨line, _, rfl⟩ := List.mem_map.mp member
  exact .inr rfl

/-- Asking the user is the last thing that is done exactly if it fails. -/
theorem stops_consult (interaction : Interaction) (prompt : π) :
    StopsAtFault (consultEvents interaction prompt)
      ((halted (consult interaction prompt)).map .failed) := by
  refine .after (harmless_shown _) ?_
  cases interaction.question with
  | none => exact .nil _
  | some question =>
      cases consult interaction prompt with
      | ok text left => exact .cons (.inr rfl) (.nil _)
      | error error left => exact .single rfl

/-- That the first fault is the end is a law of the parts of a session. -/
theorem lawful_stopsAtFault : Lawful σ π StopsAtFault where
  nothing := .nil
  append first second := .after first.all_harmless second
  send := Channel.stops_sendEncoded
  receive := Channel.stops_collect .idle
  read stage message := .cons (.inr rfl) (stage.stops_decodeEvents message)
  consult := stops_consult

end Session

end SecurityKey
