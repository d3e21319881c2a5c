import SecurityKey.Channel
import SecurityKey.Prompt
import SecurityKey.Session.Records

/-!
# Sessions

A session derives one secret from the device at the other end of a channel.  `run` sends
the start, then makes the move for each message that arrives until a move ends the session,
something fails, or nothing more can arrive.  Whatever the end is, the session is over and
does not run again.  Its journal says what happened; nothing that it does depends on that.

A `round` receives one message and makes one move, over any link.  A session over a finite
link always ends: each message that arrives takes from the supply of the link, and no move
adds to it.
-/

set_option autoImplicit false

namespace SecurityKey

/-- A session with a device. -/
structure Session (σ π : Type) where
  channel : Channel σ
  prompt : π
  info : HostInfo
  stage : Stage
  /-- What the session has to tell so far. -/
  journal : Log.Journal

namespace Session

variable {σ π : Type}

/-- A session that has not been run. -/
def start (channel : Channel σ) (prompt : π) (info : HostInfo) : Session σ π :=
  ⟨channel, prompt, info, .handshake, []⟩

/-! ## The journal -/

/-- Adds remarks to the journal of a session. -/
def tell (remarks : Log.Journal) (session : Session σ π) : Session σ π :=
  { session with journal := session.journal ++ remarks }

/-- Adds records to the journal of a session. -/
def note (records : List Log.Record) (session : Session σ π) : Session σ π :=
  session.tell (records.map .logged)

/-- Notes a message that has arrived, and what there is to say about it. -/
def noteMessage (message : RawMessage) (session : Session σ π) : Session σ π :=
  session.note (message.receivedRecord :: session.stage.records message)

/-! ## Moves -/

/-- Does something with the channel of a session. -/
def onChannel {α : Type} (operation : EStateM Halt (Channel σ) α) :
    EStateM Halt (Session σ π) α := fun session =>
  match operation session.channel with
  | .ok value channel => .ok value { session with channel }
  | .error halt channel => .error halt { session with channel }

/-- Sends a request. -/
def send [Link σ] (request : Except Error RawMessage) :
    EStateM Halt (Session σ π) Unit := fun session =>
  onChannel (Channel.sendEncoded request)
    (session.note (sendingRecords session.channel.writeTimeout request))

/-- Shows the lines of a request and asks for what it needs. -/
def consult [Prompt π] (interaction : Interaction) : EStateM Error π String := fun prompt =>
  let prompt := interaction.notices.foldl (fun prompt line => Prompt.display line prompt) prompt
  match interaction.question with
  | none => .ok "" prompt
  | some question => Prompt.secret question false prompt

/-- Answers a request to the user. -/
def interact [Link σ] [Prompt π] (interaction : Interaction) :
    EStateM Halt (Session σ π) Unit := fun session =>
  let session := session.tell (interaction.notices.map .line)
  match consult interaction session.prompt with
  | .error error prompt => .error (.failed error) { session with prompt }
  | .ok text prompt =>
      send (interaction.acknowledgement text)
        { session with prompt, channel := session.channel.countInteraction }

/-- Sends a request and goes on to a stage. -/
def advance [Link σ] (request : Except Error RawMessage) (stage : Stage) :
    EStateM Halt (Session σ π) Unit := fun session =>
  match send request session with
  | .ok () session => .ok () { session with stage }
  | .error halt session => .error halt session

/-- Counts an error if it is one that the device reported. -/
def countFailure (error : Error) (session : Session σ π) : Session σ π :=
  match error with
  | .deviceFailure _ => { session with channel := session.channel.countError }
  | _ => session

/-! ## What the moves leave of the supply -/

/-- The supply of the link of a session. -/
def supply [FiniteLink σ] (session : Session σ π) : Nat := session.channel.supply

theorem supply_send [FiniteLink σ] {request : Except Error RawMessage}
    {session next : Session σ π} (run : send request session = .ok () next) :
    next.supply ≤ session.supply := by
  simp only [send, onChannel] at run
  split at run
  · rename_i channel sent
    cases run
    exact Channel.supply_sendEncoded sent
  · cases run

theorem supply_interact [FiniteLink σ] [Prompt π] {interaction : Interaction}
    {session next : Session σ π} (run : interact interaction session = .ok () next) :
    next.supply ≤ session.supply := by
  simp only [interact] at run
  split at run
  · cases run
  · have left := supply_send run
    exact left

theorem supply_advance [FiniteLink σ] {request : Except Error RawMessage} {stage : Stage}
    {session next : Session σ π} (run : advance request stage session = .ok () next) :
    next.supply ≤ session.supply := by
  simp only [advance] at run
  split at run
  · rename_i middle sent
    cases run
    have left := supply_send sent
    exact left
  · cases run

/-! ## Rounds -/

/-- How a session stands after a round of the conversation. -/
inductive Progress (σ π : Type) where
  /-- The conversation goes on. -/
  | underway (session : Session σ π)
  /-- The conversation is over. -/
  | complete (result : EStateM.Result Halt (Session σ π) DerivedSecret)

/-- Goes on unless the move itself failed. -/
def goOn : EStateM.Result Halt (Session σ π) Unit → Progress σ π
  | .ok () session => .underway session
  | .error halt session => .complete (.error halt session)

/-- Makes the move for a message. -/
def makeMove [Link σ] [Prompt π] (move : Except Error Move) (session : Session σ π) :
    Progress σ π :=
  match move with
  | .error error => .complete (.error (.failed error) (session.countFailure error))
  | .ok .wait => .underway session
  | .ok (.finish secret) => .complete (.ok secret (session.note [secret.record]))
  | .ok (.interact interaction) => goOn (interact interaction session)
  | .ok (.advance request stage) => goOn (advance request stage session)

/-- Receives a message and makes the move for it. -/
def round [Link σ] [Prompt π] (hash : HashFunction) (mode : Mode) (session : Session σ π) :
    Progress σ π :=
  match Channel.receive session.channel with
  | .error halt channel => .complete (.error halt { session with channel })
  | .ok message channel =>
      makeMove (session.stage.answer hash mode session.info message)
        { session.noteMessage message with channel }

theorem underway_of_goOn {result : EStateM.Result Halt (Session σ π) Unit}
    {next : Session σ π} (run : goOn result = .underway next) : result = .ok () next := by
  cases result with
  | ok _ session =>
      cases run
      rfl
  | error halt session => cases run

theorem supply_makeMove [FiniteLink σ] [Prompt π] {move : Except Error Move}
    {session next : Session σ π} (run : makeMove move session = .underway next) :
    next.supply ≤ session.supply := by
  simp only [makeMove] at run
  split at run
  · cases run
  · cases run
    exact Nat.le_refl _
  · cases run
  · exact supply_interact (underway_of_goOn run)
  · exact supply_advance (underway_of_goOn run)

/-- A round that is not the last leaves a smaller supply. -/
theorem supply_round [FiniteLink σ] [Prompt π] {hash : HashFunction} {mode : Mode}
    {session next : Session σ π} (run : round hash mode session = .underway next) :
    next.supply < session.supply := by
  simp only [round] at run
  split at run
  · cases run
  · rename_i message channel arrived
    exact Nat.lt_of_le_of_lt (supply_makeMove run) (Channel.supply_receive arrived)

/-! ## The whole session -/

/-- Makes the move for each message that arrives, until one ends the session. -/
def converse [FiniteLink σ] [Prompt π] (hash : HashFunction) (mode : Mode)
    (session : Session σ π) : EStateM.Result Halt (Session σ π) DerivedSecret :=
  match _made : round hash mode session with
  | .underway next => converse hash mode next
  | .complete result => result
termination_by session.supply
decreasing_by exact supply_round _made

/-- Sends the start and converses. -/
def exchange [FiniteLink σ] [Prompt π] (hash : HashFunction) (mode : Mode) :
    EStateM Halt (Session σ π) DerivedSecret := fun session =>
  match send HostInfo.opening session with
  | .ok () session => converse hash mode session
  | .error halt session => .error halt session

/-- Ends a session.  It took no time that is known. -/
def finished (session : Session σ π) : Session σ π :=
  { session.note [session.channel.metrics.record 0] with stage := .done }

/-- Ends a session with the result of its exchange, unless it waits forever. -/
def conclude : EStateM.Result Halt (Session σ π) DerivedSecret →
    EStateM.Result Halt (Session σ π) DerivedSecret
  | .ok secret session => .ok secret session.finished
  | .error (.failed error) session => .error (.failed error) session.finished
  | .error .waitsForever session => .error .waitsForever session

/-- Runs a session that has not been run. -/
def run [FiniteLink σ] [Prompt π] (hash : HashFunction) (mode : Mode) :
    EStateM Halt (Session σ π) DerivedSecret := fun session =>
  if session.stage = .handshake then
    conclude (exchange hash mode session)
  else
    .error (.failed (.state .sessionFinished)) session

end Session

end SecurityKey
