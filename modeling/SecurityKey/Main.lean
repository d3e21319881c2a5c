import SecurityKey.CommandLine.Console
import SecurityKey.CommandLine.Derivation
import SecurityKey.CommandLine.Disk

/-!
# The executable

Connects the program to the system: files, variables, the terminal and the device.  All
that it decides is decided elsewhere; what is here opens, reads, writes and waits.

The secret goes to the standard output, and everything else to the standard error, so that
the output can be the key file of another program.
-/

set_option autoImplicit false

namespace SecurityKey.CommandLine

/-- Something that is done with the system and may fail. -/
abbrev Action := ExceptT Error IO

/-! ## System faults -/

/-- The fault that a system error is. -/
def faultOf (error : IO.Error) : SystemFault :=
  match error with
  | .noFileOrDirectory .. => .notFound
  | .permissionDenied .. => .permissionDenied
  | .inappropriateType _ 20 _ => .notADirectory
  | .inappropriateType _ 21 _ => .isADirectory
  | .invalidArgument _ 36 _ => .nameTooLong
  | error => .reported (toString error)

/-- What a call gives, or the fault that it ends with. -/
def attempt {α : Type} (call : IO α) : IO (Except SystemFault α) := do
  match ← call.toBaseIO with
  | .ok value => return .ok value
  | .error error => return .error (faultOf error)

/-- A call whose fault is an error. -/
def system {α : Type} (call : IO α) : Action α := do
  match ← attempt call with
  | .ok value => return value
  | .error fault => throw (.system fault)

/-- Opens a file. -/
def openFile (path : String) (mode : IO.FS.Mode) : IO (Except SystemFault IO.FS.Handle) := do
  match Disk.pathFault path with
  | some fault => return .error fault
  | none => attempt (IO.FS.Handle.mk path mode)

/-- Writes a line to the standard error. -/
def tell (line : String) : IO Unit := do (← IO.getStderr).putStrLn line

/-! ## The log -/

/-- A log that is open. -/
structure OpenLog where
  /-- The line for a record, if the log shows it. -/
  line? : Log.Record → Option String
  /-- The file of the log, if it has one. -/
  file : Option IO.FS.Handle

/-- Opens the log. -/
def OpenLog.start (settings : LogSettings) (environment : Environment) : Action OpenLog := do
  let line? := settings.line? environment
  match settings.file with
  | none => return ⟨line?, none⟩
  | some path =>
      match ← openFile path .append with
      | .ok file => return ⟨line?, some file⟩
      | .error fault => throw (.system fault)

/-- Writes records to the log.  A log that cannot be written stops nothing. -/
def OpenLog.note (log : OpenLog) (records : List Log.Record) : IO Unit := do
  for line in records.filterMap log.line? do
    match log.file with
    | none => tell line
    | some file => discard (attempt (do file.putStrLn line; file.flush))

/-! ## Deadlines -/

/-- Waits until a task has finished, for at most some milliseconds. -/
def awaitFor {α : Type} (task : Task α) : Nat → IO Bool
  | 0 => IO.hasFinished task
  | left + 1 => do
      if ← IO.hasFinished task then
        return true
      IO.sleep 1
      awaitFor task left

/-- A call that is given up at a deadline. -/
def within {α : Type} (deadline : Deadline) (call : IO α) : Action α := do
  match deadline with
  | none => system call
  | some limit =>
      let task ← IO.asTask (attempt call) Task.Priority.dedicated
      unless ← awaitFor task limit do
        throw .timeout
      match task.get with
      | .ok (.ok value) => return value
      | .ok (.error fault) => throw (.system fault)
      | .error error => throw (.system (faultOf error))

/-! ## The device -/

/-- A device that is open. -/
structure OpenDevice where
  handle : IO.FS.Handle
  settings : DeviceSettings
  /-- What has been carried. -/
  metrics : IO.Ref Metrics
  /-- Writes records of a session to the log. -/
  note : List Log.Record → IO Unit

namespace OpenDevice

/-- Sends a message. -/
def send (device : OpenDevice) (encoded : Except Error RawMessage) : Action Unit := do
  let message ← ExceptT.mk (pure encoded)
  let reports ← ExceptT.mk (pure message.packetize)
  let limit := device.settings.writeTimeout.toNat
  device.note (sendingRecords limit encoded)
  for report in reports do
    let bytes := report.outgoing device.settings.reportId
    within (some limit) do
      device.handle.write ⟨bytes.toArray⟩
      device.handle.flush
  device.metrics.modify
    (Metrics.messageSent (UInt64.ofNat message.payload.length) (UInt64.ofNat reports.length))

/-- Reads a report. -/
def read (device : OpenDevice) : Action Report := do
  let bytes ← within device.settings.readDeadline
    (device.handle.read (USize.ofNat reportSize))
  if bytes.size = reportSize then
    device.metrics.modify Metrics.reportReceived
    return FixedBytes.ofBytes reportSize bytes.data.toList
  else
    throw .connectionClosed

/-- Receives a message, of which some reports may have been read. -/
partial def receive (device : OpenDevice) (assembler : Reassembler) : Action RawMessage := do
  match Reassembler.push (← device.read) assembler with
  | .ok none assembler => device.receive assembler
  | .ok (some message) _ =>
      device.note [message.receivedRecord]
      device.metrics.modify (Metrics.messageReceived (UInt64.ofNat message.payload.length))
      return message
  | .error error _ =>
      device.metrics.modify Metrics.protocolError
      throw error

end OpenDevice

/-- Opens the device, and waits for a line of input before each further try. -/
partial def openDevice (settings : DeviceSettings) (log : OpenLog) : Action IO.FS.Handle := do
  match ← openFile settings.path .readWrite with
  | .ok handle =>
      log.note [openedRecord settings.path settings.reportId]
      return handle
  | .error fault =>
      log.note [unavailableRecord settings.path (.system fault)]
      tell attachNotice
      let line ← system (do (← IO.getStdin).getLine)
      if line.isEmpty then
        throw .connectionClosed
      openDevice settings log

/-! ## The user -/

/-- The longest secret that is taken from the terminal, in characters. -/
def longestSecret : Nat := 1000

/-- Reads a line from the terminal. -/
def askLine (message : String) : Action String := do
  let terminal ← IO.getStderr
  system (terminal.putStr (message ++ ":"))
  system terminal.flush
  let line ← system (do (← IO.getStdin).getLine)
  if line.isEmpty then
    throw (.argument .inputClosed)
  return String.ofList ((line.toList.takeWhile (· ≠ '\n')).take longestSecret)

/-- Asks for a secret on the terminal. -/
def askSecret (message : String) (confirm : Bool) : Action String := do
  unless ← (← IO.getStdin).isTty do
    throw (.argument .notATerminal)
  let secret ← askLine message
  if confirm then
    unless (← askLine "Confirm") = secret do
      throw (.argument .confirmationMismatch)
  return secret

/-- Shows the lines of a request and asks for what it needs. -/
def consultTerminal (interaction : Interaction) : Action String := do
  for line in interaction.notices do
    tell line
  match interaction.question with
  | some question => askSecret question false
  | none => return ""

/-! ## The session -/

/-- Makes the move for each message that arrives, until one ends the session. -/
partial def converseWith (device : OpenDevice) (info : HostInfo) (stage : Stage) :
    Action DerivedSecret := do
  let message ← device.receive .idle
  device.note (stage.records message)
  let mode := device.settings.mode
  match stage.answer Digest.sha256 mode info message with
  | .error error =>
      if let .deviceFailure _ := error then
        device.metrics.modify Metrics.protocolError
      throw error
  | .ok .wait => converseWith device info stage
  | .ok (.interact interaction) =>
      let text ← consultTerminal interaction
      device.metrics.modify Metrics.interaction
      device.send (interaction.acknowledgement text)
      converseWith device info stage
  | .ok (.advance request stage) =>
      device.send request
      converseWith device info stage
  | .ok (.finish secret) =>
      device.note [secret.record]
      return secret

/-- The milliseconds since an earlier time. -/
def elapsedSince (start : Nat) : IO Nat := return (← IO.monoMsNow) - start

/-- Runs a session over a device that has been opened. -/
def runSession (handle : IO.FS.Handle) (settings : DeviceSettings) (info : HostInfo)
    (log : OpenLog) : IO (Except Error DerivedSecret) := do
  let start ← IO.monoMsNow
  let span := settings.mode.span info
  let metrics ← IO.mkRef Metrics.zero
  let device : OpenDevice :=
    ⟨handle, settings, metrics, fun records => log.note (records.map (Log.Record.within span))⟩
  let session : Action DerivedSecret := do
    device.send HostInfo.opening
    converseWith device info .handshake
  let outcome ← session.run
  device.note [(← metrics.get).record (← elapsedSince start)]
  return outcome

/-! ## The program -/

/-- The variables that are set. -/
def readEnvironment : IO Environment := do
  let mut found := []
  for name in filterVariable :: colorVariable :: Environment.overrides.map (·.name) do
    found := (name, ← IO.getEnv name) :: found
  let values := found
  return fun name => (values.lookup name).join

/-- The settings of the file that the options name, or the defaults. -/
def readSettings (arguments : Arguments) : IO (Except Error Settings) := do
  match arguments.config with
  | none => return .ok Settings.default
  | some path =>
      match ← openFile path .read with
      | .error fault => return .error (.settings (.unopened fault))
      | .ok handle =>
          match ← attempt handle.readBinToEnd with
          | .error fault => return .error (.settings (.unreadable fault))
          | .ok bytes => return Settings.parseFile bytes.data.toList

/-- Whether there is something at a path: it can be opened, or only may not be. -/
def isPresent (path : String) : IO Bool := do
  match ← openFile path .read with
  | .ok _ | .error .permissionDenied => return true
  | .error _ => return false

/-- The settings that hold. -/
def loadSettings (arguments : Arguments) (environment : Environment) :
    IO (Except Error Settings) := do
  let base ← readSettings arguments
  let present ← match base with
    | .ok settings => (settings.logging.directory.mapM isPresent)
    | .error _ => pure none
  return arguments.settings environment (fun _ => present.getD true) base

/-- Asks for what the options mix in. -/
def askTerminal (arguments : Arguments) : Action Credentials := do
  let ask := fun (wanted : Bool) message confirm =>
    if wanted then some <$> askSecret message confirm else pure none
  let current ← ask arguments.existing "Enter current password" false
  let mixedIn ← ask arguments.password "Local passphrase" arguments.existing
  return ⟨current, mixedIn⟩

/-- Derives a secret with valid settings and writes it to the standard output. -/
def deriveAndWrite (arguments : Arguments) (settings : Settings) (log : OpenLog) :
    Action Unit := do
  let output ← IO.getStdout
  let terminal ← output.isTty
  ExceptT.mk (pure (arguments.checkTerminal terminal))
  let credentials ← askTerminal arguments
  let handle ← openDevice settings.device log
  let info := settings.identity.hostInfo
  let secret ← ExceptT.mk (runSession handle settings.device info log)
  let bytes ← ExceptT.mk (pure (arguments.output Digest.sha256 credentials secret))
  log.note (arguments.mnemonic.map phraseRecord).toList
  system (output.write ⟨bytes.toArray⟩)
  system output.flush

/-- Does something and tells the log how long it took. -/
def timed (log : OpenLog) (action : Action Unit) : IO (Except Error Unit) := do
  let start ← IO.monoMsNow
  let outcome ← action.run
  log.note [completedRecord (← elapsedSince start)]
  return outcome

/-- Does what the options ask for. -/
def perform (arguments : Arguments) : Action Unit := do
  let environment ← readEnvironment
  let settings ← ExceptT.mk (loadSettings arguments environment)
  let log ← OpenLog.start settings.logging environment
  ExceptT.mk (timed log (deriveAndWrite arguments settings log))

end SecurityKey.CommandLine

open SecurityKey CommandLine in
/-- The program. -/
def main (words : List String) : IO UInt32 := do
  match Request.parse words with
  | .error fault =>
      tell (errorLine fault.message)
      return 2
  | .ok .help =>
      (← IO.getStdout).putStr helpText
      return 0
  | .ok .version =>
      (← IO.getStdout).putStr versionText
      return 0
  | .ok (.derive arguments) =>
      match ← (perform arguments).run with
      | .ok () => return 0
      | .error error =>
          tell (errorLine error.message)
          return 1
