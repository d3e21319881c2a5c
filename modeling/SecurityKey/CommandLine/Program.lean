import SecurityKey.CommandLine.Console
import SecurityKey.CommandLine.Derivation
import SecurityKey.CommandLine.Storage
import SecurityKey.Link.File

/-!
# The program

The whole program as a function of its surroundings: the words of its command line, its
variables, the files, and what is typed while it waits for a device.  There is no terminal,
so the user cannot be asked for secrets, and the device is a file.

It leaves an `Outcome`.  Bytes go out only if it succeeds.
-/

set_option autoImplicit false

namespace SecurityKey.CommandLine

/-- What surrounds the program. -/
structure Surroundings where
  environment : Environment
  disk : Disk
  /-- The bytes of the standard input. -/
  input : Bytes

/-- How the program ended. -/
inductive Ending where
  /-- It gave what it was asked for. -/
  | answered (output : Bytes)
  /-- The command line made no request. -/
  | misused (fault : UsageFault)
  /-- Something failed. -/
  | halted (halt : Halt)

/-- What the program leaves.  The text of a log file tells the time and is not kept. -/
structure Outcome where
  ending : Ending
  /-- The lines that the console showed before the end. -/
  told : List String
  disk : Disk

/-- The exit code of an ending. -/
def Ending.exitCode : Ending → Nat
  | .answered _ => 0
  | .misused _ => 2
  | .halted _ => 1

/-- The bytes that went out. -/
def Ending.output : Ending → Bytes
  | .answered output => output
  | _ => []

/-- The line that says what went wrong. -/
def Ending.report? : Ending → Option String
  | .answered _ | .halted .waitsForever => none
  | .misused fault => some (errorLine fault.message)
  | .halted (.failed error) => some (errorLine error.message)

/-- All that the console showed. -/
def Outcome.console (outcome : Outcome) : String :=
  String.join ((outcome.told ++ outcome.ending.report?.toList).map fun line => line ++ "\n")

/-! ## Files -/

/-- The settings of the file that the options name, or the defaults. -/
def Arguments.baseSettings (arguments : Arguments) (disk : Disk) : Except Error Settings :=
  match arguments.config with
  | none => .ok Settings.default
  | some path => Settings.load path disk

/-- The disk once the log has been opened. -/
def openLog (logging : LogSettings) (disk : Disk) : Except Error Disk :=
  match logging.file with
  | none => .ok disk
  | some path =>
      match disk.openLog path with
      | .ok disk => .ok disk
      | .error fault => .error (.system fault)

/-! ## Waiting for the device -/

/-- Puts a byte in front of the lines that follow it. -/
def addByte (byte : UInt8) : List Bytes → List Bytes
  | [] => [[byte]]
  | line :: rest => if byte = 10 then [byte] :: line :: rest else (byte :: line) :: rest

/-- The lines of an input, of which the last one need not end. -/
def inputLines (input : Bytes) : List Bytes :=
  (input.foldr addByte [[]]).filter fun line => line ≠ []

/-- Says that the device cannot be opened, and asks for it. -/
def askForDevice (path : String) (fault : SystemFault) : Log.Journal :=
  [.logged (unavailableRecord path (.system fault)), .line attachNotice]

/-- Tries to open the device at a path, and again after each line that is typed. -/
def attach (path : String) (device : Except SystemFault Bytes) (numbered : Bool)
    (lines : List Bytes) : EStateM Error Log.Journal FileLink := fun journal =>
  match device with
  | .ok content =>
      .ok (FileLink.opened content numbered) (journal ++ [.logged (openedRecord path numbered)])
  | .error fault =>
      let asked := journal ++ askForDevice path fault
      match lines with
      | [] => .error .connectionClosed asked
      | line :: rest =>
          if (Bytes.text? line).isSome then attach path device numbered rest asked
          else .error (.system .invalidText) asked

/-! ## The program -/

/-- Derives a secret with valid settings. -/
def Arguments.perform (hash : HashFunction) (arguments : Arguments) (settings : Settings)
    (surroundings : Surroundings) (disk : Disk) : Outcome :=
  let device := settings.device
  let attached := attach device.path (disk.openDevice device.path) device.reportId
    (inputLines surroundings.input)
  let outcome := fun ending (left : Derivation FileLink ClosedPrompt) (last : Log.Journal) =>
    Outcome.mk ending
      ((left.journal ++ last).filterMap (consoleLine? surroundings.environment settings.logging))
      (left.link.elim disk fun link => disk.closeDevice device.path link.content)
  let completed := [Log.Remark.logged (completedRecord 0)]
  match arguments.deriveTo false hash settings attached ⟨none, ClosedPrompt.closed, []⟩ with
  | .ok output left => outcome (.answered output) left completed
  | .error .waitsForever left => outcome (.halted .waitsForever) left []
  | .error halt left => outcome (.halted halt) left completed

/-- Runs the program. -/
def run (hash : HashFunction) (words : List String) (surroundings : Surroundings) : Outcome :=
  let disk := surroundings.disk
  match Request.parse words with
  | .error fault => ⟨.misused fault, [], disk⟩
  | .ok .help => ⟨.answered (Bytes.ofText helpText), [], disk⟩
  | .ok .version => ⟨.answered (Bytes.ofText versionText), [], disk⟩
  | .ok (.derive arguments) =>
      match arguments.settings surroundings.environment disk.has (arguments.baseSettings disk) with
      | .error error => ⟨.halted (.failed error), [], disk⟩
      | .ok settings =>
          match openLog settings.logging disk with
          | .error error => ⟨.halted (.failed error), [], disk⟩
          | .ok opened => arguments.perform hash settings surroundings opened

end SecurityKey.CommandLine
