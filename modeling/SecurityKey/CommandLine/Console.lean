import SecurityKey.CommandLine.Arguments
import SecurityKey.Log.Filter
import SecurityKey.Log.Line
import SecurityKey.Mnemonic.Phrase
import SecurityKey.Session.Records
import SecurityKey.Settings.Environment

/-!
# The console

The standard error shows the lines that the user is told, the records of a log that has no
file, and at the end the error that the program ended with.

A variable may take the place of the level in the settings; if it spells no filter, the
level stays.  Another variable turns the colours off.
-/

set_option autoImplicit false

namespace SecurityKey

open Log

/-! ## The log -/

/-- The variable that holds the filter of the log. -/
def filterVariable : String := "RUST_LOG"

/-- The variable that turns colours off, unless it is empty. -/
def colorVariable : String := "NO_COLOR"

/-- The filter of a log. -/
def LogSettings.filter (environment : Environment) (logging : LogSettings) : Filter :=
  let named := (environment filterVariable).bind Filter.ofText?
  (named <|> Filter.ofText? logging.level).getD ⟨[]⟩

/-- How a log writes its records.  Only a console has styles. -/
def LogSettings.format (environment : Environment) (logging : LogSettings) : LineFormat where
  object := logging.json
  styled := logging.file.isNone && (environment colorVariable).all String.isEmpty
  showTarget := logging.showTarget

/-- A record as the log writes it, if it shows it. -/
def LogSettings.line? (environment : Environment) (logging : LogSettings) (record : Record) :
    Option String :=
  ((logging.filter environment).view? record).map (Record.written (logging.format environment))

namespace CommandLine

/-! ## Records of the program -/

/-- The record of a device that cannot be opened. -/
def unavailableRecord (path : String) (error : Error) : Record where
  scope := []
  level := .warn
  target := executableName
  sentence := "Device unavailable"
  fields := [textField "device" path, textField "error" error.message]
  said := none

/-- The record of a device that has been opened. -/
def openedRecord (path : String) (numbered : Bool) : Record where
  scope := [{
    level := .info
    target := streamTarget
    name := "open"
    fields := [⟨"report_id", .flag numbered⟩, textField "device" path] }]
  level := .debug
  target := streamTarget
  sentence := "Device node opened"
  fields := []
  said := none

/-- The record of a phrase for `length` bytes that is about to be written. -/
def phraseRecord (length : Nat) : Record where
  scope := []
  level := .info
  target := executableName
  sentence := "Writing mnemonic"
  fields := [numberField "words" (Mnemonic.wordCount length)]
  said := none

/-- The record of the end of a run that took some milliseconds. -/
def completedRecord (duration : Nat) : Record where
  scope := []
  level := .debug
  target := metricsTarget
  sentence := "Operation completed"
  fields := [⟨"operation", .quoted programName⟩, textField "duration_ms" (toString duration)]
  said := none

/-! ## Lines of the console -/

/-- The line that the console shows for a remark, if it does. -/
def consoleLine? (environment : Environment) (logging : LogSettings) (remark : Remark) :
    Option String :=
  match remark with
  | .line text => some text
  | .logged record => if logging.file.isSome then none else logging.line? environment record

/-- The line that reports an error. -/
def errorLine (message : String) : String := "error: " ++ message

/-- The line that asks for a device that is not there. -/
def attachNotice : String := "Attach compatible device (press enter when ready)..."

end CommandLine

end SecurityKey
