import SecurityKey.Settings.Basic
import SecurityKey.Toml.Document
import SecurityKey.Toml.Printer

/-!
# Settings files

Settings are kept in a TOML document with a table for each group of settings.  What a
document does not mention keeps its default, and what it mentions besides is passed over.
A group may also be an array with the settings in their order.

Writing settings and reading the document again gives the same settings, as long as every
number fits into the integers of the format.
-/

set_option autoImplicit false

namespace SecurityKey

namespace Toml

/-! ## Reading values -/

/-- The settings of a group: the value at a name and a position. -/
structure Group where
  get? : (name : String) → (position : Nat) → Option Value

namespace Group

/-- A group that sets nothing. -/
def empty : Group := ⟨fun _ _ => none⟩

/-- The group that a value describes.  A moment is a group that sets nothing. -/
def ofValue : Value → Except Fault Group
  | .table entries => .ok ⟨fun name _ => find? name entries⟩
  | .array items => .ok ⟨fun _ position => items[position]?⟩
  | .moment _ => .ok empty
  | value => .error (.wrongKind "table" value.kind)

/-- Reads the setting at a name and a position; it keeps its default if it is not set. -/
def read {α : Type} (group : Group) (name : String) (position : Nat)
    (ofValue : Value → Except Fault α) (default : α) : Except Fault α :=
  match group.get? name position with
  | some value => ofValue value
  | none => .ok default

end Group

namespace Value

/-- The text that a value is. -/
def text : Value → Except Fault String
  | .string text => .ok text
  | value => .error (.wrongKind "string" value.kind)

/-- The flag that a value is. -/
def flag : Value → Except Fault Bool
  | .boolean flag => .ok flag
  | value => .error (.wrongKind "boolean" value.kind)

/-- The number that a value is. -/
def word : Value → Except Fault UInt64
  | .integer number =>
      if 0 ≤ number then .ok (UInt64.ofNat number.toNat)
      else .error (.wrongKind "unsigned integer" "negative integer")
  | value => .error (.wrongKind "unsigned integer" value.kind)

end Value

end Toml

open Toml

/-! ## Reading settings -/

/-- The device settings of a group. -/
def DeviceSettings.ofGroup (group : Group) : Except Fault DeviceSettings := do
  let base := DeviceSettings.default
  let path ← group.read "path" 0 Value.text base.path
  let reportId ← group.read "report_id" 1 Value.flag base.reportId
  let writeTimeout ← group.read "write_timeout_ms" 2 Value.word base.writeTimeout
  let readTimeout ← group.read "read_timeout_ms" 3 Value.word base.readTimeout
  let legacy ← group.read "legacy" 4 Value.flag base.legacy
  return { path, reportId, writeTimeout, readTimeout, legacy }

/-- The identity of a group. -/
def IdentitySettings.ofGroup (group : Group) : Except Fault IdentitySettings := do
  let base := IdentitySettings.default
  let app ← group.read "app" 0 Value.text base.app
  let user ← group.read "user" 1 Value.text base.user
  let host ← group.read "host" 2 Value.text base.host
  let message ← group.read "message" 3 Value.text base.message
  return { app, user, host, message }

/-- The log settings of a group. -/
def LogSettings.ofGroup (group : Group) : Except Fault LogSettings := do
  let base := LogSettings.default
  let level ← group.read "level" 0 Value.text base.level
  let json ← group.read "json" 1 Value.flag base.json
  let file ← group.read "file" 2 (fun value => some <$> value.text) base.file
  let showTarget ← group.read "show_target" 3 Value.flag base.showTarget
  return { level, json, file, showTarget }

namespace Settings

/-- The settings of a document. -/
def ofValue (value : Value) : Except Fault Settings := do
  let group ← Group.ofValue value
  let device ← group.read "device" 0 Group.ofValue .empty
  let identity ← group.read "identity" 1 Group.ofValue .empty
  let logging ← group.read "logging" 2 Group.ofValue .empty
  let device ← DeviceSettings.ofGroup device
  let identity ← IdentitySettings.ofGroup identity
  let logging ← LogSettings.ofGroup logging
  return { device, identity, logging }

/-- The settings that a text describes. -/
def parse (text : String) : Except Error Settings :=
  match Value.parse text >>= ofValue with
  | .ok settings => .ok settings
  | .error fault => .error (.settings (.malformed fault.message))

/-- The settings that the bytes of a file describe. -/
def parseFile (content : Bytes) : Except Error Settings :=
  match content.text? with
  | some text => parse text
  | none => .error (.settings (.unreadable .invalidText))

end Settings

/-! ## Writing settings -/

/-- The device settings as a section. -/
def DeviceSettings.toSection (device : DeviceSettings) : Section :=
  ⟨"device", [
    ("path", .string device.path),
    ("report_id", .boolean device.reportId),
    ("write_timeout_ms", .integer device.writeTimeout.toNat),
    ("read_timeout_ms", .integer device.readTimeout.toNat),
    ("legacy", .boolean device.legacy)]⟩

/-- The identity as a section. -/
def IdentitySettings.toSection (identity : IdentitySettings) : Section :=
  ⟨"identity", [
    ("app", .string identity.app),
    ("user", .string identity.user),
    ("host", .string identity.host),
    ("message", .string identity.message)]⟩

/-- The log settings as a section. -/
def LogSettings.toSection (logging : LogSettings) : Section :=
  let file := logging.file.map fun file => ("file", Scalar.string file)
  ⟨"logging",
    [("level", .string logging.level), ("json", .boolean logging.json)] ++ file.toList ++
      [("show_target", .boolean logging.showTarget)]⟩

/-- Whether a number fits into the integers of a document. -/
def fitsDocument (number : UInt64) : Bool := number.toNat < 2 ^ 63

namespace Settings

/-- Settings as sections. -/
def toSections (settings : Settings) : List Section :=
  [settings.device.toSection, settings.identity.toSection, settings.logging.toSection]

/-- Settings as a document. -/
def print (settings : Settings) : Except Error String :=
  if fitsDocument settings.device.writeTimeout ∧ fitsDocument settings.device.readTimeout then
    .ok (Section.printAll settings.toSections)
  else
    .error (.settings .unserializable)

/-- An example of a settings file, with all defaults. -/
def exampleFile : String := Section.printAll Settings.default.toSections

end Settings

end SecurityKey
