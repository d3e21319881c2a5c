import SecurityKey.Settings.Basic
import SecurityKey.Text.Blank
import SecurityKey.Text.Literal

/-!
# Settings from the environment

Variables override settings one after the other.  A variable whose value does not fit its
setting is refused; what the variables before it have set stays set.
-/

set_option autoImplicit false

namespace SecurityKey

/-- The values of the variables that are set. -/
abbrev Environment := String → Option String

namespace Environment

/-! ## Variables -/

/-- A variable and what its value does to the settings. -/
structure Override where
  name : String
  apply : String → Settings → Option Settings

/-- A variable with a value that is taken as it is. -/
def textOverride (name : String) (set : String → Settings → Settings) : Override :=
  ⟨name, fun text settings => some (set text settings)⟩

/-- A variable with a value that has to spell something; blanks around it do not matter. -/
def readOverride {α : Type} (name : String) (read : String → Option α)
    (set : α → Settings → Settings) : Override :=
  ⟨name, fun text settings => (read (Blank.trim text)).map fun value => set value settings⟩

/-- The variables, in the order in which they are applied. -/
def overrides : List Override := [
  textOverride "MACER_DEVICE" fun path settings =>
    { settings with device.path := path },
  readOverride "MACER_REPORT_ID" Literal.flag? fun reportId settings =>
    { settings with device.reportId := reportId },
  readOverride "MACER_WRITE_TIMEOUT_MS" Literal.word? fun timeout settings =>
    { settings with device.writeTimeout := timeout },
  readOverride "MACER_READ_TIMEOUT_MS" Literal.word? fun timeout settings =>
    { settings with device.readTimeout := timeout },
  readOverride "MACER_LEGACY" Literal.flag? fun legacy settings =>
    { settings with device.legacy := legacy },
  textOverride "MACER_USER" fun user settings =>
    { settings with identity.user := user },
  textOverride "MACER_HOST" fun host settings =>
    { settings with identity.host := host },
  textOverride "MACER_MESSAGE" fun message settings =>
    { settings with identity.message := message },
  textOverride "MACER_LOG_LEVEL" fun level settings =>
    { settings with logging.level := level },
  readOverride "MACER_LOG_JSON" Literal.flag? fun json settings =>
    { settings with logging.json := json }]

/-- Applies one variable, if it is set. -/
def applyOverride (environment : Environment) (named : Override) : EStateM Error Settings Unit :=
  fun settings =>
    match environment named.name with
    | none => .ok () settings
    | some text =>
        match named.apply text settings with
        | some settings => .ok () settings
        | none => .error (.settings (.refusedValue named.name text)) settings

end Environment

/-- Applies the variables of an environment. -/
def Settings.overlay (environment : Environment) : EStateM Error Settings Unit :=
  Environment.overrides.forM environment.applyOverride

end SecurityKey
