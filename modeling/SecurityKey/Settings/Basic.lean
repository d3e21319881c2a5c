import SecurityKey.Channel
import SecurityKey.Session.HostInfo
import SecurityKey.Session.Secret

/-!
# Settings

What can be set: the device and how to talk to it, the identity that a secret is derived
for, and what is logged.  Times are in milliseconds; a read timeout of zero means to wait
for as long as it takes.
-/

set_option autoImplicit false

namespace SecurityKey

/-- How to reach the device. -/
structure DeviceSettings where
  path : String
  /-- Whether a report number is written before each report. -/
  reportId : Bool
  writeTimeout : UInt64
  readTimeout : UInt64
  legacy : Bool
  deriving DecidableEq, Repr

/-- Who a secret is derived for. -/
structure IdentitySettings where
  app : String
  user : String
  host : String
  message : String
  deriving DecidableEq, Repr

/-- What is logged, and where. -/
structure LogSettings where
  level : String
  json : Bool
  file : Option String
  showTarget : Bool
  deriving DecidableEq, Repr

/-- All settings. -/
structure Settings where
  device : DeviceSettings
  identity : IdentitySettings
  logging : LogSettings
  deriving DecidableEq, Repr

/-- The device settings when nothing is set. -/
def DeviceSettings.default : DeviceSettings :=
  ⟨"/dev/hidraw0", true, UInt64.ofNat defaultWriteTimeout, 0, false⟩

/-- The identity when nothing is set. -/
def IdentitySettings.default : IdentitySettings := ⟨defaultApp, "", "", ""⟩

/-- The log settings when nothing is set. -/
def LogSettings.default : LogSettings := ⟨"warn", false, none, false⟩

/-- The settings when nothing is set. -/
def Settings.default : Settings := ⟨.default, .default, .default⟩

/-! ## What the settings mean -/

/-- How long a read may take. -/
def DeviceSettings.readDeadline (device : DeviceSettings) : Deadline :=
  if device.readTimeout = 0 then none else some device.readTimeout.toNat

/-- The derivation scheme. -/
def DeviceSettings.mode (device : DeviceSettings) : Mode := .ofLegacyFlag device.legacy

/-- Who asks for the secret. -/
def IdentitySettings.hostInfo (identity : IdentitySettings) : HostInfo :=
  ⟨identity.app, identity.user, identity.host, identity.message⟩

end SecurityKey
