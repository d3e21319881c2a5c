/-!
# Violated limits

The settings have documented limits.  A `Violation` names the limit that a
setting breaks, together with the value that breaks it, and
`Violation.message` is the sentence shown for it.
-/

set_option autoImplicit false

namespace SecurityKey

/-- The two parts of an identity that end up in a locator. -/
inductive LocatorPart where
  | user
  | host
  deriving DecidableEq, Repr

/-- The name of a part in messages. -/
def LocatorPart.name : LocatorPart → String
  | .user => "user"
  | .host => "host"

/-- The log levels that a setting may name, least severe first. -/
def logLevels : List String := ["trace", "debug", "info", "warn", "error"]

/-- A limit that the settings break. -/
inductive Violation where
  | devicePathEmpty
  | writeTimeoutShort
  | writeTimeoutLong
  | readTimeoutShort
  | appNameEmpty
  | appNameLong (length : Nat)
  | locatorDelimiter (part : LocatorPart) (value : String)
  | unknownLogLevel (level : String)
  | logDirectoryMissing (directory : String)
  deriving DecidableEq, Repr

/-- The sentence that reports a broken limit. -/
def Violation.message : Violation → String
  | .devicePathEmpty => "Device path cannot be empty"
  | .writeTimeoutShort => "Write timeout too short (minimum: 10ms)"
  | .writeTimeoutLong => "Write timeout too long (maximum: 60s)"
  | .readTimeoutShort => "Read timeout too short (minimum: 5s, or 0 to wait forever)"
  | .appNameEmpty => "Application name cannot be empty"
  | .appNameLong length =>
      "Application name too long: " ++ toString length ++ " characters (maximum: 64)"
  | .locatorDelimiter part value =>
      "Identity " ++ part.name ++ " cannot contain '@' or '/': '" ++ value ++ "'"
  | .unknownLogLevel level =>
      "Invalid log level: '" ++ level ++ "' (expected one of: " ++
        ", ".intercalate logLevels ++ ")"
  | .logDirectoryMissing directory => "Log file directory does not exist: " ++ directory

end SecurityKey
