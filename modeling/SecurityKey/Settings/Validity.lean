import SecurityKey.Settings.Basic
import SecurityKey.Text.Path

/-!
# Valid settings

`Settings.violations` lists the limits that settings break, in a fixed order; settings are
valid when there are none.  Whether a directory exists is a question to the file system,
so it is an argument.
-/

set_option autoImplicit false

namespace SecurityKey

/-- Limits with the violations that breaking them means: those that are broken. -/
def broken (limits : List (Bool × Violation)) : List Violation :=
  limits.filterMap fun limit => if limit.1 then some limit.2 else none

/-- No limit is broken exactly if none of the conditions holds. -/
theorem broken_eq_nil_iff {limits : List (Bool × Violation)} :
    broken limits = [] ↔ ∀ limit ∈ limits, limit.1 = false := by
  rw [broken, List.filterMap_eq_nil_iff]
  constructor
  · intro none limit member
    have kept := none limit member
    rw [ite_eq_right_iff] at kept
    exact Bool.eq_false_iff.mpr fun held => Option.some_ne_none _ (kept held)
  · intro kept limit member
    rw [kept limit member]
    rfl

/-- The limits that the device settings break. -/
def DeviceSettings.violations (device : DeviceSettings) : List Violation :=
  broken [
    (device.path.isEmpty, .devicePathEmpty),
    (device.writeTimeout < 10, .writeTimeoutShort),
    (61000 ≤ device.writeTimeout, .writeTimeoutLong),
    (device.readTimeout != 0 && device.readTimeout < 5000, .readTimeoutShort)]

/-- Whether a text has a character that separates the parts of a locator. -/
def hasDelimiter (text : String) : Bool := text.toList.any fun char => char == '@' || char == '/'

theorem hasDelimiter_eq_false_iff {text : String} :
    hasDelimiter text = false ↔ '@' ∉ text.toList ∧ '/' ∉ text.toList := by
  rw [hasDelimiter, List.any_eq_false]
  constructor
  · intro clear
    exact ⟨fun member => clear _ member rfl, fun member => clear _ member rfl⟩
  · rintro ⟨atSign, slash⟩ char member found
    rcases Bool.or_eq_true_iff.mp found with same | same
    · exact atSign (eq_of_beq same ▸ member)
    · exact slash (eq_of_beq same ▸ member)

/-- The limits that the identity breaks. -/
def IdentitySettings.violations (identity : IdentitySettings) : List Violation :=
  broken [
    (identity.app.isEmpty, .appNameEmpty),
    (64 < identity.app.utf8ByteSize, .appNameLong identity.app.utf8ByteSize),
    (hasDelimiter identity.user, .locatorDelimiter .user identity.user),
    (hasDelimiter identity.host, .locatorDelimiter .host identity.host)]

/-- The directory of the log file, if it has one. -/
def LogSettings.directory (logging : LogSettings) : Option String :=
  (logging.file.bind Path.parent).filter fun directory => !directory.isEmpty

/-- The limits that the log settings break. -/
def LogSettings.violations (present : String → Bool) (logging : LogSettings) :
    List Violation :=
  let directory := logging.directory
  broken [
    (!logLevels.contains logging.level.toLower, .unknownLogLevel logging.level),
    (directory.any fun directory => !present directory,
      .logDirectoryMissing (directory.getD ""))]

namespace Settings

/-- The limits that settings break. -/
def violations (present : String → Bool) (settings : Settings) : List Violation :=
  settings.device.violations ++ settings.identity.violations ++
    settings.logging.violations present

/-- Refuses settings that break a limit. -/
def validate (present : String → Bool) (settings : Settings) : Except Error Unit :=
  match settings.violations present with
  | [] => .ok ()
  | broken => .error (.settings (.violations broken))

/-- Settings pass exactly if they break no limit. -/
theorem validate_eq_ok_iff {present : String → Bool} {settings : Settings} :
    settings.validate present = .ok () ↔ settings.violations present = [] := by
  rw [validate]
  split
  · rename_i clean
    exact iff_of_true rfl clean
  · rename_i refused
    exact iff_of_false nofun refused

end Settings

end SecurityKey
