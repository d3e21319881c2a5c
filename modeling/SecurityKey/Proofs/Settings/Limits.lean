import Mathlib.Logic.Basic
import SecurityKey.Settings.Validity

/-!
# The documented limits

The settings have eight documented limits, and `Limit.Holds` says what each of them asks.  What
is reported about settings is at most one violation for each limit, in the order of the limits
(`Settings.violations_eq`).

Two limits are not looked at as they are documented.  The write timeout is compared with its
maximum in whole seconds, so a timeout that is less than a second above it passes.  The
length of the name of the application is counted in bytes, so a name of few characters that
take many bytes is refused.  `Limit.Blurred` says for which settings this makes a difference:
there, and nowhere else, is a limit reported although it holds, or not reported although it is
broken (`Settings.violations_of_limits`).
-/

set_option autoImplicit false

namespace SecurityKey

/-! ## Texts -/

theorem length_le_utf8ByteSize (text : String) : text.length ≤ text.utf8ByteSize := by
  induction text using String.push_induction with
  | empty => exact Nat.le_refl 0
  | push text char hypothesis =>
      have positive := char.utf8Size_pos
      rw [String.length_push, String.utf8ByteSize_push]
      omega

/-! ## Limits -/

/-- A documented limit of the settings. -/
inductive Limit where
  | devicePath
  | writeTimeout
  | readTimeout
  | appName
  | user
  | host
  | logLevel
  | logDirectory
  deriving DecidableEq, Repr

/-- The limit that a violation is about. -/
def Violation.limit : Violation → Limit
  | .devicePathEmpty => .devicePath
  | .writeTimeoutShort | .writeTimeoutLong => .writeTimeout
  | .readTimeoutShort => .readTimeout
  | .appNameEmpty | .appNameLong _ => .appName
  | .locatorDelimiter .user _ => .user
  | .locatorDelimiter .host _ => .host
  | .unknownLogLevel _ => .logLevel
  | .logDirectoryMissing _ => .logDirectory

namespace Limit

/-- All limits, in the order in which they are looked at. -/
def all : List Limit :=
  [.devicePath, .writeTimeout, .readTimeout, .appName, .user, .host, .logLevel, .logDirectory]

theorem mem_all (limit : Limit) : limit ∈ all := by
  cases limit <;> simp [all]

/-! ## What the limits ask -/

/-- Whether settings are within a limit, as it is documented. -/
def Holds (present : String → Bool) (settings : Settings) : Limit → Prop
  | .devicePath => settings.device.path ≠ ""
  | .writeTimeout =>
      10 ≤ settings.device.writeTimeout.toNat ∧ settings.device.writeTimeout.toNat ≤ 60000
  | .readTimeout =>
      settings.device.readTimeout.toNat = 0 ∨ 5000 ≤ settings.device.readTimeout.toNat
  | .appName => 1 ≤ settings.identity.app.length ∧ settings.identity.app.length ≤ 64
  | .user => '@' ∉ settings.identity.user.toList ∧ '/' ∉ settings.identity.user.toList
  | .host => '@' ∉ settings.identity.host.toList ∧ '/' ∉ settings.identity.host.toList
  | .logLevel => settings.logging.level.toLower ∈ logLevels
  | .logDirectory =>
      ∀ directory ∈ settings.logging.file.bind Path.parent,
        directory = "" ∨ present directory = true

instance (present : String → Bool) (settings : Settings) :
    (limit : Limit) → Decidable (limit.Holds present settings)
  | .devicePath => inferInstanceAs (Decidable (_ ≠ _))
  | .writeTimeout | .appName | .user | .host => inferInstanceAs (Decidable (_ ∧ _))
  | .readTimeout => inferInstanceAs (Decidable (_ ∨ _))
  | .logLevel => inferInstanceAs (Decidable (_ ∈ _))
  | .logDirectory => inferInstanceAs (Decidable (∀ directory ∈ _, _ ∨ _))

/-- Whether settings are so close to a limit that it is not looked at as it is documented. -/
def Blurred (settings : Settings) : Limit → Prop
  | .writeTimeout =>
      60000 < settings.device.writeTimeout.toNat ∧ settings.device.writeTimeout.toNat < 61000
  | .appName => settings.identity.app.length ≤ 64 ∧ 64 < settings.identity.app.utf8ByteSize
  | _ => False

/-! ## What is reported -/

/-- The violation that is reported for a limit, if there is one. -/
def report (present : String → Bool) (settings : Settings) : Limit → Option Violation
  | .devicePath => if settings.device.path.isEmpty then some .devicePathEmpty else none
  | .writeTimeout =>
      if settings.device.writeTimeout < 10 then
        some .writeTimeoutShort
      else if 61000 ≤ settings.device.writeTimeout then
        some .writeTimeoutLong
      else
        none
  | .readTimeout =>
      if settings.device.readTimeout != 0 && settings.device.readTimeout < 5000 then
        some .readTimeoutShort
      else
        none
  | .appName =>
      if settings.identity.app.isEmpty then
        some .appNameEmpty
      else if 64 < settings.identity.app.utf8ByteSize then
        some (.appNameLong settings.identity.app.utf8ByteSize)
      else
        none
  | .user =>
      if hasDelimiter settings.identity.user then
        some (.locatorDelimiter .user settings.identity.user)
      else
        none
  | .host =>
      if hasDelimiter settings.identity.host then
        some (.locatorDelimiter .host settings.identity.host)
      else
        none
  | .logLevel =>
      if !logLevels.contains settings.logging.level.toLower then
        some (.unknownLogLevel settings.logging.level)
      else
        none
  | .logDirectory =>
      if settings.logging.directory.any fun directory => !present directory then
        some (.logDirectoryMissing (settings.logging.directory.getD ""))
      else
        none

variable {present : String → Bool} {settings : Settings} {limit : Limit}

/-- What is reported for a limit is about this limit. -/
theorem limit_of_report {violation : Violation}
    (reported : limit.report present settings = some violation) : violation.limit = limit := by
  cases limit <;> simp only [report] at reported <;> grind [Violation.limit]

/-! ## Where what is reported is what is documented -/

theorem ite_none_eq_none_iff {condition : Prop} [Decidable condition] {violation : Violation} :
    (if condition then some violation else none) = none ↔ ¬condition := by
  split
  · rename_i holds
    exact iff_of_false nofun (not_not_intro holds)
  · rename_i lacks
    exact iff_of_true rfl lacks

theorem ite_ite_eq_none_iff {first second : Prop} [Decidable first] [Decidable second]
    {violation other : Violation} :
    (if first then some violation else if second then some other else none) = none ↔
      ¬first ∧ ¬second := by
  by_cases holds : first
  · rw [if_pos holds]
    exact iff_of_false nofun fun both => both.1 holds
  · rw [if_neg holds, ite_none_eq_none_iff]
    exact (and_iff_right holds).symm

theorem writeTimeout_unreported_iff : report present settings .writeTimeout = none ↔
    10 ≤ settings.device.writeTimeout.toNat ∧ settings.device.writeTimeout.toNat < 61000 := by
  rw [report, ite_ite_eq_none_iff, UInt64.not_lt, UInt64.not_le, UInt64.le_iff_toNat_le,
    UInt64.lt_iff_toNat_lt]
  rfl

theorem readTimeout_unreported_iff :
    report present settings .readTimeout = none ↔ Holds present settings .readTimeout := by
  have zero : settings.device.readTimeout = 0 ↔ settings.device.readTimeout.toNat = 0 :=
    UInt64.toNat_inj.symm
  have less : settings.device.readTimeout < 5000 ↔ settings.device.readTimeout.toNat < 5000 :=
    UInt64.lt_iff_toNat_lt
  rw [report, ite_none_eq_none_iff, Bool.and_eq_true, bne_iff_ne, decide_eq_true_iff, Ne, zero,
    less, Holds]
  omega

theorem appName_unreported_iff : report present settings .appName = none ↔
    1 ≤ settings.identity.app.length ∧ settings.identity.app.utf8ByteSize ≤ 64 := by
  rw [report, ite_ite_eq_none_iff, String.isEmpty_iff, ← String.length_eq_zero_iff, Nat.not_lt,
    Nat.one_le_iff_ne_zero]

theorem logDirectory_unreported_iff :
    report present settings .logDirectory = none ↔ Holds present settings .logDirectory := by
  rw [report, ite_none_eq_none_iff, LogSettings.directory, Holds]
  cases settings.logging.file.bind Path.parent with
  | none => simp
  | some directory =>
      by_cases empty : directory = ""
      · simp [empty]
      · simp [empty, Option.filter]

/-- A limit is reported just when it is broken, unless it is not looked at as it is documented. -/
theorem report_eq_none_iff (clear : ¬limit.Blurred settings) :
    limit.report present settings = none ↔ limit.Holds present settings := by
  cases limit with
  | devicePath => rw [report, ite_none_eq_none_iff, String.isEmpty_iff, Holds]
  | writeTimeout =>
      have apart : ¬(60000 < settings.device.writeTimeout.toNat ∧
        settings.device.writeTimeout.toNat < 61000) := clear
      rw [writeTimeout_unreported_iff, Holds]
      omega
  | readTimeout => exact readTimeout_unreported_iff
  | appName =>
      have apart : ¬(settings.identity.app.length ≤ 64 ∧
        64 < settings.identity.app.utf8ByteSize) := clear
      have within := length_le_utf8ByteSize settings.identity.app
      rw [appName_unreported_iff, Holds]
      omega
  | user | host =>
      rw [report, ite_none_eq_none_iff, Bool.not_eq_true, hasDelimiter_eq_false_iff, Holds]
  | logLevel =>
      rw [report, ite_none_eq_none_iff, Bool.not_eq_true', Bool.not_eq_false, List.contains_iff_mem,
        Holds]
  | logDirectory => exact logDirectory_unreported_iff

/-- There, it is reported just when it holds. -/
theorem report_eq_none_iff_of_blurred (blurred : limit.Blurred settings) :
    limit.report present settings = none ↔ ¬limit.Holds present settings := by
  cases limit with
  | writeTimeout =>
      obtain ⟨above, below⟩ := blurred
      rw [writeTimeout_unreported_iff, Holds]
      omega
  | appName =>
      obtain ⟨few, many⟩ := blurred
      have filled : settings.identity.app.length ≠ 0 := by
        intro empty
        rw [String.length_eq_zero_iff] at empty
        rw [empty] at many
        cases many
      rw [appName_unreported_iff, Holds]
      omega
  | devicePath | readTimeout | user | host | logLevel | logDirectory => exact blurred.elim

theorem report_iff_holds_iff : ((limit.report present settings ≠ none ↔
    ¬limit.Holds present settings) ↔ ¬limit.Blurred settings) := by
  constructor
  · intro same blurred
    have other : limit.report present settings = none ↔ ¬limit.Holds present settings :=
      report_eq_none_iff_of_blurred blurred
    exact iff_not_self ((not_iff_not.mp same).symm.trans other)
  · intro clear
    exact not_congr (report_eq_none_iff clear)

end Limit

/-! ## All violations -/

namespace Settings

open Limit

theorem filterMap_cons_toList {α β : Type} (function : α → Option β) (first : α)
    (others : List α) :
    (first :: others).filterMap function =
      (function first).toList ++ others.filterMap function := by
  rw [List.filterMap_cons]
  cases function first with
  | none => rfl
  | some result => rfl

/-- Of two conditions that never hold together at most one is reported. -/
theorem toList_append_of_apart {first second : Prop} [Decidable first] [Decidable second]
    (apart : first → ¬second) (violation other : Violation) (rest : List Violation) :
    (if first then some violation else none).toList ++
        ((if second then some other else none).toList ++ rest) =
      (if first then some violation else if second then some other else none).toList ++ rest := by
  by_cases holds : first
  · rw [if_pos holds, if_pos holds, if_neg (apart holds)]
    rfl
  · rw [if_neg holds, if_neg holds]
    rfl

variable (present : String → Bool) (settings : Settings)

theorem device_violations_eq : settings.device.violations =
    [.devicePath, .writeTimeout, .readTimeout].filterMap (report present settings) := by
  have apart : settings.device.writeTimeout < 10 → ¬61000 ≤ settings.device.writeTimeout := by
    rw [UInt64.lt_iff_toNat_lt, UInt64.le_iff_toNat_le]
    exact fun less more => absurd (Nat.lt_of_le_of_lt more less) (by decide)
  simp only [DeviceSettings.violations, broken, filterMap_cons_toList, report, decide_eq_true_eq]
  rw [toList_append_of_apart apart]
  rfl

theorem identity_violations_eq : settings.identity.violations =
    [.appName, .user, .host].filterMap (report present settings) := by
  have apart : settings.identity.app.isEmpty = true →
      ¬64 < settings.identity.app.utf8ByteSize := by
    rw [String.isEmpty_iff]
    intro empty
    rw [empty]
    exact Nat.not_lt_zero 64
  simp only [IdentitySettings.violations, broken, filterMap_cons_toList, report, decide_eq_true_eq]
  rw [toList_append_of_apart apart]
  rfl

theorem logging_violations_eq : settings.logging.violations present =
    [.logLevel, .logDirectory].filterMap (report present settings) := by
  simp only [LogSettings.violations, broken, filterMap_cons_toList, report]
  rfl

/-- What is reported about settings is what is reported for each limit. -/
theorem violations_eq : settings.violations present = all.filterMap (report present settings) := by
  rw [violations, device_violations_eq present, identity_violations_eq present,
    logging_violations_eq, ← List.filterMap_append, ← List.filterMap_append]
  rfl

theorem mem_violations_iff {limit : Limit} :
    (∃ violation ∈ settings.violations present, violation.limit = limit) ↔
      limit.report present settings ≠ none := by
  simp only [violations_eq, List.mem_filterMap]
  constructor
  · rintro ⟨violation, ⟨other, _, reported⟩, rfl⟩
    rw [limit_of_report reported, reported]
    nofun
  · intro broken
    obtain ⟨violation, reported⟩ := Option.ne_none_iff_exists'.mp broken
    exact ⟨violation, ⟨limit, mem_all limit, reported⟩, limit_of_report reported⟩

/-- **What is reported about settings.**  Settings are refused just when a violation is reported.
A limit is reported just when it is broken, except where it is not looked at as it is documented.
Settings for which there is no such limit pass just when they are within all limits, and as many
violations are reported as limits are broken. -/
theorem violations_of_limits (present : String → Bool) (settings : Settings) :
    (settings.validate present = .ok () ↔ settings.violations present = []) ∧
    (∀ limit : Limit, ((∃ violation ∈ settings.violations present, violation.limit = limit) ↔
      ¬limit.Holds present settings) ↔ ¬limit.Blurred settings) ∧
    ((∀ limit : Limit, ¬limit.Blurred settings) →
      (settings.violations present = [] ↔ ∀ limit : Limit, limit.Holds present settings) ∧
      (settings.validate present = .ok () ↔ ∀ limit : Limit, limit.Holds present settings) ∧
      (settings.violations present).length =
        (all.filter fun limit => ¬limit.Holds present settings).length) := by
  refine ⟨validate_eq_ok_iff, fun limit => ?_, fun clear => ?_⟩
  · rw [mem_violations_iff]
    exact report_iff_holds_iff
  · have within : settings.violations present = [] ↔
        ∀ limit : Limit, limit.Holds present settings := by
      rw [violations_eq, List.filterMap_eq_nil_iff]
      constructor
      · intro silent limit
        exact (report_eq_none_iff (clear limit)).mp (silent limit (mem_all limit))
      · intro holds limit _
        exact (report_eq_none_iff (clear limit)).mpr (holds limit)
    refine ⟨within, validate_eq_ok_iff.trans within, ?_⟩
    rw [violations_eq, List.length_filterMap_eq_countP, List.countP_eq_length_filter]
    refine congrArg List.length (List.filter_congr fun limit _ => ?_)
    rw [Bool.eq_iff_iff, decide_eq_true_iff, ← report_eq_none_iff (clear limit),
      Option.isSome_iff_ne_none]

/-- Settings with a name of two words, a short timeout and a level that there is not. -/
def roughSettings : Settings where
  device := { DeviceSettings.default with writeTimeout := 5 }
  identity := { IdentitySettings.default with app := "disk key" }
  logging := { LogSettings.default with level := "loud" }

theorem violations_of_rough_settings :
    (∀ limit : Limit, ¬limit.Blurred roughSettings) ∧
      roughSettings.validate (fun _ => true) ≠ .ok () ∧
      (roughSettings.violations fun _ => true).length = 2 := by
  have clear : ∀ limit : Limit, ¬limit.Blurred roughSettings := by
    intro limit blurred
    cases limit with
    | writeTimeout => exact absurd blurred.1 (by decide)
    | appName => exact absurd blurred.2 (by decide +kernel)
    | devicePath | readTimeout | user | host | logLevel | logDirectory => exact blurred
  obtain ⟨_, _, precise⟩ := violations_of_limits (fun _ => true) roughSettings
  obtain ⟨_, passes, count⟩ := precise clear
  refine ⟨clear, fun passed => ?_, ?_⟩
  · have short := passes.mp passed .writeTimeout
    exact absurd short (by decide)
  · rw [count]
    decide +kernel

/-- Settings with a write timeout of more than a minute. -/
def lateSettings : Settings where
  device := { DeviceSettings.default with writeTimeout := 60500 }
  identity := .default
  logging := .default

/-- Settings with a name of 33 characters that take two bytes each. -/
def accentedSettings : Settings where
  device := .default
  identity := { IdentitySettings.default with app := String.ofList (.replicate 33 'é') }
  logging := .default

/-- The timeout passes, and the name is refused. -/
theorem limits_not_as_documented :
    (lateSettings.violations (fun _ => true) = [] ∧
      lateSettings.validate (fun _ => true) = .ok () ∧
      ¬Limit.writeTimeout.Holds (fun _ => true) lateSettings) ∧
    accentedSettings.violations (fun _ => true) = [.appNameLong 66] ∧
      ∀ limit : Limit, limit.Holds (fun _ => true) accentedSettings := by
  have within : ∀ limit ∈ all, limit.Holds (fun _ => true) accentedSettings := by decide +kernel
  have passed : lateSettings.violations (fun _ => true) = [] := by decide +kernel
  refine ⟨⟨passed, validate_eq_ok_iff.mpr passed, by decide⟩, by decide +kernel, ?_⟩
  exact fun limit => within limit (mem_all limit)

end Settings
end SecurityKey
