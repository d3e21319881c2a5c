import SecurityKey.Proofs.CommandLine.Files
import SecurityKey.Proofs.Toml.Document
import SecurityKey.Settings.Environment
import SecurityKey.Settings.Validity

/-!
# Settings that are loaded again

Every group of settings is read from the section that it is written as (the three lemmas
`ofGroup_toSection`), and the document of all sections is read as it was printed, so settings
come back from their document (`parse_printAll`) and from the file that they are saved in
(`load_of_save`).

The integers of a document have a sign.  Validity bounds the write timeout far below their
limit, but not the read timeout, which a variable may set to any number of 64 bits.  So
`save_then_load` needs that the read timeout is below the limit, and settings that do not meet
this are valid all the same (`large_readTimeout_is_not_saved`).
-/

set_option autoImplicit false

namespace SecurityKey

open CommandLine Toml

/-! ## Groups -/

theorem word_toNat (number : UInt64) : Value.word (.integer number.toNat) = .ok number := by
  rw [Value.word, if_pos (Int.natCast_nonneg _), Int.toNat_natCast, UInt64.ofNat_toNat]

/-- The group that a section describes. -/
def groupOf (part : Section) : Group :=
  ⟨fun name _ => find? name (part.entries.map fun entry => (entry.1, entry.2.value))⟩

theorem DeviceSettings.ofGroup_toSection (device : DeviceSettings) :
    ofGroup (groupOf device.toSection) = .ok device := by
  change (do
    let writeTimeout ← Value.word (.integer device.writeTimeout.toNat)
    let readTimeout ← Value.word (.integer device.readTimeout.toNat)
    return { device with writeTimeout, readTimeout }) = Except.ok device
  rw [word_toNat, word_toNat]
  rfl

theorem IdentitySettings.ofGroup_toSection (identity : IdentitySettings) :
    ofGroup (groupOf identity.toSection) = .ok identity := by
  rfl

theorem LogSettings.ofGroup_toSection (logging : LogSettings) :
    ofGroup (groupOf logging.toSection) = .ok logging := by
  obtain ⟨level, json, file, showTarget⟩ := logging
  cases file with
  | none => rfl
  | some file => rfl

theorem Settings.ofValue_toSections (settings : Settings) :
    ofValue (.table (settings.toSections.map fun part => (part.name, part.value))) =
      .ok settings := by
  change (do
    let device ← DeviceSettings.ofGroup (groupOf settings.device.toSection)
    let identity ← IdentitySettings.ofGroup (groupOf settings.identity.toSection)
    let logging ← LogSettings.ofGroup (groupOf settings.logging.toSection)
    return { device, identity, logging }) = Except.ok settings
  rw [DeviceSettings.ofGroup_toSection, IdentitySettings.ofGroup_toSection,
    LogSettings.ofGroup_toSection]
  rfl

/-! ## Documents -/

theorem fits_integer {number : UInt64} (fits : fitsDocument number) :
    (Scalar.integer number.toNat).Fits := by
  have small : number.toNat < 2 ^ 63 := of_decide_eq_true fits
  exact ⟨Int.natCast_nonneg _, by omega⟩

theorem DeviceSettings.proper_toSection {device : DeviceSettings}
    (write : fitsDocument device.writeTimeout) (read : fitsDocument device.readTimeout) :
    device.toSection.Proper where
  plain := (by decide : PlainNames "device"
    ["path", "report_id", "write_timeout_ms", "read_timeout_ms", "legacy"])
  fits := by simp [toSection, fits_integer write, fits_integer read]

theorem IdentitySettings.proper_toSection (identity : IdentitySettings) :
    identity.toSection.Proper where
  plain := (by decide : PlainNames "identity" ["app", "user", "host", "message"])
  fits := by simp [toSection]

theorem LogSettings.proper_toSection (logging : LogSettings) : logging.toSection.Proper := by
  obtain ⟨level, json, file, showTarget⟩ := logging
  cases file with
  | none =>
      have plain : PlainNames "logging" ["level", "json", "show_target"] := by decide
      exact ⟨plain, by simp [toSection]⟩
  | some file =>
      have plain : PlainNames "logging" ["level", "json", "file", "show_target"] := by decide
      exact ⟨plain, by simp [toSection]⟩

namespace Settings

variable {settings : Settings}

/-- Whether both timeouts fit into the integers of a document. -/
def Fits (settings : Settings) : Prop :=
  fitsDocument settings.device.writeTimeout ∧ fitsDocument settings.device.readTimeout

theorem proper_toSections (fits : settings.Fits) :
    ∀ part ∈ settings.toSections, part.Proper := by
  simp [toSections, DeviceSettings.proper_toSection fits.1 fits.2,
    IdentitySettings.proper_toSection, LogSettings.proper_toSection]

theorem names_toSections (settings : Settings) :
    (settings.toSections.map Section.name).Nodup := by
  change ["device", "identity", "logging"].Nodup
  decide

/-- Settings are read from the document that they are printed as. -/
theorem parse_printAll (fits : settings.Fits) :
    parse (Section.printAll settings.toSections) = .ok settings := by
  have read : (Value.parse (Section.printAll settings.toSections) >>= ofValue) = .ok settings :=
    bind_eq_ok.mpr ⟨_, Toml.parse_printAll (proper_toSections fits) settings.names_toSections,
      ofValue_toSections settings⟩
  rw [parse, read]

/-- Settings that fit are loaded from the file that they are saved in. -/
theorem load_of_save (fits : settings.Fits) {path : String} {disk : Disk}
    (writable : disk.Writable path) :
    ∃ saved, settings.save path disk = .ok saved ∧ load path saved = .ok settings := by
  obtain ⟨saved, written, found⟩ :=
    Disk.lookup_of_write writable (Bytes.ofText (Section.printAll settings.toSections))
  refine ⟨saved, bind_eq_ok.mpr ⟨Section.printAll settings.toSections, if_pos fits, ?_⟩, ?_⟩
  · rw [written]
    rfl
  · rw [load, found]
    dsimp only
    rw [parseFile, Bytes.text?_ofText]
    exact parse_printAll fits

/-- Valid settings have a write timeout that fits. -/
theorem fitsDocument_of_valid {present : String → Bool}
    (valid : settings.validate present = .ok ()) :
    fitsDocument settings.device.writeTimeout := by
  have none := validate_eq_ok_iff.mp valid
  have device : settings.device.violations = [] :=
    (List.append_eq_nil_iff.mp (List.append_eq_nil_iff.mp none).1).1
  have kept : decide (61000 ≤ settings.device.writeTimeout) = false :=
    broken_eq_nil_iff.mp device _
      (List.mem_cons_of_mem _ (List.mem_cons_of_mem _ List.mem_cons_self))
  have bound : ¬(61000 : UInt64).toNat ≤ settings.device.writeTimeout.toNat :=
    mt UInt64.le_iff_toNat_le.mpr (of_decide_eq_false kept)
  exact decide_eq_true (Nat.lt_trans (Nat.not_le.mp bound) (by decide))

/-- Valid settings are saved and loaded again unchanged if the read timeout fits into the
integers of a document; otherwise they are not saved. -/
theorem save_then_load {present : String → Bool} (valid : settings.validate present = .ok ())
    {path : String} {disk : Disk} (writable : disk.Writable path) :
    (settings.device.readTimeout.toNat < 2 ^ 63 →
      ∃ saved, settings.save path disk = .ok saved ∧ load path saved = .ok settings) ∧
    (2 ^ 63 ≤ settings.device.readTimeout.toNat →
      settings.save path disk = .error (.settings .unserializable)) := by
  constructor
  · intro small
    exact load_of_save ⟨fitsDocument_of_valid valid, decide_eq_true small⟩ writable
  · intro large
    have noDocument : settings.print = .error (.settings .unserializable) :=
      if_neg fun fits => absurd (of_decide_eq_true fits.2) (Nat.not_lt.mpr large)
    rw [save, noDocument]
    rfl

/-- Settings with the usual level are valid where all directories exist, if the rest is. -/
theorem validate_of_warn (device : settings.device.violations = [])
    (identity : settings.identity.violations = []) (level : settings.logging.level = "warn") :
    settings.validate (fun _ => true) = .ok () := by
  have lower : "warn".toLower = "warn" := String.toList_inj.mp String.toList_map
  have logging : settings.logging.violations (fun _ => true) = [] := by
    rw [LogSettings.violations, level, lower]
    cases settings.logging.directory with
    | none => rfl
    | some directory => rfl
  rw [validate, violations, device, identity, logging]
  rfl

/-- Quotes, line ends and backslashes come back. -/
theorem save_then_load_of_quotes :
    ∃ settings : Settings,
      settings.identity.message = String.ofList ['\x27', '\x22', '\n', '\\'] ∧
      settings.logging.file = some "logs/key.txt" ∧
      settings.validate (fun _ => true) = .ok () ∧ Disk.Writable "macer.toml" ⟨[], []⟩ ∧
      ∃ saved, settings.save "macer.toml" ⟨[], []⟩ = .ok saved ∧
        load "macer.toml" saved = .ok settings := by
  let settings : Settings := { Settings.default with
    identity := { IdentitySettings.default with
      message := String.ofList ['\x27', '\x22', '\n', '\\'] }
    logging := { LogSettings.default with file := some "logs/key.txt" } }
  have valid : settings.validate (fun _ => true) = .ok () := validate_of_warn rfl rfl rfl
  have writable : Disk.Writable "macer.toml" ⟨[], []⟩ := ⟨_, rfl, by decide, by decide⟩
  exact ⟨settings, rfl, rfl, valid, writable, (save_then_load valid writable).1 (by decide)⟩

/-- A variable may set a read timeout that is valid and cannot be saved. -/
theorem large_readTimeout_is_not_saved :
    ∃ base settings, parse "" = .ok base ∧
      overlay (fun name =>
          if name = "MACER_READ_TIMEOUT_MS" then some "9223372036854775808" else none) base =
        .ok () settings ∧
      settings.validate (fun _ => true) = .ok () ∧ Disk.Writable "macer.toml" ⟨[], []⟩ ∧
      settings.save "macer.toml" ⟨[], []⟩ = .error (.settings .unserializable) :=
  ⟨Settings.default, { Settings.default with
      device := { DeviceSettings.default with readTimeout := 9223372036854775808 } },
    rfl, rfl, validate_of_warn rfl rfl rfl, ⟨_, rfl, by decide, by decide⟩, rfl⟩

end Settings
end SecurityKey
