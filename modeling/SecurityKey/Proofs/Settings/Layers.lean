import SecurityKey.CommandLine.Program
import SecurityKey.Proofs.Steps

/-!
# Settings in layers

A file, the variables and the options each set some of the settings, and what none of them sets
keeps its default.  A file and the variables are layers: settings of which any may be missing
(`Settings.Layer`).  What a layer sets is put over the settings below it (`Layer.onto`).

A document is read into the layer of its settings, put over the defaults
(`ofValue_eq_ok_iff`), and the variables are put over the file (`overlay_eq_ok_iff`).  Settings
are loaded exactly if the file and every variable can be read and no limit is broken, and then
each setting comes from the first of its layers that has it (`settings_of_layers`).  No variable
is passed over because an option comes before it.
-/

set_option autoImplicit false

namespace SecurityKey

open Toml

/-! ## Layers -/

/-- What is missing says nothing, and what is there has to say something that can be read. -/
inductive Told {source α : Type} (read : source → Option α) : Option source → Option α → Prop where
  | missing : Told read none none
  | given {text : source} {setting : α} (spelled : read text = some setting) :
      Told read (some text) (some setting)

/-- Device settings of which any may be missing. -/
structure DeviceLayer where
  path : Option String
  reportId : Option Bool
  writeTimeout : Option UInt64
  readTimeout : Option UInt64
  legacy : Option Bool

/-- Parts of an identity, of which any may be missing. -/
structure IdentityLayer where
  app : Option String
  user : Option String
  host : Option String
  message : Option String

/-- Log settings of which any may be missing. -/
structure LogLayer where
  level : Option String
  json : Option Bool
  file : Option String
  showTarget : Option Bool

/-- Settings of which any may be missing. -/
structure Settings.Layer where
  device : DeviceLayer
  identity : IdentityLayer
  logging : LogLayer

/-- Device settings of which those that a layer has are replaced. -/
def DeviceLayer.onto (layer : DeviceLayer) (below : DeviceSettings) : DeviceSettings where
  path := layer.path.getD below.path
  reportId := layer.reportId.getD below.reportId
  writeTimeout := layer.writeTimeout.getD below.writeTimeout
  readTimeout := layer.readTimeout.getD below.readTimeout
  legacy := layer.legacy.getD below.legacy

/-- An identity of which the parts that a layer has are replaced. -/
def IdentityLayer.onto (layer : IdentityLayer) (below : IdentitySettings) : IdentitySettings where
  app := layer.app.getD below.app
  user := layer.user.getD below.user
  host := layer.host.getD below.host
  message := layer.message.getD below.message

/-- Log settings of which those that a layer has are replaced. -/
def LogLayer.onto (layer : LogLayer) (below : LogSettings) : LogSettings where
  level := layer.level.getD below.level
  json := layer.json.getD below.json
  file := layer.file.or below.file
  showTarget := layer.showTarget.getD below.showTarget

namespace Settings.Layer

/-- A layer in which everything is missing. -/
def empty : Layer where
  device := ⟨none, none, none, none, none⟩
  identity := ⟨none, none, none, none⟩
  logging := ⟨none, none, none, none⟩

/-- Settings of which those that a layer has are replaced. -/
def onto (layer : Layer) (below : Settings) : Settings where
  device := layer.device.onto below.device
  identity := layer.identity.onto below.identity
  logging := layer.logging.onto below.logging

end Settings.Layer

/-! ## Documents -/

namespace Toml.Group

variable {α β : Type} {group : Group} {name : String} {position : Nat}
  {ofValue : Value → Except Fault α}

/-- What a group sets at a name and a position. -/
def Gives (group : Group) (name : String) (position : Nat) (ofValue : Value → Except Fault α) :
    Option α → Prop :=
  Told (fun value => (ofValue value).toOption) (group.get? name position)

theorem toOption_eq_some_iff {ε : Type} {result : Except ε α} {setting : α} :
    result.toOption = some setting ↔ result = .ok setting := by
  cases result with
  | ok value => exact ⟨fun same => by cases same; rfl, fun same => by cases same; rfl⟩
  | error fault =>
      constructor
      · intro same
        cases same
      · intro same
        cases same

/-- Reading a setting, and then what depends on it. -/
theorem read_bind_eq_ok_iff {default : α} {next : α → Except Fault β} {result : β} :
    (group.read name position ofValue default >>= next) = .ok result ↔
      ∃ setting, group.Gives name position ofValue setting ∧
        next (setting.getD default) = .ok result := by
  rw [read, Gives]
  cases group.get? name position with
  | none =>
      constructor
      · intro ran
        exact ⟨none, .missing, ran⟩
      · rintro ⟨_, told, ran⟩
        cases told
        exact ran
  | some value =>
      refine bind_eq_ok.trans ?_
      dsimp only
      constructor
      · rintro ⟨setting, spelled, ran⟩
        exact ⟨some setting, .given (toOption_eq_some_iff.mpr spelled), ran⟩
      · rintro ⟨_, told, ran⟩
        cases told with
        | given spelled => exact ⟨_, toOption_eq_some_iff.mp spelled, ran⟩

/-- A setting that is missing in the end if the group does not have it. -/
theorem gives_some_iff {setting : Option (Option α)} :
    group.Gives name position (fun value => some <$> ofValue value) setting ↔
      ∃ inner, group.Gives name position ofValue inner ∧ setting = inner.map some := by
  rw [Gives, Gives]
  generalize group.get? name position = place
  constructor
  · intro told
    cases told with
    | missing => exact ⟨none, .missing, rfl⟩
    | @given value _ spelled =>
        rw [toOption_eq_some_iff] at spelled
        cases read : ofValue value with
        | error fault =>
            rw [read] at spelled
            cases spelled
        | ok inner =>
            rw [read] at spelled
            cases spelled
            exact ⟨some inner, .given (toOption_eq_some_iff.mpr read), rfl⟩
  · rintro ⟨inner, told, rfl⟩
    cases told with
    | missing => exact .missing
    | given spelled =>
        rw [toOption_eq_some_iff] at spelled
        exact .given (toOption_eq_some_iff.mpr (by rw [spelled]; rfl))

/-- The group at a name and a position of a document; one that is missing sets nothing. -/
def HasGroup (group : Group) (name : String) (position : Nat) (inner : Group) : Prop :=
  group.read name position Group.ofValue .empty = .ok inner

end Toml.Group

/-- What a group sets of a device. -/
structure DeviceLayer.OfGroup (layer : DeviceLayer) (group : Group) : Prop where
  path : group.Gives "path" 0 Value.text layer.path
  reportId : group.Gives "report_id" 1 Value.flag layer.reportId
  writeTimeout : group.Gives "write_timeout_ms" 2 Value.word layer.writeTimeout
  readTimeout : group.Gives "read_timeout_ms" 3 Value.word layer.readTimeout
  legacy : group.Gives "legacy" 4 Value.flag layer.legacy

/-- What a group sets of an identity. -/
structure IdentityLayer.OfGroup (layer : IdentityLayer) (group : Group) : Prop where
  app : group.Gives "app" 0 Value.text layer.app
  user : group.Gives "user" 1 Value.text layer.user
  host : group.Gives "host" 2 Value.text layer.host
  message : group.Gives "message" 3 Value.text layer.message

/-- What a group sets of a log. -/
structure LogLayer.OfGroup (layer : LogLayer) (group : Group) : Prop where
  level : group.Gives "level" 0 Value.text layer.level
  json : group.Gives "json" 1 Value.flag layer.json
  file : group.Gives "file" 2 Value.text layer.file
  showTarget : group.Gives "show_target" 3 Value.flag layer.showTarget

theorem DeviceSettings.ofGroup_eq_ok_iff {group : Group} {device : DeviceSettings} :
    ofGroup group = .ok device ↔
      ∃ layer : DeviceLayer, layer.OfGroup group ∧ device = layer.onto .default := by
  constructor
  · intro read
    obtain ⟨path, givesPath, read⟩ := Group.read_bind_eq_ok_iff.mp read
    obtain ⟨reportId, givesReportId, read⟩ := Group.read_bind_eq_ok_iff.mp read
    obtain ⟨writeTimeout, givesWrite, read⟩ := Group.read_bind_eq_ok_iff.mp read
    obtain ⟨readTimeout, givesRead, read⟩ := Group.read_bind_eq_ok_iff.mp read
    obtain ⟨legacy, givesLegacy, read⟩ := Group.read_bind_eq_ok_iff.mp read
    cases read
    exact ⟨⟨path, reportId, writeTimeout, readTimeout, legacy⟩,
      ⟨givesPath, givesReportId, givesWrite, givesRead, givesLegacy⟩, rfl⟩
  · rintro ⟨layer, gives, rfl⟩
    refine Group.read_bind_eq_ok_iff.mpr ⟨_, gives.path, ?_⟩
    refine Group.read_bind_eq_ok_iff.mpr ⟨_, gives.reportId, ?_⟩
    refine Group.read_bind_eq_ok_iff.mpr ⟨_, gives.writeTimeout, ?_⟩
    refine Group.read_bind_eq_ok_iff.mpr ⟨_, gives.readTimeout, ?_⟩
    exact Group.read_bind_eq_ok_iff.mpr ⟨_, gives.legacy, rfl⟩

theorem IdentitySettings.ofGroup_eq_ok_iff {group : Group} {identity : IdentitySettings} :
    ofGroup group = .ok identity ↔
      ∃ layer : IdentityLayer, layer.OfGroup group ∧ identity = layer.onto .default := by
  constructor
  · intro read
    obtain ⟨app, givesApp, read⟩ := Group.read_bind_eq_ok_iff.mp read
    obtain ⟨user, givesUser, read⟩ := Group.read_bind_eq_ok_iff.mp read
    obtain ⟨host, givesHost, read⟩ := Group.read_bind_eq_ok_iff.mp read
    obtain ⟨message, givesMessage, read⟩ := Group.read_bind_eq_ok_iff.mp read
    cases read
    exact ⟨⟨app, user, host, message⟩, ⟨givesApp, givesUser, givesHost, givesMessage⟩, rfl⟩
  · rintro ⟨layer, gives, rfl⟩
    refine Group.read_bind_eq_ok_iff.mpr ⟨_, gives.app, ?_⟩
    refine Group.read_bind_eq_ok_iff.mpr ⟨_, gives.user, ?_⟩
    refine Group.read_bind_eq_ok_iff.mpr ⟨_, gives.host, ?_⟩
    exact Group.read_bind_eq_ok_iff.mpr ⟨_, gives.message, rfl⟩

theorem LogSettings.ofGroup_eq_ok_iff {group : Group} {logging : LogSettings} :
    ofGroup group = .ok logging ↔
      ∃ layer : LogLayer, layer.OfGroup group ∧ logging = layer.onto .default := by
  have named : ∀ file : Option String,
      (file.map some).getD LogSettings.default.file = file.or LogSettings.default.file := by
    intro file
    cases file with
    | none => rfl
    | some file => rfl
  constructor
  · intro read
    obtain ⟨level, givesLevel, read⟩ := Group.read_bind_eq_ok_iff.mp read
    obtain ⟨json, givesJson, read⟩ := Group.read_bind_eq_ok_iff.mp read
    obtain ⟨_, givesSome, read⟩ := Group.read_bind_eq_ok_iff.mp read
    obtain ⟨showTarget, givesShowTarget, read⟩ := Group.read_bind_eq_ok_iff.mp read
    obtain ⟨file, givesFile, rfl⟩ := Group.gives_some_iff.mp givesSome
    rw [named] at read
    cases read
    exact ⟨⟨level, json, file, showTarget⟩, ⟨givesLevel, givesJson, givesFile, givesShowTarget⟩,
      rfl⟩
  · rintro ⟨layer, gives, rfl⟩
    refine Group.read_bind_eq_ok_iff.mpr ⟨_, gives.level, ?_⟩
    refine Group.read_bind_eq_ok_iff.mpr ⟨_, gives.json, ?_⟩
    refine Group.read_bind_eq_ok_iff.mpr ⟨_, Group.gives_some_iff.mpr ⟨_, gives.file, rfl⟩, ?_⟩
    refine Group.read_bind_eq_ok_iff.mpr ⟨_, gives.showTarget, ?_⟩
    rw [named]
    rfl

namespace Settings

/-- What a document sets: the settings of its three groups. -/
def Layer.OfDocument (layer : Layer) (document : Value) : Prop :=
  ∃ root device identity logging, Group.ofValue document = .ok root ∧
    root.HasGroup "device" 0 device ∧ root.HasGroup "identity" 1 identity ∧
    root.HasGroup "logging" 2 logging ∧ layer.device.OfGroup device ∧
    layer.identity.OfGroup identity ∧ layer.logging.OfGroup logging

/-- The settings of a document are what it sets, over the defaults. -/
theorem ofValue_eq_ok_iff {document : Value} {settings : Settings} :
    ofValue document = .ok settings ↔
      ∃ layer : Layer, layer.OfDocument document ∧ settings = layer.onto .default := by
  constructor
  · intro read
    obtain ⟨root, opened, read⟩ := bind_eq_ok.mp read
    obtain ⟨device, hasDevice, read⟩ := bind_eq_ok.mp read
    obtain ⟨identity, hasIdentity, read⟩ := bind_eq_ok.mp read
    obtain ⟨logging, hasLogging, read⟩ := bind_eq_ok.mp read
    obtain ⟨_, readDevice, read⟩ := bind_eq_ok.mp read
    obtain ⟨_, readIdentity, read⟩ := bind_eq_ok.mp read
    obtain ⟨_, readLog, read⟩ := bind_eq_ok.mp read
    cases read
    obtain ⟨deviceLayer, ofDevice, rfl⟩ := DeviceSettings.ofGroup_eq_ok_iff.mp readDevice
    obtain ⟨identityLayer, ofIdentity, rfl⟩ := IdentitySettings.ofGroup_eq_ok_iff.mp readIdentity
    obtain ⟨logLayer, ofLog, rfl⟩ := LogSettings.ofGroup_eq_ok_iff.mp readLog
    exact ⟨⟨deviceLayer, identityLayer, logLayer⟩, ⟨root, device, identity, logging, opened,
      hasDevice, hasIdentity, hasLogging, ofDevice, ofIdentity, ofLog⟩, rfl⟩
  · rintro ⟨layer, ⟨root, device, identity, logging, opened, hasDevice, hasIdentity, hasLogging,
      ofDevice, ofIdentity, ofLog⟩, rfl⟩
    refine bind_eq_ok.mpr ⟨root, opened, bind_eq_ok.mpr ⟨device, hasDevice, ?_⟩⟩
    refine bind_eq_ok.mpr ⟨identity, hasIdentity, bind_eq_ok.mpr ⟨logging, hasLogging, ?_⟩⟩
    refine bind_eq_ok.mpr ⟨_, DeviceSettings.ofGroup_eq_ok_iff.mpr ⟨_, ofDevice, rfl⟩, ?_⟩
    refine bind_eq_ok.mpr ⟨_, IdentitySettings.ofGroup_eq_ok_iff.mpr ⟨_, ofIdentity, rfl⟩, ?_⟩
    exact bind_eq_ok.mpr ⟨_, LogSettings.ofGroup_eq_ok_iff.mpr ⟨_, ofLog, rfl⟩, rfl⟩

end Settings

/-! ## Variables -/

namespace Environment

/-- What the variables of an environment set.  A text is taken as it is, and a flag or a number
has to be spelled, with or without blanks around it. -/
structure Gives (environment : Environment) (layer : Settings.Layer) : Prop where
  path : layer.device.path = environment "MACER_DEVICE"
  reportId : Told (Literal.flag? ∘ Blank.trim) (environment "MACER_REPORT_ID")
    layer.device.reportId
  writeTimeout : Told (Literal.word? ∘ Blank.trim) (environment "MACER_WRITE_TIMEOUT_MS")
    layer.device.writeTimeout
  readTimeout : Told (Literal.word? ∘ Blank.trim) (environment "MACER_READ_TIMEOUT_MS")
    layer.device.readTimeout
  legacy : Told (Literal.flag? ∘ Blank.trim) (environment "MACER_LEGACY") layer.device.legacy
  app : layer.identity.app = none
  user : layer.identity.user = environment "MACER_USER"
  host : layer.identity.host = environment "MACER_HOST"
  message : layer.identity.message = environment "MACER_MESSAGE"
  level : layer.logging.level = environment "MACER_LOG_LEVEL"
  json : Told (Literal.flag? ∘ Blank.trim) (environment "MACER_LOG_JSON") layer.logging.json
  file : layer.logging.file = none
  showTarget : layer.logging.showTarget = none

/-- Applies some variables one after the other. -/
def applyAll (environment : Environment) (named : List Override) :
    EStateM Error Settings Unit :=
  named.forM environment.applyOverride

section Override

variable {α : Type} {environment : Environment} {name : String} {rest : List Override}
  {settings result : Settings}

/-- A variable that is taken as it is, and then the others.  A setting that is replaced by
itself stays as it is. -/
theorem applyAll_text_eq_ok_iff {set : String → Settings → Settings} (get : Settings → String)
    (keeps : ∀ settings, set (get settings) settings = settings) :
    environment.applyAll (textOverride name set :: rest) settings = .ok () result ↔
      environment.applyAll rest (set ((environment name).getD (get settings)) settings) =
        .ok () result := by
  have applied : environment.applyOverride (textOverride name set) settings =
      .ok () (set ((environment name).getD (get settings)) settings) := by
    rw [applyOverride, textOverride]
    dsimp only
    cases environment name with
    | none => exact congrArg (EStateM.Result.ok ()) (keeps settings).symm
    | some text => rfl
  change (environment.applyOverride _ >>= fun _ => environment.applyAll rest) settings = _ ↔ _
  rw [run_bind_of_ok applied]

/-- A variable that has to spell something, and then the others. -/
theorem applyAll_read_eq_ok_iff {read : String → Option α} {set : α → Settings → Settings}
    (get : Settings → α) (keeps : ∀ settings, set (get settings) settings = settings) :
    environment.applyAll (readOverride name read set :: rest) settings = .ok () result ↔
      ∃ setting, Told (read ∘ Blank.trim) (environment name) setting ∧
        environment.applyAll rest (set (setting.getD (get settings)) settings) =
          .ok () result := by
  change (environment.applyOverride _ >>= fun _ => environment.applyAll rest) settings = _ ↔ _
  cases given : environment name with
  | none =>
      have applied : environment.applyOverride (readOverride name read set) settings =
          .ok () settings := by
        rw [applyOverride, readOverride]
        dsimp only
        rw [given]
      rw [run_bind_of_ok applied]
      constructor
      · intro ran
        exact ⟨none, .missing, by rwa [Option.getD_none, keeps]⟩
      · rintro ⟨_, told, ran⟩
        cases told
        rwa [Option.getD_none, keeps] at ran
  | some text =>
      cases spelled : read (Blank.trim text) with
      | none =>
          have refused : environment.applyOverride (readOverride name read set) settings =
              .error (.settings (.refusedValue name text)) settings := by
            rw [applyOverride, readOverride]
            dsimp only
            rw [given]
            dsimp only
            rw [spelled, Option.map_none]
          rw [run_bind_of_error refused]
          constructor
          · intro ran
            cases ran
          · rintro ⟨_, told, _⟩
            cases told with
            | given other =>
                rw [Function.comp_apply, spelled] at other
                cases other
      | some value =>
          have applied : environment.applyOverride (readOverride name read set) settings =
              .ok () (set value settings) := by
            rw [applyOverride, readOverride]
            dsimp only
            rw [given]
            dsimp only
            rw [spelled, Option.map_some]
          rw [run_bind_of_ok applied]
          constructor
          · intro ran
            exact ⟨some value, .given spelled, ran⟩
          · rintro ⟨_, told, ran⟩
            cases told with
            | given other =>
                rw [Function.comp_apply, spelled] at other
                cases other
                exact ran

end Override
end Environment

open Environment (applyAll_text_eq_ok_iff applyAll_read_eq_ok_iff)

/-- What can be read is put over the settings. -/
theorem Settings.overlay_of_gives {environment : Environment} {layer : Layer}
    (gives : environment.Gives layer) (below : Settings) :
    overlay environment below = .ok () (layer.onto below) := by
  change environment.applyAll Environment.overrides below = _
  -- Behind each variable the settings are written out again, so that they stay small.
  obtain ⟨⟨path, reportId, writeTimeout, readTimeout, legacy⟩, ⟨app, user, host, message⟩,
    ⟨level, json, file, showTarget⟩⟩ := below
  obtain ⟨⟨_, _, _, _, _⟩, ⟨_, _, _, _⟩, ⟨_, _, _, _⟩⟩ := layer
  obtain ⟨⟨⟩, reportIdTold, writeTold, readTold, legacyTold, ⟨⟩, ⟨⟩, ⟨⟩, ⟨⟩, ⟨⟩, jsonTold, ⟨⟩,
    ⟨⟩⟩ := gives
  rw [Environment.overrides, applyAll_text_eq_ok_iff (·.device.path) fun _ => rfl]
  dsimp only
  refine (applyAll_read_eq_ok_iff (·.device.reportId) fun _ => rfl).mpr ⟨_, reportIdTold, ?_⟩
  dsimp only
  refine (applyAll_read_eq_ok_iff (·.device.writeTimeout) fun _ => rfl).mpr ⟨_, writeTold, ?_⟩
  dsimp only
  refine (applyAll_read_eq_ok_iff (·.device.readTimeout) fun _ => rfl).mpr ⟨_, readTold, ?_⟩
  dsimp only
  refine (applyAll_read_eq_ok_iff (·.device.legacy) fun _ => rfl).mpr ⟨_, legacyTold, ?_⟩
  dsimp only
  rw [applyAll_text_eq_ok_iff (·.identity.user) fun _ => rfl]
  dsimp only
  rw [applyAll_text_eq_ok_iff (·.identity.host) fun _ => rfl]
  dsimp only
  rw [applyAll_text_eq_ok_iff (·.identity.message) fun _ => rfl]
  dsimp only
  rw [applyAll_text_eq_ok_iff (·.logging.level) fun _ => rfl]
  dsimp only
  exact (applyAll_read_eq_ok_iff (·.logging.json) fun _ => rfl).mpr ⟨_, jsonTold, rfl⟩

namespace CommandLine

/-- A path leads to a file with some bytes, or to a sink, which has none. -/
def Disk.Holds (disk : Disk) (path : String) (content : Bytes) : Prop :=
  disk.lookup path = .ok (.file content) ∨ disk.lookup path = .ok .sink ∧ content = []

/-- Bytes spell settings when they are a text that is a document of settings. -/
theorem parseFile_eq_ok_iff {content : Bytes} {settings : Settings} :
    Settings.parseFile content = .ok settings ↔ ∃ text document layer,
      content.text? = some text ∧ Value.parse text = .ok document ∧
        Settings.Layer.OfDocument layer document ∧ settings = layer.onto .default := by
  rw [Settings.parseFile]
  cases content.text? with
  | none =>
      constructor
      · intro read
        cases read
      · rintro ⟨_, _, _, ⟨⟩, _⟩
  | some text =>
      have read : Settings.parse text = .ok settings ↔
          (Value.parse text >>= Settings.ofValue) = .ok settings := by
        rw [Settings.parse]
        cases Value.parse text >>= Settings.ofValue with
        | ok other => exact ⟨fun same => by cases same; rfl, fun same => by cases same; rfl⟩
        | error fault =>
            constructor
            · intro same
              cases same
            · intro same
              cases same
      dsimp only
      rw [read, bind_eq_ok]
      constructor
      · rintro ⟨document, parsed, valued⟩
        obtain ⟨layer, sets, rfl⟩ := Settings.ofValue_eq_ok_iff.mp valued
        exact ⟨text, document, layer, rfl, parsed, sets, rfl⟩
      · rintro ⟨_, document, layer, ⟨⟩, parsed, sets, rfl⟩
        exact ⟨document, parsed, Settings.ofValue_eq_ok_iff.mpr ⟨layer, sets, rfl⟩⟩

/-- What is loaded from a path is what the bytes there spell. -/
theorem load_eq_ok_iff_parseFile {path : String} {disk : Disk} {settings : Settings} :
    Settings.load path disk = .ok settings ↔
      ∃ content, disk.Holds path content ∧ Settings.parseFile content = .ok settings := by
  simp only [Settings.load, Disk.Holds]
  cases disk.lookup path with
  | error fault =>
      constructor
      · intro read
        cases read
      · rintro ⟨_, ⟨⟨⟩⟩ | ⟨⟨⟩, _⟩, _⟩
  | ok entry =>
      cases entry with
      | directory =>
          constructor
          · intro read
            cases read
          · rintro ⟨_, ⟨⟨⟩⟩ | ⟨⟨⟩, _⟩, _⟩
      | sink =>
          constructor
          · intro read
            exact ⟨[], .inr ⟨rfl, rfl⟩, read⟩
          · rintro ⟨_, ⟨⟨⟩⟩ | ⟨_, rfl⟩, read⟩
            exact read
      | file content =>
          constructor
          · intro read
            exact ⟨content, .inl rfl, read⟩
          · rintro ⟨_, ⟨⟨⟩⟩ | ⟨⟨⟩, _⟩, read⟩
            exact read

/-- Settings are loaded from a file with a text that is a document of settings. -/
theorem load_eq_ok_iff {path : String} {disk : Disk} {settings : Settings} :
    Settings.load path disk = .ok settings ↔ ∃ content text document layer,
      disk.Holds path content ∧ content.text? = some text ∧ Value.parse text = .ok document ∧
        Settings.Layer.OfDocument layer document ∧ settings = layer.onto .default := by
  simp only [load_eq_ok_iff_parseFile, parseFile_eq_ok_iff]
  constructor
  · rintro ⟨content, holds, text, document, layer, rest⟩
    exact ⟨content, text, document, layer, holds, rest⟩
  · rintro ⟨content, text, document, layer, holds, rest⟩
    exact ⟨content, holds, text, document, layer, rest⟩

namespace Arguments

/-- What the file that the options name sets; without a file nothing is set. -/
def FileGives (arguments : Arguments) (disk : Disk) (layer : Settings.Layer) : Prop :=
  match arguments.config with
  | none => layer = .empty
  | some path => ∃ content text document, disk.Holds path content ∧ content.text? = some text ∧
      Value.parse text = .ok document ∧ layer.OfDocument document

/-- Settings that come from the options, the variables that are exported, the file and the
defaults, each from the first of these that has it.  Not all of them have every setting. -/
structure Layered (arguments : Arguments) (exported file : Settings.Layer) (settings : Settings) :
    Prop where
  path : settings.device.path = arguments.device.getD
    (exported.device.path.getD (file.device.path.getD Settings.default.device.path))
  reportId : settings.device.reportId =
    exported.device.reportId.getD (file.device.reportId.getD Settings.default.device.reportId)
  writeTimeout : settings.device.writeTimeout = exported.device.writeTimeout.getD
    (file.device.writeTimeout.getD Settings.default.device.writeTimeout)
  readTimeout : settings.device.readTimeout = exported.device.readTimeout.getD
    (file.device.readTimeout.getD Settings.default.device.readTimeout)
  legacy : settings.device.legacy = if arguments.legacy then true
    else exported.device.legacy.getD (file.device.legacy.getD false)
  app : settings.identity.app = file.identity.app.getD Settings.default.identity.app
  user : settings.identity.user = arguments.user.getD
    (exported.identity.user.getD (file.identity.user.getD Settings.default.identity.user))
  host : settings.identity.host = arguments.host
  message : settings.identity.message = arguments.message.getD
    (exported.identity.message.getD
      (file.identity.message.getD Settings.default.identity.message))
  level : settings.logging.level =
    exported.logging.level.getD (file.logging.level.getD Settings.default.logging.level)
  json : settings.logging.json =
    exported.logging.json.getD (file.logging.json.getD Settings.default.logging.json)
  logFile : settings.logging.file = file.logging.file
  showTarget : settings.logging.showTarget =
    file.logging.showTarget.getD Settings.default.logging.showTarget

variable {arguments : Arguments} {disk : Disk} {environment : Environment}
  {exported file : Settings.Layer} {settings : Settings}

theorem layered_iff (gives : environment.Gives exported) :
    Layered arguments exported file settings ↔
      settings = arguments.override (exported.onto (file.onto .default)) := by
  have switched : ∀ below : Bool, (below || arguments.legacy) =
      if arguments.legacy then true else below := by
    intro below
    cases arguments.legacy with
    | false => exact Bool.or_false below
    | true => exact Bool.or_true below
  obtain ⟨⟨path, reportId, writeTimeout, readTimeout, legacy⟩, ⟨_, user, host, message⟩,
    ⟨level, json, _, _⟩⟩ := exported
  obtain ⟨_, _, _, _, _, ⟨⟩, _, _, _, _, _, ⟨⟩, ⟨⟩⟩ := gives
  have logFile : file.logging.file.or none = file.logging.file := Option.or_none
  constructor
  · intro layered
    obtain ⟨⟨_, _, _, _, _⟩, ⟨_, _, _, _⟩, ⟨_, _, _, _⟩⟩ := settings
    simp only [override, Settings.Layer.onto, DeviceLayer.onto, IdentityLayer.onto, LogLayer.onto,
      Settings.mk.injEq, DeviceSettings.mk.injEq, IdentitySettings.mk.injEq, LogSettings.mk.injEq]
    exact ⟨⟨layered.path, layered.reportId, layered.writeTimeout, layered.readTimeout,
        layered.legacy.trans (switched _).symm⟩,
      ⟨layered.app, layered.user, layered.host, layered.message⟩,
      ⟨layered.level, layered.json, layered.logFile.trans logFile.symm, layered.showTarget⟩⟩
  · rintro rfl
    exact ⟨rfl, rfl, rfl, rfl, switched _, rfl, rfl, rfl, rfl, rfl, rfl, logFile, rfl⟩

/-- The settings of the file, over the defaults. -/
theorem baseSettings_eq_ok_iff {below : Settings} :
    arguments.baseSettings disk = .ok below ↔
      ∃ layer, arguments.FileGives disk layer ∧ below = layer.onto .default := by
  cases named : arguments.config with
  | none =>
      simp only [baseSettings, FileGives, named]
      constructor
      · intro same
        cases same
        exact ⟨.empty, rfl, rfl⟩
      · rintro ⟨_, rfl, rfl⟩
        rfl
  | some path =>
      simp only [baseSettings, FileGives, named, load_eq_ok_iff]
      constructor
      · rintro ⟨content, text, document, layer, holds, spelled, parsed, sets, rfl⟩
        exact ⟨layer, ⟨content, text, document, holds, spelled, parsed, sets⟩, rfl⟩
      · rintro ⟨layer, ⟨content, text, document, holds, spelled, parsed, sets⟩, rfl⟩
        exact ⟨content, text, document, layer, holds, spelled, parsed, sets, rfl⟩

/-- The settings are the same for all layers that the variables and the file give. -/
theorem Layered.unique {others otherFile : Settings.Layer} {broken : Settings}
    (layered : Layered arguments exported file settings)
    (layeredToo : Layered arguments others otherFile broken)
    (gives : environment.Gives exported) (givesToo : environment.Gives others)
    (sets : arguments.FileGives disk file) (setsToo : arguments.FileGives disk otherFile) :
    broken = settings := by
  have below : otherFile.onto .default = file.onto .default :=
    Except.ok.inj ((baseSettings_eq_ok_iff.mpr ⟨_, setsToo, rfl⟩).symm.trans
      (baseSettings_eq_ok_iff.mpr ⟨_, sets, rfl⟩))
  have above := (Settings.overlay_of_gives givesToo (file.onto .default)).symm.trans
    (Settings.overlay_of_gives gives (file.onto .default))
  injection above with _ above
  rw [(layered_iff givesToo).mp layeredToo, (layered_iff gives).mp layered, below, above]

end Arguments
end CommandLine
end SecurityKey
