import SecurityKey.CommandLine.Arguments
import SecurityKey.CommandLine.Console
import SecurityKey.Mnemonic.Phrase
import SecurityKey.Session.Run
import SecurityKey.Settings.Environment
import SecurityKey.Settings.File
import SecurityKey.Settings.Validity

/-!
# Derivations

What a derivation from the command line does, apart from where its files and its device
come from: the settings that hold, the secrets of the user that are mixed in, the session,
and the bytes that go out.

Options override variables, variables override the settings file, and the file overrides
the defaults.  Nothing goes out before everything has succeeded.
-/

set_option autoImplicit false

namespace SecurityKey.CommandLine

/-! ## Settings -/

/-- Settings with the options of a command line. -/
def Arguments.override (arguments : Arguments) (settings : Settings) : Settings where
  device := { settings.device with
    path := arguments.device.getD settings.device.path
    legacy := settings.device.legacy || arguments.legacy }
  identity := { settings.identity with
    host := arguments.host
    user := arguments.user.getD settings.identity.user
    message := arguments.message.getD settings.identity.message }
  logging := settings.logging

/-- The settings that hold: those of the file, overridden by the variables and then by the
options, if they are valid. -/
def Arguments.settings (arguments : Arguments) (environment : Environment)
    (present : String → Bool) (base : Except Error Settings) : Except Error Settings := do
  match Settings.overlay environment (← base) with
  | .error error _ => throw error
  | .ok () settings =>
      let settings := arguments.override settings
      settings.validate present
      return settings

/-! ## Secrets of the user -/

/-- What the user adds to the output. -/
structure Credentials where
  /-- The password that is in use. -/
  current : Option String
  /-- The passphrase that is put behind the secret. -/
  mixedIn : Option String
  deriving DecidableEq, Repr

/-- Asks for a secret if it is wanted. -/
def askIf {π : Type} [Prompt π] (wanted : Bool) (message : String) (confirm : Bool) :
    EStateM Error π (Option String) := do
  if wanted then
    return some (← Prompt.secret message confirm)
  return none

/-- Asks for what the options mix in. -/
def Arguments.askCredentials {π : Type} [Prompt π] (arguments : Arguments) :
    EStateM Error π Credentials := do
  let current ← askIf arguments.existing "Enter current password" false
  let mixedIn ← askIf arguments.password "Local passphrase" arguments.existing
  return ⟨current, mixedIn⟩

/-! ## Output -/

/-- The bytes of a text that may be missing. -/
def bytesOf (text : Option String) : Bytes := (text.map Bytes.ofText).getD []

/-- A line of a text that may be missing. -/
def lineOf (text : Option String) : Bytes :=
  (text.map fun text => Bytes.ofText text ++ [10]).getD []

/-- What goes out for a secret. -/
def Arguments.output (hash : HashFunction) (arguments : Arguments) (credentials : Credentials)
    (secret : DerivedSecret) : Except Error Bytes := do
  match arguments.mnemonic with
  | some length =>
      let secret ← secret.truncate length
      let phrase ← Mnemonic.encode hash secret.bytes
      return lineOf credentials.current ++ Bytes.ofText phrase ++ [10]
  | none => return lineOf credentials.current ++ secret.bytes ++ bytesOf credentials.mixedIn

/-- Refuses to show a secret on a terminal.  A phrase may be shown. -/
def Arguments.checkTerminal (terminal : Bool) (arguments : Arguments) : Except Error Unit :=
  if terminal && arguments.mnemonic.isNone then .error (.argument .terminalOutput) else .ok ()

/-! ## The derivation -/

/-- What a derivation works with. -/
structure Derivation (σ π : Type) where
  /-- The link to the device, once there is one. -/
  link : Option σ
  prompt : π
  /-- What it has to tell so far. -/
  journal : Log.Journal

/-- What a session leaves to a derivation; what it tells is told in its span. -/
def Derivation.ofSession {σ π : Type} (mode : Mode) (before : Log.Journal)
    (session : Session σ π) : Derivation σ π where
  link := some session.channel.link
  prompt := session.prompt
  journal := before ++ session.journal.map (Log.Remark.within (mode.span session.info))

/-- Derives a secret over the link that is attached once the user has been asked; gives
what goes out.  The link is left as the session leaves it, if there is one. -/
def Arguments.derive {σ π : Type} [FiniteLink σ] [Prompt π] (hash : HashFunction)
    (arguments : Arguments) (settings : Settings) (attach : EStateM Error Log.Journal σ) :
    EStateM Halt (Derivation σ π) Bytes := fun start =>
  match arguments.askCredentials start.prompt with
  | .error error prompt => .error (.failed error) { start with prompt }
  | .ok credentials prompt =>
      match attach start.journal with
      | .error error journal => .error (.failed error) { start with prompt, journal }
      | .ok link journal =>
          let mode := settings.device.mode
          let channel := Channel.ofLink link settings.device.writeTimeout.toNat
            settings.device.readDeadline
          let session := Session.start channel prompt settings.identity.hostInfo
          match Session.run hash mode session with
          | .error halt session => .error halt (.ofSession mode journal session)
          | .ok secret session =>
              let left := Derivation.ofSession mode journal session
              match arguments.output hash credentials secret with
              | .ok bytes =>
                  let told := (arguments.mnemonic.map phraseRecord).toList.map .logged
                  .ok bytes { left with journal := left.journal ++ told }
              | .error error => .error (.failed error) left

/-- Derives a secret if what goes out may be shown where it goes. -/
def Arguments.deriveTo {σ π : Type} [FiniteLink σ] [Prompt π] (terminal : Bool)
    (hash : HashFunction) (arguments : Arguments) (settings : Settings)
    (attach : EStateM Error Log.Journal σ) :
    EStateM Halt (Derivation σ π) Bytes := fun start =>
  match arguments.checkTerminal terminal with
  | .error error => .error (.failed error) start
  | .ok () => arguments.derive hash settings attach start

end SecurityKey.CommandLine
