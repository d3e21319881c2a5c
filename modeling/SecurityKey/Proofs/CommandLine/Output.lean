import SecurityKey.CommandLine.Program
import SecurityKey.Proofs.CommandLine.Requests
import SecurityKey.Proofs.Mnemonic.Inverse
import SecurityKey.Proofs.Session.SecretLength

/-!
# What goes out

A derivation can fail before its session has given a secret, but not behind it: every secret has
32 bytes or 64, whatever the scheme (`Session.length_of_run`), so that it can be cut to any length
that a phrase can be asked for, and the phrase can be written (`Arguments.releases_output`).

Hence a derivation gives bytes exactly if the user has answered, a link has been attached and the
session has given a secret (`Arguments.Completes`), and what it gives then is fixed by the options
but for the words of a phrase, which are read again as the secret that was cut
(`Arguments.Releases`).  `output_all_or_nothing` says this of the whole program.
-/

set_option autoImplicit false

namespace SecurityKey

/-! ## Secrets of a run -/

/-- Every secret that a run gives has the length of one of the schemes. -/
theorem Session.length_of_run {σ π : Type} [FiniteLink σ] [Prompt π] {hash : HashFunction}
    {mode : Mode} {channel : Channel σ} {prompt : π} {info : HostInfo} {secret : DerivedSecret}
    {next : Session σ π} (ran : run hash mode (start channel prompt info) = .ok secret next) :
    ∃ scheme : Mode, secret.bytes.length = scheme.secretLength := by
  obtain ⟨_, _, scheme, _, _, _, length, _⟩ := secretLength_iff_of_run ran
  exact ⟨scheme, length⟩

/-- Entropy of any length that a phrase is written for can be cut from a secret of any scheme. -/
theorem DerivedSecret.truncate_of_mem {secret : DerivedSecret} {scheme : Mode}
    (whole : secret.bytes.length = scheme.secretLength) {length : Nat}
    (admitted : length ∈ Mnemonic.entropyLengths) :
    secret.truncate length = .ok ⟨secret.bytes.take length⟩ ∧
      (secret.bytes.take length).length = length := by
  have shortest : 32 ≤ secret.bytes.length := by
    rw [whole]
    cases scheme <;> decide
  have cut : length ∈ lengths ∧ length ≤ 32 := by
    simp only [Mnemonic.entropyLengths, List.mem_cons, List.not_mem_nil, or_false] at admitted
    rcases admitted with rfl | rfl | rfl <;> decide
  have short := Nat.le_trans cut.2 shortest
  exact ⟨if_pos ⟨cut.1, short⟩, List.length_take_of_le short⟩

namespace CommandLine

/-! ## Bytes that are released -/

/-- What the user is asked for is what the options want. -/
structure Arguments.Wants (arguments : Arguments) (credentials : Credentials) : Prop where
  current : credentials.current.isSome = arguments.existing
  mixedIn : credentials.mixedIn.isSome = arguments.password

/-- What a text of the user adds to what goes out: the text and what it is written with, if it is
wanted, and nothing otherwise. -/
inductive Mixes (ending : Bytes) : Bool → Option String → Bytes → Prop
  | unwanted : Mixes ending false none []
  | wanted (text : String) : Mixes ending true (some text) (Bytes.ofText text ++ ending)

theorem mixes_lineOf {wanted : Bool} {text : Option String} (fits : text.isSome = wanted) :
    Mixes [10] wanted text (lineOf text) := by
  subst fits
  cases text with
  | none => exact .unwanted
  | some text => exact .wanted text

theorem mixes_bytesOf {wanted : Bool} {text : Option String} (fits : text.isSome = wanted) :
    Mixes [] wanted text (bytesOf text) := by
  subst fits
  cases text with
  | none => exact .unwanted
  | some text =>
      have added : Mixes [] true (some text) (Bytes.ofText text ++ []) := .wanted text
      rw [List.append_nil] at added
      exact added

/-- What goes out for a secret: the current password and a newline if it is wanted, the secret and
the local passphrase if it is wanted, or a line with a phrase that is read as the first bytes of
the secret. -/
inductive Arguments.Releases (hash : HashFunction) (arguments : Arguments)
    (credentials : Credentials) (secret : DerivedSecret) : Bytes → Prop
  | plain {line tail : Bytes} (unasked : arguments.mnemonic = none)
      (current : Mixes [10] arguments.existing credentials.current line)
      (mixedIn : Mixes [] arguments.password credentials.mixedIn tail) :
      Releases hash arguments credentials secret (line ++ secret.bytes ++ tail)
  | phrase {length : Nat} {phrase : String} (asked : arguments.mnemonic = some length)
      (whole : (secret.bytes.take length).length = length)
      (read : Mnemonic.decode hash phrase = .ok (secret.bytes.take length)) :
      Releases hash arguments credentials secret (Bytes.ofText phrase ++ [10])

/-- A secret is asked for exactly if it is wanted. -/
theorem isSome_of_askIf {π : Type} [Prompt π] {wanted confirm : Bool} {message : String}
    {before after : π} {answer : Option String}
    (asked : askIf wanted message confirm before = .ok answer after) :
    answer.isSome = wanted := by
  cases wanted with
  | false =>
      cases asked
      rfl
  | true =>
      have told : (some <$> Prompt.secret message confirm : EStateM Error π _) before =
        .ok answer after := asked
      obtain ⟨text, _, rfl⟩ := run_map_eq_ok.mp told
      rfl

theorem Arguments.wants_of_askCredentials {π : Type} [Prompt π] {arguments : Arguments}
    {before after : π} {credentials : Credentials}
    (asked : arguments.askCredentials before = .ok credentials after) :
    arguments.Wants credentials := by
  obtain ⟨current, middle, first, others⟩ := run_bind_eq_ok.mp asked
  obtain ⟨mixedIn, last, second, made⟩ := run_bind_eq_ok.mp others
  cases made
  exact ⟨isSome_of_askIf first, isSome_of_askIf second⟩

/-- Once there is a secret, something goes out. -/
theorem Arguments.releases_output (hash : HashFunction) {arguments : Arguments}
    (clear : arguments.Clear) {credentials : Credentials} (wants : arguments.Wants credentials)
    {secret : DerivedSecret} {scheme : Mode}
    (whole : secret.bytes.length = scheme.secretLength) :
    ∃ bytes, arguments.output hash credentials secret = .ok bytes ∧
      arguments.Releases hash credentials secret bytes := by
  cases asked : arguments.mnemonic with
  | none =>
      refine ⟨_, ?_, .plain asked (mixes_lineOf wants.current) (mixes_bytesOf wants.mixedIn)⟩
      rw [output, asked]
      rfl
  | some length =>
      obtain ⟨cut, size⟩ := DerivedSecret.truncate_of_mem whole (clear.length length asked)
      have admitted : (secret.bytes.take length).length ∈ Mnemonic.entropyLengths := by
        rw [size]
        exact clear.length length asked
      obtain ⟨phrase, written⟩ : ∃ phrase,
          Mnemonic.encode hash (secret.bytes.take length) = .ok phrase :=
        ⟨_, Mnemonic.encode_eq_ok_iff.mpr ⟨admitted, rfl⟩⟩
      -- Nothing is mixed into a phrase, so no line stands before it.
      have alone : credentials.current = none := by
        have unwanted := wants.current.trans (clear.alone (asked ▸ rfl)).1
        exact Option.isNone_iff_eq_none.mp (Option.isSome_eq_false_iff.mp unwanted)
      refine ⟨_, ?_, .phrase asked size (Mnemonic.decode_eq_ok_iff_wordsOf.mpr
        ⟨admitted, Mnemonic.words_of_encode written⟩)⟩
      rw [output, asked]
      dsimp only
      rw [cut, alone]
      exact bind_eq_ok.mpr ⟨_, rfl, bind_eq_ok.mpr ⟨phrase, written, rfl⟩⟩

/-! ## Endings -/

/-- How the program ends when its derivation has come to a result. -/
def Ending.ofDerivation {σ π : Type} : EStateM.Result Halt (Derivation σ π) Bytes → Ending
  | .ok bytes _ => .answered bytes
  | .error halt _ => .halted halt

/-- The program gives nothing unless it succeeds, and then it gives what is to be released. -/
structure Ending.AllOrNothing (ending : Ending) (released : Bytes → Prop) : Prop where
  nothing : ending.exitCode ≠ 0 → ending.output = []
  all : ending.exitCode = 0 → released ending.output

theorem Ending.allOrNothing_halted (halt : Halt) (released : Bytes → Prop) :
    (Ending.halted halt).AllOrNothing released :=
  ⟨fun _ => rfl, fun success => absurd success Nat.one_ne_zero⟩

/-! ## Derivations -/

section Derive

variable {σ π : Type} [FiniteLink σ] [Prompt π] {hash : HashFunction} {arguments : Arguments}
  {settings : Settings} {attach : EStateM Error Log.Journal σ} {start : Derivation σ π}

/-- The steps of a derivation that can fail have succeeded: the user has answered, a link has been
attached and the session over it has given a secret. -/
inductive Arguments.Completes (hash : HashFunction) (arguments : Arguments) (settings : Settings)
    (attach : EStateM Error Log.Journal σ) (start : Derivation σ π) :
    Credentials → DerivedSecret → Prop
  | intro {credentials : Credentials} {secret : DerivedSecret} {prompt : π} {link : σ}
      {journal : Log.Journal} {session : Session σ π}
      (asked : arguments.askCredentials start.prompt = .ok credentials prompt)
      (attached : attach start.journal = .ok link journal)
      (ran : Session.run hash settings.device.mode
        (Session.start (Channel.ofLink link settings.device.writeTimeout.toNat
          settings.device.readDeadline) prompt settings.identity.hostInfo) = .ok secret session) :
      Completes hash arguments settings attach start credentials secret

/-- A derivation that has completed gives bytes. -/
theorem Arguments.derive_of_completes (clear : arguments.Clear) {credentials : Credentials}
    {secret : DerivedSecret}
    (completes : arguments.Completes hash settings attach start credentials secret) :
    ∃ bytes, (∃ left, arguments.derive hash settings attach start = .ok bytes left) ∧
      arguments.Releases hash credentials secret bytes := by
  cases completes with
  | intro asked attached ran =>
      obtain ⟨scheme, whole⟩ := Session.length_of_run ran
      obtain ⟨bytes, made, releases⟩ :=
        releases_output hash clear (wants_of_askCredentials asked) whole
      refine ⟨bytes, ?_, releases⟩
      rw [derive]
      simp only [asked, attached, ran, made]
      exact ⟨_, rfl⟩

/-- A derivation that gives bytes has completed. -/
theorem Arguments.completes_of_derive {bytes : Bytes} {left : Derivation σ π}
    (derived : arguments.derive hash settings attach start = .ok bytes left) :
    ∃ credentials secret, arguments.Completes hash settings attach start credentials secret := by
  rw [derive] at derived
  split at derived
  · cases derived
  · rename_i credentials prompt asked
    split at derived
    · cases derived
    · rename_i link journal attached
      dsimp only at derived
      split at derived
      · cases derived
      · rename_i secret session ran
        exact ⟨credentials, secret, .intro asked attached ran⟩

/-- Wherever a derivation would write, it gives all of what it has to release or nothing. -/
theorem Arguments.allOrNothing_deriveTo (clear : arguments.Clear) (terminal : Bool)
    (hash : HashFunction) (settings : Settings) (attach : EStateM Error Log.Journal σ)
    (start : Derivation σ π) :
    (Ending.ofDerivation (arguments.deriveTo terminal hash settings attach start)).AllOrNothing
      fun bytes => ∃ credentials secret,
        arguments.Completes hash settings attach start credentials secret ∧
        arguments.Releases hash credentials secret bytes := by
  rw [deriveTo]
  cases arguments.checkTerminal terminal with
  | error error => exact Ending.allOrNothing_halted _ _
  | ok _ =>
      dsimp only
      cases derived : arguments.derive hash settings attach start with
      | error halt left => exact Ending.allOrNothing_halted _ _
      | ok bytes left =>
          refine ⟨fun failed => absurd rfl failed, fun _ => ?_⟩
          obtain ⟨credentials, secret, completes⟩ := completes_of_derive derived
          obtain ⟨other, ⟨_, same⟩, releases⟩ := derive_of_completes clear completes
          cases derived.symm.trans same
          exact ⟨credentials, secret, completes, releases⟩

end Derive

/-! ## The program -/

/-- How the program attaches the device of its settings. -/
def attachment (settings : Settings) (surroundings : Surroundings) (disk : Disk) :
    EStateM Error Log.Journal FileLink :=
  attach settings.device.path (disk.openDevice settings.device.path) settings.device.reportId
    (inputLines surroundings.input)

/-- What a derivation of the program begins with. -/
def unattached : Derivation FileLink ClosedPrompt := ⟨none, .closed, []⟩

/-- The program ends as its derivation does, which writes to no terminal. -/
theorem ending_perform (hash : HashFunction) (arguments : Arguments) (settings : Settings)
    (surroundings : Surroundings) (disk : Disk) :
    (arguments.perform hash settings surroundings disk).ending =
      .ofDerivation (arguments.deriveTo false hash settings
        (attachment settings surroundings disk) unattached) := by
  have same : arguments.deriveTo false hash settings (attach settings.device.path
      (disk.openDevice settings.device.path) settings.device.reportId
      (inputLines surroundings.input)) ⟨none, .closed, []⟩ =
        arguments.deriveTo false hash settings (attachment settings surroundings disk)
          unattached := rfl
  rw [Arguments.perform, same]
  cases arguments.deriveTo false hash settings (attachment settings surroundings disk)
      unattached with
  | ok bytes left => rfl
  | error halt left => cases halt <;> rfl

/-- A command line that asks for a derivation releases its output all or nothing, whatever its
words are.

* Whatever the settings, the prompt and the device are, and wherever the bytes would go: nothing
  goes out unless the derivation succeeds, and then the user has answered, the session has given
  a secret, and what goes out is what the options want of these.
* Once the session has given a secret nothing fails any more, if the bytes may be shown.
* The whole program is such a derivation, with the settings that hold and the log opened: if
  it succeeds, all this has been done, and if all this can be done, it succeeds. -/
theorem output_all_or_nothing (hash : HashFunction) (words : List String) (arguments : Arguments)
    (asks : Request.parse words = .ok (.derive arguments)) :
    (∀ {σ π : Type} [FiniteLink σ] [Prompt π] (terminal : Bool) (settings : Settings)
        (attach : EStateM Error Log.Journal σ) (start : Derivation σ π),
      (Ending.ofDerivation (arguments.deriveTo terminal hash settings attach start)).AllOrNothing
        (fun bytes => ∃ credentials secret,
          arguments.Completes hash settings attach start credentials secret ∧
          arguments.Releases hash credentials secret bytes) ∧
      (∀ credentials secret, arguments.checkTerminal terminal = .ok () →
        arguments.Completes hash settings attach start credentials secret →
        ∃ bytes, (∃ left, arguments.deriveTo terminal hash settings attach start = .ok bytes left) ∧
          arguments.Releases hash credentials secret bytes)) ∧
    (∀ surroundings : Surroundings,
      (run hash words surroundings).ending.AllOrNothing
        (fun bytes => ∃ settings disk credentials secret,
          arguments.settings surroundings.environment surroundings.disk.has
            (arguments.baseSettings surroundings.disk) = .ok settings ∧
          openLog settings.logging surroundings.disk = .ok disk ∧
          arguments.Completes hash settings (attachment settings surroundings disk) unattached
            credentials secret ∧
          arguments.Releases hash credentials secret bytes) ∧
      (∀ settings disk credentials secret,
        arguments.settings surroundings.environment surroundings.disk.has
          (arguments.baseSettings surroundings.disk) = .ok settings →
        openLog settings.logging surroundings.disk = .ok disk →
        arguments.Completes hash settings (attachment settings surroundings disk) unattached
          credentials secret →
        ∃ bytes, (run hash words surroundings).ending = .answered bytes ∧
          arguments.Releases hash credentials secret bytes)) := by
  have clear := Arguments.clear_of_parse asks
  refine ⟨fun terminal settings attach start => ⟨?_, ?_⟩, fun surroundings => ⟨?_, ?_⟩⟩
  · exact Arguments.allOrNothing_deriveTo clear terminal hash settings attach start
  · intro credentials secret shown completes
    rw [Arguments.deriveTo, shown]
    exact Arguments.derive_of_completes clear completes
  · simp only [run, asks]
    split
    · exact Ending.allOrNothing_halted _ _
    · rename_i settings held
      split
      · exact Ending.allOrNothing_halted _ _
      · rename_i disk opened
        rw [ending_perform]
        obtain ⟨nothing, all⟩ := Arguments.allOrNothing_deriveTo clear false hash settings
          (attachment settings surroundings disk) unattached
        refine ⟨nothing, fun success => ?_⟩
        obtain ⟨credentials, secret, completes, releases⟩ := all success
        exact ⟨settings, disk, credentials, secret, held, opened, completes, releases⟩
  · intro settings disk credentials secret held opened completes
    obtain ⟨bytes, ⟨left, derived⟩, releases⟩ := Arguments.derive_of_completes clear completes
    refine ⟨bytes, ?_, releases⟩
    simp only [run, asks, held, opened]
    -- The program writes to no terminal, so nothing that it has derived is held back.
    have shown : arguments.checkTerminal false = .ok () := rfl
    rw [ending_perform, Arguments.deriveTo, shown, derived]
    rfl

/-- The options for a phrase of 18 words in the legacy scheme. -/
def phraseArguments : Arguments :=
  ⟨"vault", none, none, false, false, true, none, none, some 24⟩

/-- A device that answers the start with its features and the request with a signature. -/
def signingDevice : MemoryLink :=
  .ofReactions [.ok [⟨MessageKind.features.id, []⟩], .ok [Session.someSignature]]

/-- A derivation with nobody to ask. -/
def unattended : Derivation MemoryLink ScriptedPrompt := ⟨none, .ofAnswers [], []⟩

/-- A phrase may go to a terminal, and is read as the first 24 bytes of the signature. -/
theorem output_all_or_nothing_of_phrase :
    Request.parse ["-l", "-t", "vault", "--mnemonic", "24"] = .ok (.derive phraseArguments) ∧
      ∃ phrase left,
        phraseArguments.deriveTo true Digest.sha256 (phraseArguments.override .default)
          (pure signingDevice) unattended = .ok (Bytes.ofText phrase ++ [10]) left ∧
        Mnemonic.decode Digest.sha256 phrase = .ok (List.replicate 24 7) := by
  have asks : Request.parse ["-l", "-t", "vault", "--mnemonic", "24"] =
      .ok (.derive phraseArguments) := by decide +kernel
  let settings := phraseArguments.override .default
  let session := Session.start (Channel.ofLink signingDevice settings.device.writeTimeout.toNat
    settings.device.readDeadline) unattended.prompt settings.identity.hostInfo
  have given : (outcome (Session.run Digest.sha256 settings.device.mode session)).toOption =
      some ⟨List.replicate 64 7⟩ := by decide +kernel
  cases ran : Session.run Digest.sha256 settings.device.mode session with
  | error halt next =>
      rw [ran] at given
      cases given
  | ok secret next =>
      rw [ran] at given
      cases given
      have completes : phraseArguments.Completes Digest.sha256 settings (pure signingDevice)
          unattended ⟨none, none⟩ ⟨List.replicate 64 7⟩ := .intro rfl rfl ran
      obtain ⟨bytes, ⟨left, derived⟩, releases⟩ :=
        ((output_all_or_nothing Digest.sha256 _ phraseArguments asks).1 true settings
          (pure signingDevice) unattended).2 _ _ rfl completes
      cases releases with
      | plain unasked => cases unasked
      | phrase asked whole read =>
          cases asked
          exact ⟨asks, _, left, derived, read⟩

end CommandLine
end SecurityKey
