import SecurityKey.Digest
import SecurityKey.Link.Memory
import SecurityKey.Proofs.Session.History

/-!
# How long a secret is

A run of the legacy scheme is meant to give 64 bytes of a signature, and one of the modern
scheme the 32 bytes of a digest.  Both wait for their last message in the same stage, and
that stage takes the last message of either scheme, so that the device decides how long the
secret is.

`Stage.answer_finish_iff` says which messages give a secret, and
`secretLength_iff_of_runFor` when a run gives one of the length of its scheme: exactly if
the message that ended it is the last one of that scheme.  It speaks of a run that is watched for
a number of rounds, and `secretLength_iff_of_run` of the whole run over a finite link.
-/

set_option autoImplicit false

namespace SecurityKey

/-! ## Last messages -/

/-- The secret in the last message of a scheme. -/
def Mode.secretIn (hash : HashFunction) (payload : Bytes) : Mode → Except Error DerivedSecret
  | .legacy => do
      let signed ← decodeObject SignedIdentity payload
      return ⟨signed.signature.bytes.drop 1⟩
  | .modern => do
      let session ← decodeObject EcdhSessionKey payload
      return ⟨(hash (session.sessionKey.bytes.drop 1)).bytes⟩

/-- The last message of a scheme holds a secret of the length of that scheme. -/
theorem Mode.length_of_secretIn {hash : HashFunction} {payload : Bytes} {scheme : Mode}
    {secret : DerivedSecret} (readable : scheme.secretIn hash payload = .ok secret) :
    secret.bytes.length = scheme.secretLength := by
  cases scheme with
  | legacy =>
      obtain ⟨signed, _, made⟩ := bind_eq_ok.mp readable
      cases made
      have whole := signed.signature.length_bytes
      simp [whole, secretLength]
  | modern =>
      obtain ⟨session, _, made⟩ := bind_eq_ok.mp readable
      cases made
      exact (hash (session.sessionKey.bytes.drop 1)).length_bytes

theorem Mode.secretLength_inj {first second : Mode}
    (same : first.secretLength = second.secretLength) : first = second := by
  cases first <;> cases second <;> first | rfl | cases same

/-- So the length tells which scheme the last message belongs to. -/
theorem Mode.secretLength_eq_iff {hash : HashFunction} {payload : Bytes} {scheme mode : Mode}
    {secret : DerivedSecret} (readable : scheme.secretIn hash payload = .ok secret) :
    secret.bytes.length = mode.secretLength ↔ scheme = mode := by
  rw [length_of_secretIn readable]
  constructor
  · exact secretLength_inj
  · rintro rfl
    rfl

/-- An object that was read is a record that was read. -/
theorem exists_decode_of_decodeObject {Object : Type} [WireObject Object] {payload : Bytes}
    {object : Object} (readable : decodeObject Object payload = .ok object) :
    ∃ record, (WireObject.schema Object).decode payload = .ok record := by
  cases decoded : (WireObject.schema Object).decode payload with
  | ok record => exact ⟨record, rfl⟩
  | error error =>
      rw [decodeObject_of_error decoded] at readable
      cases readable

namespace Stage

variable {hash : HashFunction} {mode : Mode} {info : HostInfo}

/-- A message gives a secret exactly if the secret is awaited and the message is the last
one of a scheme, be it the scheme of the run or the other. -/
theorem answer_finish_iff {stage : Stage} {message : RawMessage} {secret : DerivedSecret} :
    stage.answer hash mode info message = .ok (.finish secret) ↔
      stage = .awaitingSecret ∧ ∃ scheme : Mode, message.id = scheme.terminal.id ∧
        scheme.secretIn hash message.payload = .ok secret := by
  constructor
  · intro answered
    have brings := brings_of_answer answered
    generalize made : Move.finish secret = move at brings
    cases brings with
    | greeting => cases mode <;> cases made
    | notice => cases made
    | request => cases made
    | peerKey => cases made
    | signature isSignature readable =>
        cases made
        refine ⟨rfl, .legacy, isSignature, ?_⟩
        rw [Mode.secretIn, readable]
        rfl
    | sharedPoint isPoint readable =>
        cases made
        refine ⟨rfl, .modern, isPoint, ?_⟩
        rw [Mode.secretIn, readable]
        rfl
  · rintro ⟨rfl, scheme, isLast, held⟩
    have known : MessageKind.ofId? message.id = some scheme.terminal := by
      rw [isLast, MessageKind.ofId?_id]
    rw [answer_known rfl known]
    cases scheme with
    | legacy =>
        obtain ⟨signed, readable, made⟩ := bind_eq_ok.mp held
        cases made
        simp only [Mode.terminal, answerKind, readable]
        rfl
    | modern =>
        obtain ⟨session, readable, made⟩ := bind_eq_ok.mp held
        cases made
        simp only [Mode.terminal, answerKind, readable]
        rfl

/-- The payload of a last message is read as one of its kind. -/
theorem decodeEvents_of_secretIn {scheme : Mode} {message : RawMessage} {secret : DerivedSecret}
    (isLast : message.id = scheme.terminal.id)
    (held : scheme.secretIn hash message.payload = .ok secret) :
    awaitingSecret.decodeEvents message =
      [.decoded .awaitingSecret scheme.terminal (.ok ())] := by
  rw [decodeEvents, isLast, MessageKind.ofId?_id]
  cases scheme with
  | legacy =>
      obtain ⟨signed, readable, _⟩ := bind_eq_ok.mp held
      obtain ⟨record, decoded⟩ := exists_decode_of_decodeObject readable
      have read : (Mode.terminal .legacy).schema.decode message.payload = .ok record := decoded
      dsimp only
      rw [read]
      rfl
  | modern =>
      obtain ⟨session, readable, _⟩ := bind_eq_ok.mp held
      obtain ⟨record, decoded⟩ := exists_decode_of_decodeObject readable
      have read : (Mode.terminal .modern).schema.decode message.payload = .ok record := decoded
      dsimp only
      rw [read]
      rfl

end Stage

/-! ## Runs that give a secret -/

namespace Session

variable {σ π : Type} [Link σ] [Prompt π] {hash : HashFunction} {mode : Mode}

/-- A round that gives a secret receives the last message of a scheme and does nothing
more. -/
theorem roundEvents_of_secret {session next : Session σ π} {secret : DerivedSecret}
    (last : round hash mode session = .complete (.ok secret next)) :
    ∃ (message : RawMessage) (scheme : Mode), message.id = scheme.terminal.id ∧
      scheme.secretIn hash message.payload = .ok secret ∧
      roundEvents hash mode session =
        Channel.collectEvents .idle session.channel ++
          [.received .awaitingSecret message,
            .decoded .awaitingSecret scheme.terminal (.ok ())] := by
  obtain ⟨message, channel, arrived, answered, _⟩ := round_secret last
  obtain ⟨awaiting, scheme, isLast, held⟩ := Stage.answer_finish_iff.mp answered
  refine ⟨message, scheme, isLast, held, ?_⟩
  rw [roundEvents, arrived]
  dsimp only
  rw [answered, awaiting, Stage.decodeEvents_of_secretIn isLast held]
  rfl

/-- A run that gives a secret ends with the last message of a scheme, which holds it. -/
theorem ends_of_runFor {rounds : Nat} {session next : Session σ π} {secret : DerivedSecret}
    (returned : runFor hash mode rounds session = .complete (.ok secret next)) :
    ∃ (before : List Event) (message : RawMessage) (scheme : Mode),
      history hash mode rounds session =
        before ++ [.received .awaitingSecret message,
          .decoded .awaitingSecret scheme.terminal (.ok ())] ∧
      message.id = scheme.terminal.id ∧ scheme.secretIn hash message.payload = .ok secret := by
  obtain ⟨fresh, last, exchanged, _⟩ := exchangeFor_of_runFor returned
  obtain ⟨earlier, following, _, ended, events⟩ := exists_last_round exchanged
  obtain ⟨message, scheme, isLast, held, final⟩ := roundEvents_of_secret ended
  refine ⟨exchangeEvents hash mode earlier session ++
    Channel.collectEvents .idle following.channel, message, scheme, ?_, isLast, held⟩
  rw [history, if_pos fresh, events, final, List.append_assoc]

/-! ## Short runs -/

/-- The secret that a run has given, if it has. -/
def Progress.secret? {σ π : Type} : Progress σ π → Option DerivedSecret
  | .complete (.ok secret _) => some secret
  | .complete (.error _ _) | .underway _ => none

theorem Progress.exists_of_secret? {σ π : Type} {progress : Progress σ π}
    {secret : DerivedSecret} (given : progress.secret? = some secret) :
    ∃ next, progress = .complete (.ok secret next) := by
  cases progress with
  | underway session => cases given
  | complete result =>
      cases result with
      | ok found next =>
          cases given
          exact ⟨next, rfl⟩
      | error halt next => cases given

/-- A fresh session with a device that answers the start with its features and the next
message with a given one. -/
def greetedBy (last : RawMessage) : Session MemoryLink ScriptedPrompt :=
  start (Channel.ofLink (.ofReactions [.ok [⟨MessageKind.features.id, []⟩], .ok [last]])
    defaultWriteTimeout none) (.ofAnswers []) ⟨defaultApp, "alice", "vault", ""⟩

/-- A signed identity. -/
def someSignature : RawMessage :=
  ⟨MessageKind.signedIdentity.id, 0x1a :: 65 :: List.replicate 65 7⟩

/-- A session key. -/
def someSharedPoint : RawMessage :=
  ⟨MessageKind.ecdhSessionKey.id, 0x0a :: 33 :: List.replicate 33 4⟩

/-! ## The length of a secret -/

/-- A run gives a secret of the length of its scheme exactly if the message that ends it is
the last one of that scheme.  It may as well be the last one of the other: then the secret
is the one of the other scheme. -/
theorem secretLength_iff_of_runFor {rounds : Nat} {channel : Channel σ} {prompt : π}
    {info : HostInfo} {secret : DerivedSecret} {next : Session σ π}
    (returned : runFor hash mode rounds (start channel prompt info) = .complete (.ok secret next)) :
    ∃ (before : List Event) (message : RawMessage) (scheme : Mode),
      history hash mode rounds (start channel prompt info) =
        before ++ [.received .awaitingSecret message,
          .decoded .awaitingSecret scheme.terminal (.ok ())] ∧
      message.id = scheme.terminal.id ∧
      scheme.secretIn hash message.payload = .ok secret ∧
      secret.bytes.length = scheme.secretLength ∧
      (secret.bytes.length = mode.secretLength ↔ scheme = mode) := by
  obtain ⟨before, message, scheme, events, isLast, held⟩ := ends_of_runFor returned
  exact ⟨before, message, scheme, events, isLast, held, Mode.length_of_secretIn held,
    Mode.secretLength_eq_iff held⟩

/-- A legacy run that gives 64 bytes has been ended by a signature. -/
theorem secretLength_of_signature :
    ∃ secret next before message,
      runFor Digest.sha256 .legacy 2 (greetedBy someSignature) = .complete (.ok secret next) ∧
      secret.bytes.length = 64 ∧
      history Digest.sha256 .legacy 2 (greetedBy someSignature) =
        before ++ [.received .awaitingSecret message,
          .decoded .awaitingSecret .signedIdentity (.ok ())] := by
  have given : (runFor Digest.sha256 .legacy 2 (greetedBy someSignature)).secret? =
      some ⟨List.replicate 64 7⟩ := by decide +kernel
  obtain ⟨next, returned⟩ := Progress.exists_of_secret? given
  obtain ⟨before, message, scheme, events, _, _, _, condition⟩ :=
    secretLength_iff_of_runFor returned
  have own : scheme = .legacy := condition.mp rfl
  subst own
  exact ⟨_, next, before, message, returned, rfl, events⟩

/-- The stage that waits for a signature takes a session key too, and gives a digest. -/
theorem legacy_run_gives_digest :
    ∃ secret next, run Digest.sha256 .legacy (greetedBy someSharedPoint) = .ok secret next ∧
      secret.bytes.length ≠ Mode.legacy.secretLength := by
  have length : (outcome (run Digest.sha256 .legacy (greetedBy someSharedPoint))).toOption.map
      (fun secret => secret.bytes.length) = some 32 := by decide +kernel
  cases returned : run Digest.sha256 .legacy (greetedBy someSharedPoint) with
  | error halt next =>
      rw [returned] at length
      cases length
  | ok secret next =>
      rw [returned] at length
      have short : secret.bytes.length = 32 := Option.some.inj length
      refine ⟨secret, next, rfl, ?_⟩
      rw [short]
      decide

/-- The same holds of the whole run over a finite link. -/
theorem secretLength_iff_of_run {σ π : Type} [FiniteLink σ] [Prompt π] {hash : HashFunction}
    {mode : Mode} {channel : Channel σ} {prompt : π} {info : HostInfo} {secret : DerivedSecret}
    {next : Session σ π} (returned : run hash mode (start channel prompt info) = .ok secret next) :
    ∃ (before : List Event) (message : RawMessage) (scheme : Mode),
      runEvents hash mode (start channel prompt info) =
        before ++ [.received .awaitingSecret message,
          .decoded .awaitingSecret scheme.terminal (.ok ())] ∧
      message.id = scheme.terminal.id ∧
      scheme.secretIn hash message.payload = .ok secret ∧
      secret.bytes.length = scheme.secretLength ∧
      (secret.bytes.length = mode.secretLength ↔ scheme = mode) := by
  obtain ⟨rounds, complete, watched⟩ := exists_runFor hash mode (start channel prompt info)
  rw [returned] at complete
  obtain ⟨before, message, scheme, events, isLast, held⟩ := ends_of_runFor complete
  exact ⟨before, message, scheme, watched.symm.trans events, isLast, held,
    Mode.length_of_secretIn held, Mode.secretLength_eq_iff held⟩

end Session
end SecurityKey
