import SecurityKey.Proofs.Session.Verdict

/-!
# How long requests are

A message fits its report header when its payload is shorter than four gigabytes.  The
messages of a session hold a few texts, each behind a tag and a length, so they fit unless
the texts together are about that long.  With texts of any usual length (`TextsFit`) no
request of a run is refused for its size, and a device decides the run by what it says
alone (`verdict_of_textsFit`).
-/

set_option autoImplicit false

namespace SecurityKey

/-! ## Fields -/

/-- A varint takes one byte for every seven bits. -/
theorem Varint.length_encode_le (count value : Nat) (small : value < 128 ^ (count + 1)) :
    (encode value).length ≤ count + 1 := by
  induction count generalizing value with
  | zero =>
      rw [Nat.zero_add, Nat.pow_one] at small
      rw [encode, if_pos small]
      exact Nat.le_refl _
  | succ count hypothesis =>
      rw [encode]
      split
      · exact Nat.succ_le_succ (Nat.zero_le _)
      · have fewer : value / 128 < 128 ^ (count + 1) := by
          rw [Nat.div_lt_iff_lt_mul (by decide), ← Nat.pow_succ]
          exact small
        rw [List.length_cons]
        exact Nat.succ_le_succ (hypothesis _ fewer)

namespace Bytes

variable {id : UInt32}

/-- A tag with a small field number takes one byte. -/
theorem length_tag_le (few : id.toNat < 16) (wire : WireType) :
    (Varint.encode (wire.tag id)).length ≤ 1 := by
  have code := wire.code_lt
  refine Varint.length_encode_le 0 _ ?_
  rw [WireType.tag]
  omega

/-- A field takes at most six bytes more than what it holds. -/
theorem length_ofDelimitedField_le (few : id.toNat < 16) {body : Bytes}
    (small : body.length < 2 ^ 35) : (ofDelimitedField id body).length ≤ body.length + 6 := by
  have tag := length_tag_le few .lengthDelimited
  have length := Varint.length_encode_le 4 body.length small
  rw [ofDelimitedField, List.length_append, List.length_append]
  omega

/-- A field with a word takes at most six bytes. -/
theorem length_ofVarintField_le (few : id.toNat < 16) (value : UInt32) :
    (ofVarintField id value.toNat).length ≤ 6 := by
  have tag := length_tag_le few .varint
  have small : value.toNat < 128 ^ 5 := Nat.lt_trans value.toNat_lt (by decide)
  have length := Varint.length_encode_le 4 value.toNat small
  rw [ofVarintField, List.length_append]
  omega

end Bytes

/-! ## Requests and answers -/

/-- The answer of the user fits unless it is nearly as long as a header can say. -/
theorem Interaction.sendable_acknowledgement (interaction : Interaction) {text : String}
    (short : (Bytes.ofText text).length + 6 ≤ Report.maximumPayload) :
    sendable (interaction.acknowledgement text) = .ok () := by
  have bound : Report.maximumPayload < 2 ^ 35 := by decide
  have field : (Bytes.ofDelimitedField 1 (Bytes.ofText text)).length ≤ _ :=
    Bytes.length_ofDelimitedField_le (by decide) (by omega)
  cases interaction with
  | button => rfl
  | pin | passphrase =>
      refine (sendable_ok ⟨_, Bytes.ofDelimitedField 1 (Bytes.ofText text) ++ []⟩).trans
        (if_pos ?_)
      rw [List.append_nil]
      exact Nat.le_trans field short

/-- An answer that can be sent uses up what was drawn. -/
theorem Interaction.reply_of_draw {rule : SendRule} {interaction : Interaction}
    {answers left : List String} {text : String}
    (drawn : interaction.draw answers = .ok (text, left))
    (fits : rule (interaction.acknowledgement text) = .ok ()) :
    interaction.reply rule answers = .ok left := by
  rw [reply, drawn]
  simp only [bind, Except.bind, fits]
  rfl

namespace HostInfo

variable {info : HostInfo}

/-- How long the texts are that a host identifies itself with. -/
def identityLength (info : HostInfo) : Nat :=
  (Bytes.ofText info.app).length + (Bytes.ofText info.user).length +
    (Bytes.ofText info.host).length

/-- The identity as a field of a request. -/
def identityField (info : HostInfo) : Bytes :=
  Bytes.ofDelimitedField 1
    (Bytes.ofDelimitedField 1 (Bytes.ofText info.app) ++
      (Bytes.ofDelimitedField 2 (Bytes.ofText info.user) ++
        (Bytes.ofDelimitedField 3 (Bytes.ofText info.host) ++ [])))

theorem length_identityField_le (short : info.identityLength + 24 ≤ Report.maximumPayload) :
    info.identityField.length ≤ info.identityLength + 24 := by
  have bound : Report.maximumPayload + 24 < 2 ^ 35 := by decide
  rw [identityLength] at short ⊢
  have app : (Bytes.ofDelimitedField 1 (Bytes.ofText info.app)).length ≤ _ :=
    Bytes.length_ofDelimitedField_le (by decide) (by omega)
  have user : (Bytes.ofDelimitedField 2 (Bytes.ofText info.user)).length ≤ _ :=
    Bytes.length_ofDelimitedField_le (by decide) (by omega)
  have host : (Bytes.ofDelimitedField 3 (Bytes.ofText info.host)).length ≤ _ :=
    Bytes.length_ofDelimitedField_le (by decide) (by omega)
  have body : (Bytes.ofDelimitedField 1 (Bytes.ofText info.app) ++
      (Bytes.ofDelimitedField 2 (Bytes.ofText info.user) ++
        (Bytes.ofDelimitedField 3 (Bytes.ofText info.host) ++ []))).length ≤
      (Bytes.ofText info.app).length + (Bytes.ofText info.user).length +
        (Bytes.ofText info.host).length + 18 := by
    simp only [List.length_append, List.length_nil]
    omega
  have field : info.identityField.length ≤ _ :=
    Bytes.length_ofDelimitedField_le (by decide) (by omega)
  omega

/-- The request for a signature fits unless its texts are too long together. -/
theorem sendable_signatureRequest
    (short : info.identityLength + (Bytes.ofText info.challenge).length +
      (Bytes.ofText info.message).length + 49 ≤ Report.maximumPayload) :
    sendable info.signatureRequest = .ok () := by
  have bound : Report.maximumPayload < 2 ^ 35 := by decide
  have identity := info.length_identityField_le (by omega)
  have challenge : (Bytes.ofDelimitedField 2 (Bytes.ofText info.challenge)).length ≤ _ :=
    Bytes.length_ofDelimitedField_le (by decide) (by omega)
  have message : (Bytes.ofDelimitedField 3 (Bytes.ofText info.message)).length ≤ _ :=
    Bytes.length_ofDelimitedField_le (by decide) (by omega)
  have curve : (Bytes.ofDelimitedField 4 (Bytes.ofText legacyCurve)).length ≤ 13 := by
    decide +kernel
  refine (sendable_ok ⟨_, info.identityField ++
    (Bytes.ofDelimitedField 2 (Bytes.ofText info.challenge) ++
      (Bytes.ofDelimitedField 3 (Bytes.ofText info.message) ++
        (Bytes.ofDelimitedField 4 (Bytes.ofText legacyCurve) ++ [])))⟩).trans (if_pos ?_)
  simp only [List.length_append, List.length_nil]
  omega

/-- The request for a public key always fits. -/
theorem sendable_peerKeyRequest (hash : HashFunction) (info : HostInfo) :
    sendable (info.peerKeyRequest hash) = .ok () := by
  obtain ⟨a, b, c, d, e, path⟩ : ∃ a b c d e,
      KeyPath.ofDigest (hash (Bytes.ofText info.peerLocator)) = [a, b, c, d, e] :=
    ⟨_, _, _, _, _, rfl⟩
  have word : ∀ value : UInt32, (Bytes.ofVarintField 1 value.toNat).length ≤ 6 :=
    Bytes.length_ofVarintField_le (by decide)
  have first := word a
  have second := word b
  have third := word c
  have fourth := word d
  have fifth := word e
  have curve : (Bytes.ofDelimitedField 2 (Bytes.ofText modernCurve)).length ≤ 16 := by
    decide +kernel
  rw [peerKeyRequest, path]
  refine (sendable_ok ⟨_, [Bytes.ofVarintField 1 a.toNat, Bytes.ofVarintField 1 b.toNat,
    Bytes.ofVarintField 1 c.toNat, Bytes.ofVarintField 1 d.toNat,
    Bytes.ofVarintField 1 e.toNat].flatten ++
      (Bytes.ofDelimitedField 2 (Bytes.ofText modernCurve) ++ ([] ++ []))⟩).trans (if_pos ?_)
  simp only [List.length_append, List.length_flatten, List.map_cons, List.map_nil,
    List.sum_cons, List.sum_nil, List.length_nil, Report.maximumPayload]
  omega

/-- The request for a session key fits unless the identity is too long. -/
theorem sendable_sessionKeyRequest (short : info.identityLength + 79 ≤ Report.maximumPayload)
    (publicKey : Bytes) : sendable (info.sessionKeyRequest publicKey) = .ok () := by
  have bound : Report.maximumPayload < 2 ^ 35 := by decide
  have identity := info.length_identityField_le (by omega)
  have key : (Bytes.ofDelimitedField 2 (peerKey publicKey).bytes).length ≤ 39 := by
    have size := (peerKey publicKey).length_bytes
    have field : (Bytes.ofDelimitedField 2 (peerKey publicKey).bytes).length ≤ _ :=
      Bytes.length_ofDelimitedField_le (by decide) (by omega)
    omega
  have curve : (Bytes.ofDelimitedField 3 (Bytes.ofText modernCurve)).length ≤ 16 := by
    decide +kernel
  refine (sendable_ok ⟨_, info.identityField ++
    (Bytes.ofDelimitedField 2 (peerKey publicKey).bytes ++
      (Bytes.ofDelimitedField 3 (Bytes.ofText modernCurve) ++ []))⟩).trans (if_pos ?_)
  simp only [List.length_append, List.length_nil]
  omega

end HostInfo

/-! ## Runs with texts that fit -/

/-- The texts of a run are shorter than what a report header can say. -/
structure TextsFit (info : HostInfo) (answers : List String) : Prop where
  requests : info.identityLength + (Bytes.ofText info.challenge).length +
    (Bytes.ofText info.message).length + 79 ≤ Report.maximumPayload
  answers : ∀ text ∈ answers, (Bytes.ofText text).length + 6 ≤ Report.maximumPayload

namespace TextsFit

variable {info : HostInfo} {answers : List String}

/-- The answers that are left fit when all of them do. -/
theorem of_draw (short : TextsFit info answers) {interaction : Interaction} {text : String}
    {left : List String} (drawn : interaction.draw answers = .ok (text, left)) :
    TextsFit info left := by
  cases interaction with
  | button =>
      cases drawn
      exact short
  | pin | passphrase =>
      cases answers with
      | nil => cases drawn
      | cons answer rest =>
          cases drawn
          exact ⟨short.requests, fun text among =>
            short.answers text (List.mem_cons_of_mem _ among)⟩

/-- The answer to a request fits when all answers do. -/
theorem sendable_of_draw (short : TextsFit info answers) {interaction : Interaction}
    {text : String} {left : List String} (drawn : interaction.draw answers = .ok (text, left)) :
    sendable (interaction.acknowledgement text) = .ok () := by
  cases interaction with
  | button => rfl
  | pin | passphrase =>
      cases answers with
      | nil => cases drawn
      | cons answer rest =>
          cases drawn
          exact Interaction.sendable_acknowledgement _ (short.answers _ List.mem_cons_self)

/-- No request that a message brings is refused for its size. -/
theorem sendable_of_answer (short : TextsFit info answers) {hash : HashFunction} {mode : Mode}
    {stage next : Stage} {message : RawMessage} {request : Except Error RawMessage}
    (answered : stage.answer hash mode info message = .ok (.advance request next)) :
    sendable request = .ok () := by
  have requests := short.requests
  generalize made : Move.advance request next = move at answered
  cases Stage.brings_of_answer answered with
  | greeting =>
      cases mode with
      | legacy =>
          cases made
          exact HostInfo.sendable_signatureRequest (by omega)
      | modern =>
          cases made
          exact HostInfo.sendable_peerKeyRequest hash info
  | peerKey =>
      cases made
      exact HostInfo.sendable_sessionKeyRequest (by omega) _
  | notice | request | signature | sharedPoint => cases made

variable {hash : HashFunction} {mode : Mode} {rest : List RawMessage}

/-- What follows a move does not depend on sizes, if what follows later does not. -/
theorem follow_eq (short : TextsFit info answers) {stage : Stage} {message : RawMessage}
    (later : ∀ {stage : Stage} {answers : List String}, TextsFit info answers → stage.awaits →
      walk sendable hash info stage answers rest = walk unlimited hash info stage answers rest) :
    follow sendable hash info stage answers rest (stage.answer hash mode info message) =
      follow unlimited hash info stage answers rest (stage.answer hash mode info message) := by
  cases answered : stage.answer hash mode info message with
  | error error => rfl
  | ok move =>
      have awaiting := Stage.awaits_target answered
      cases move with
      | wait => exact later short awaiting
      | finish secret => rfl
      | advance request next =>
          have fits := short.sendable_of_answer answered
          rw [follow, fits]
          exact later short awaiting
      | interact interaction =>
          rw [follow, follow]
          cases drawn : interaction.draw answers with
          | error error =>
              rw [Interaction.reply, bind_of_error drawn, Interaction.reply, bind_of_error drawn]
              rfl
          | ok pair =>
              have fits := short.sendable_of_draw drawn
              have allowed : unlimited (interaction.acknowledgement pair.1) = .ok () := rfl
              rw [Interaction.reply_of_draw drawn fits, Interaction.reply_of_draw drawn allowed]
              exact later (short.of_draw drawn) awaiting

/-- The walk does not depend on sizes. -/
theorem walk_eq (messages : List RawMessage) {stage : Stage} (short : TextsFit info answers)
    (awaiting : stage.awaits) :
    walk sendable hash info stage answers messages =
      walk unlimited hash info stage answers messages := by
  induction messages generalizing stage answers with
  | nil => rw [walk, walk]
  | cons message rest hypothesis =>
      -- After the reply to the start the walk is the same in both schemes.
      rw [walk_cons sendable hash .legacy info awaiting,
        walk_cons unlimited hash .legacy info awaiting]
      exact short.follow_eq hypothesis

end TextsFit

/-- With texts that fit, nothing that a run sends is too long. -/
theorem verdict_of_textsFit {hash : HashFunction} {mode : Mode} {info : HostInfo}
    {answers : List String} (short : TextsFit info answers) (messages : List RawMessage) :
    verdict sendable hash mode info answers messages =
      verdict unlimited hash mode info answers messages := by
  cases messages with
  | nil => rfl
  | cons message rest =>
      rw [verdict_cons, verdict_cons]
      exact short.follow_eq (TextsFit.walk_eq rest)

end SecurityKey
