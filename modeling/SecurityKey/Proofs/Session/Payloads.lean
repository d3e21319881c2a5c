import SecurityKey.Proofs.Schema.RoundTrip
import SecurityKey.Proofs.Session.Requests

/-!
# What requests hold

A request that fits a report header is read back as it was made: the device sees the identity,
the texts, the path and the peer key that the host put into it
(`HostInfo.decode_signatureRequest`, `HostInfo.decode_peerKeyRequest`,
`HostInfo.decode_sessionKeyRequest`).
-/

set_option autoImplicit false

namespace SecurityKey

/-- An encoded message carries its object. -/
theorem encodeObject_of_ofMessage {Message : Type} [DeviceMessage Message] {message : Message}
    {raw : RawMessage} (encoded : RawMessage.ofMessage message = .ok raw) :
    encodeObject message = .ok raw.payload := by
  obtain ⟨payload, made, same⟩ := bind_eq_ok.mp encoded
  cases same
  exact made

/-- A request that can be sent is a message, and its payload fits. -/
theorem exists_of_sendable {request : Except Error RawMessage} (sent : sendable request = .ok ()) :
    ∃ message, request = .ok message ∧ message.payload.length ≤ Report.maximumPayload := by
  cases request with
  | error reason => cases sent
  | ok message =>
      refine ⟨message, rfl, ?_⟩
      by_contra long
      rw [sendable_ok, if_neg long] at sent
      cases sent

/-- An object comes back when its record does. -/
theorem decodeObject_of_encodeObject {Object : Type} [WireObject Object] {object : Object}
    {payload : Bytes} (numbered : (WireObject.schema Object).Numbered)
    (plain : (WireObject.schema Object).Plain)
    (complete : (WireObject.schema Object).Complete (WireObject.toRecord object))
    (shallow : (WireObject.schema Object).depth (WireObject.toRecord object) ≤ maximumDepth)
    (same : WireObject.ofRecord (WireObject.toRecord object) = object)
    (encoded : encodeObject object = .ok payload) (fits : payload.length ≤ Report.maximumPayload) :
    decodeObject Object payload = .ok object := by
  obtain ⟨bytes, written, back⟩ := Schema.round_trip_of_plain numbered plain complete shallow
  cases written.symm.trans encoded
  have small : Report.maximumPayload < 2 ^ 64 := by decide
  rw [decodeObject_of_ok (back (Nat.lt_of_le_of_lt fits small)), same]

namespace HostInfo

variable {info : HostInfo} {message : RawMessage}

/-- The identity is complete, whatever its texts are. -/
theorem complete_identity (identity : Identity) :
    Identity.schema.Complete (WireObject.toRecord identity) :=
  ⟨fun _ => trivial, fun _ => trivial, fun _ => trivial, trivial⟩

/-- The device reads a request for a signature as the host made it. -/
theorem decode_signatureRequest (encoded : info.signatureRequest = .ok message)
    (fits : message.payload.length ≤ Report.maximumPayload) :
    decodeObject SignIdentity message.payload =
      .ok ⟨info.identity, info.challenge, info.message, legacyCurve⟩ := by
  refine decodeObject_of_encodeObject MessageKind.signIdentity.schema_numbered
    MessageKind.signIdentity.schema_plain ?_ ?_ rfl (encodeObject_of_ofMessage encoded) fits
  · exact ⟨fun _ => complete_identity _, fun _ => trivial, fun _ => trivial, fun _ => trivial,
      trivial⟩
  · show Schema.depth _ _ ≤ 100
    simp [WireObject.schema, WireObject.toRecord, SignIdentity.schema, Identity.schema,
      Schema.depth, Shape.depth]

/-- The device reads a request for a public key as the host made it. -/
theorem decode_peerKeyRequest {hash : HashFunction}
    (encoded : info.peerKeyRequest hash = .ok message) :
    decodeObject GetPublicKey message.payload =
      .ok ⟨KeyPath.ofDigest (hash (Bytes.ofText info.peerLocator)), some modernCurve, none⟩ := by
  obtain ⟨_, made, fits⟩ := exists_of_sendable (sendable_peerKeyRequest hash info)
  cases encoded.symm.trans made
  refine decodeObject_of_encodeObject MessageKind.getPublicKey.schema_numbered
    MessageKind.getPublicKey.schema_plain ?_ ?_ rfl (encodeObject_of_ofMessage encoded) fits
  · exact ⟨fun _ => ⟨List.cons_ne_nil _ _, fun _ _ => trivial⟩, fun _ => trivial,
      fun present => Bool.noConfusion present, trivial⟩
  · have flat : ∀ path : KeyPath, (path.map fun _ => 0).foldr max 0 = 0 := by
      intro path
      induction path with
      | nil => rfl
      | cons number rest hypothesis =>
          rw [List.map_cons, List.foldr_cons, hypothesis, Nat.max_self]
    show Schema.depth _ _ ≤ 100
    simp only [WireObject.schema, WireObject.toRecord, GetPublicKey.schema, Schema.depth,
      Shape.depth]
    exact Nat.le_trans (Nat.max_le.mpr ⟨Nat.add_le_add_left (Nat.le_of_eq (flat _)) 1, by decide⟩)
      (by decide)

/-- The device reads a request for a session key as the host made it. -/
theorem decode_sessionKeyRequest {publicKey : Bytes}
    (encoded : info.sessionKeyRequest publicKey = .ok message)
    (fits : message.payload.length ≤ Report.maximumPayload) :
    decodeObject GetEcdhSessionKey message.payload =
      .ok ⟨info.identity, peerKey publicKey, modernCurve⟩ := by
  refine decodeObject_of_encodeObject MessageKind.getEcdhSessionKey.schema_numbered
    MessageKind.getEcdhSessionKey.schema_plain ?_ ?_ rfl (encodeObject_of_ofMessage encoded) fits
  · exact ⟨fun _ => complete_identity _, fun _ => trivial, fun _ => trivial, trivial⟩
  · show Schema.depth _ _ ≤ 100
    simp [WireObject.schema, WireObject.toRecord, GetEcdhSessionKey.schema, Identity.schema,
      Schema.depth, Shape.depth]

/-- The peer key in a request is 33 bytes: one that says how the others are written, and the
others of the public key, cut or filled with zero bytes. -/
theorem bytes_peerKey (publicKey : Bytes) :
    (peerKey publicKey).bytes = 0x40 :: Bytes.fit 32 (publicKey.drop 1) := by
  simp [peerKey, FixedBytes.ofBytes, Bytes.fit]

end HostInfo
end SecurityKey
