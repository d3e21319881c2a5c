import SecurityKey.Proofs.Schema.FieldByField
import SecurityKey.Proofs.Schema.Leaves

/-!
# Reading an object that was written

Reading what was written of an object into one that is there is the same as absorbing the
object itself, leaf by leaf and field by field, without any bytes: `decodeAt_encodeAt`.  This
holds for every object that can be written and whatever is there, also when the reading
fails, as it does when a required field had no leaf to write, or when fewer objects may be open
than when it was written (`decodeAt_of_encodeAt`).

The induction is on the objects that may still be open.  Inside one object the fields that
are still to come are read into the draft of the whole object; what they need to know of it is
that their numbers lead to them (`Places`).
-/

set_option autoImplicit false

namespace SecurityKey

/-! ## Fields that can be told apart -/

mutual
/-- Whether the fields of all objects in a shape can be told apart. -/
def Shape.Numbered : Shape → Prop
  | .optional item | .repeated item | .boxed item => item.Numbered
  | .object schema => schema.Numbered
  | _ => True

/-- Whether the numbers of the fields are different, leave room for a wire type in a tag, and
the same holds for the objects inside. -/
def Schema.Numbered : Schema → Prop
  | .nil => True
  | .field id _ _ shape others =>
      id.toNat < 2 ^ 29 ∧ id ∉ others.ids ∧ shape.Numbered ∧ others.Numbered
end

theorem Nest.schema_numbered : Nest.schema.Numbered := by
  simp [Nest.schema, Schema.Numbered, Shape.Numbered, Schema.ids]

/-! ## Absorbing -/

/-- Takes the fields of an object into one that is there. -/
abbrev Absorber := (schema : Schema) → schema.Record → schema.Record →
  Except Error schema.Record

/-- A nested object taken into one that is there, when another object may be opened. -/
def absorbNested (nested : Option Absorber) (schema : Schema)
    (storage written : schema.Record) : Except Error schema.Record :=
  match nested with
  | none => .error tooDeep
  | some absorb => absorb schema storage written

/-- A leaf taken into storage that is there.  An object is taken in field by field, of an
enumeration only the ordinal comes over, and everything else is replaced. -/
def Shape.absorb (nested : Option Absorber) :
    (shape : Shape) → shape.Value → shape.Value → Except Error shape.Value
  | .object schema, storage, written => absorbNested nested schema storage written
  | .nest, storage, written =>
      Nest.ofRecord <$> absorbNested nested Nest.schema storage.toRecord written.toRecord
  | .enumeration table, _, written => .ok (table.ofOrdinal written.ordinal)
  | _, _, written => .ok written

/-- A leaf taken into the value that it belongs to. -/
def Shape.store (nested : Option Absorber) (shape : Shape) (storage : shape.Value)
    (leaf : shape.base.Value) : Except Error shape.Value :=
  shape.put storage <$> shape.base.absorb nested (shape.under storage) leaf

theorem Shape.store_optional (nested : Option Absorber) (item : Shape)
    (storage : Option item.Value) (leaf : item.base.Value) :
    store nested (.optional item) storage leaf = some <$> item.store nested item.blank leaf := by
  change (some ∘ item.put item.blank) <$> item.base.absorb nested (item.under item.blank) leaf = _
  rw [store]
  cases item.base.absorb nested (item.under item.blank) leaf with
  | error error => rfl
  | ok leaf => rfl

theorem Shape.store_repeated (nested : Option Absorber) (item : Shape)
    (items : List item.Value) (leaf : item.base.Value) :
    store nested (.repeated item) items leaf =
      (fun value => items ++ [value]) <$> item.store nested item.blank leaf := by
  change (fun leaf => List.append items [item.put item.blank leaf]) <$>
    item.base.absorb nested (item.under item.blank) leaf = _
  rw [store]
  cases item.base.absorb nested (item.under item.blank) leaf with
  | error error => rfl
  | ok leaf => rfl

namespace Schema

/-- The leaves of all fields taken into the draft of an object, in order. -/
def absorbFields (nested : Option Absorber) :
    (schema : Schema) → schema.Draft → schema.Record → Except Error schema.Draft
  | .nil, draft, _ => .ok draft
  | .field _ _ required shape others, ((storage, seen), draft), (value, record) => do
      let storage ← (shape.written required value).foldlM (shape.store nested) storage
      let draft ← others.absorbFields nested draft record
      pure ((storage, seen || !(shape.written required value).isEmpty), draft)

/-- All fields of an object taken into one that is there. -/
def absorbBody (nested : Option Absorber) (schema : Schema) (storage written : schema.Record) :
    Except Error schema.Record := do
  let draft ← schema.absorbFields nested (schema.draft storage) written
  schema.finish draft

/-- An object taken in inside which `room` more objects may be open. -/
def absorbAt : (room : Nat) → Absorber
  | 0 => absorbBody none
  | room + 1 => absorbBody (some (absorbAt room))

end Schema

/-! ## One leaf -/

/-- What is needed of the encoder, the decoder and the absorber of nested objects. -/
inductive Agree : Option NestedEncoder → Option NestedDecoder → Option Absorber → Prop where
  | closed {encoder : Option NestedEncoder} : Agree encoder none none
  | opened {encode : NestedEncoder} {decode : NestedDecoder} {absorb : Absorber}
      (same : ∀ (schema : Schema) (storage record : schema.Record) (body : Bytes),
        schema.Numbered → encode schema record = .ok body → body.length < 2 ^ 64 →
          decode schema storage body = absorb schema storage record) :
      Agree (some encode) (some decode) (some absorb)

/-- A field with a tag and a payload that is read as a leaf is absorbed. -/
def Occurrence (decoder : Option NestedDecoder) (absorber : Option Absorber) (id : UInt32)
    (shape : Shape) (leaf : shape.Value) (bytes : Bytes) : Prop :=
  ∃ (wire : WireType) (payload : Bytes),
    bytes = Varint.encode (wire.tag id) ++ payload ∧
    (shape.packable → wire ≠ .lengthDelimited) ∧
    ∀ storage : shape.Value,
      (shape.decode decoder wire storage).Settles payload (shape.absorb absorber storage leaf)

section Occurrences

variable {encoder : Option NestedEncoder} {decoder : Option NestedDecoder}
  {absorber : Option Absorber} {id : UInt32}

theorem occurrence_varint {shape : Shape} {leaf : shape.Value} (value : Nat)
    (reads : ∀ storage : shape.Value, (shape.decode decoder .varint storage).Reads
      (Varint.encode value) (shape.absorb absorber storage leaf)) :
    Occurrence decoder absorber id shape leaf (Bytes.ofVarintField id value) :=
  ⟨.varint, _, rfl, fun _ => by decide, fun storage => (reads storage).settles⟩

theorem occurrence_delimited {shape : Shape} {leaf : shape.Value} (body : Bytes)
    (single : shape.packable = false)
    (settles : ∀ storage : shape.Value, (shape.decode decoder .lengthDelimited storage).Settles
      (Varint.encode body.length ++ body) (shape.absorb absorber storage leaf)) :
    Occurrence decoder absorber id shape leaf (Bytes.ofDelimitedField id body) := by
  refine ⟨.lengthDelimited, _, List.append_assoc _ _ _, ?_, settles⟩
  intro packable
  rw [single] at packable
  cases packable

theorem length_ofDelimitedField {body : Bytes}
    (short : (Bytes.ofDelimitedField id body).length < 2 ^ 64) : body.length < 2 ^ 64 := by
  rw [Bytes.ofDelimitedField, List.length_append] at short
  omega

/-- A nested object is read as it is absorbed. -/
theorem settles_nested (agree : Agree encoder decoder absorber) {schema : Schema}
    (numbered : schema.Numbered) {record : schema.Record} {bytes : Bytes}
    (encoded : encodeNested encoder id schema record = .ok bytes)
    (short : bytes.length < 2 ^ 64) :
    ∃ body, bytes = Bytes.ofDelimitedField id body ∧ ∀ storage : schema.Record,
      (decodeNested decoder .lengthDelimited schema storage).Settles
        (Varint.encode body.length ++ body) (absorbNested absorber schema storage record) := by
  cases agree with
  | closed =>
      cases encoder with
      | none => cases encoded
      | some encode =>
          obtain ⟨body, _, encoded⟩ := bind_eq_ok.mp encoded
          cases encoded
          refine ⟨body, rfl, ?_⟩
          intro storage
          exact Scan.settles_throw tooDeep _
  | @opened encode decode absorb same =>
      obtain ⟨body, inner, encoded⟩ := bind_eq_ok.mp encoded
      cases encoded
      have within := length_ofDelimitedField short
      refine ⟨body, rfl, ?_⟩
      intro storage
      rw [absorbNested, ← same schema storage record body numbered inner within, decodeNested,
        ← List.append_nil (Varint.encode _ ++ _)]
      exact ((reads_openBody decode within).bind
        (Scan.reads_lift (decode schema storage body))).settles

theorem narrowUnsigned_of_u32 (value : UInt32) :
    narrowUnsigned value.toUInt64 = .ok value := by
  have small : value.toUInt64.toNat < 2 ^ 32 := by
    rw [UInt32.toNat_toUInt64]
    exact value.toNat_lt
  rw [narrowUnsigned, if_pos small, UInt32.toUInt32_toUInt64]

/-- Whatever is written of a leaf is read as the leaf is absorbed. -/
theorem occurrence_of_encode (agree : Agree encoder decoder absorber) :
    (shape : Shape) → shape.Numbered → (leaf : shape.base.Value) → (bytes : Bytes) →
      shape.base.encode encoder id leaf = .ok bytes → bytes.length < 2 ^ 64 →
        Occurrence decoder absorber id shape.base leaf bytes
  | .optional item, numbered, leaf, bytes, encoded, short
  | .repeated item, numbered, leaf, bytes, encoded, short
  | .boxed item, numbered, leaf, bytes, encoded, short =>
      occurrence_of_encode agree item numbered leaf bytes encoded short
  | .u32, _, (leaf : UInt32), _, encoded, _ => by
      cases encoded
      refine occurrence_varint leaf.toNat fun _ => ?_
      rw [← List.append_nil (Varint.encode _), ← UInt32.toNat_toUInt64]
      refine Scan.Reads.after_lift ((Scan.reads_unsigned leaf.toUInt64).bind ?_) rfl
      rw [narrowUnsigned_of_u32]
      exact Scan.reads_lift (.ok leaf)
  | .u64, _, (leaf : UInt64), _, encoded, _ => by
      cases encoded
      exact occurrence_varint leaf.toNat fun _ => (Scan.reads_unsigned leaf).after_lift rfl
  | .i32, _, _, _, encoded, _ | .i64, _, _, _, encoded, _ => by cases encoded
  | .boolean, _, (leaf : Bool), _, encoded, _ => by
      cases encoded
      exact occurrence_varint leaf.toNat fun _ => (Scan.reads_boolean leaf).after_lift rfl
  | .text, _, (leaf : String), _, encoded, short => by
      cases encoded
      exact occurrence_delimited _ rfl fun _ =>
        ((Scan.reads_text (length_ofDelimitedField short)).after_lift rfl).settles
  | .blob, _, (leaf : Bytes), _, encoded, short => by
      cases encoded
      exact occurrence_delimited _ rfl fun _ =>
        ((Scan.reads_delimited (length_ofDelimitedField short)).after_lift rfl).settles
  | .fixed size, _, leaf, _, encoded, short => by
      cases encoded
      exact occurrence_delimited _ rfl fun _ =>
        ((Scan.reads_fixedBytes (length_ofDelimitedField short)).after_lift rfl).settles
  | .enumeration table, _, leaf, _, encoded, _ => by
      cases encoded
      exact occurrence_varint _ fun _ =>
        ((Scan.reads_ordinal leaf.ordinal).map table.ofOrdinal).after_lift rfl
  | .object schema, numbered, leaf, _, encoded, short => by
      obtain ⟨body, rfl, settles⟩ := settles_nested agree numbered encoded short
      exact occurrence_delimited body rfl settles
  | .nest, _, leaf, _, encoded, short => by
      obtain ⟨body, rfl, settles⟩ := settles_nested agree Nest.schema_numbered encoded short
      exact occurrence_delimited body rfl fun storage =>
        (settles storage.toRecord).map Nest.ofRecord

/-! ## The fields of a body -/

/-- The occurrences of one field are absorbed one after the other.  `place` puts what is known
of the field into the draft of the whole object. -/
theorem decodeFields_writes (agree : Agree encoder decoder absorber) {shape : Shape}
    (numbered : shape.Numbered) (small : id.toNat < 2 ^ 29) {whole : Schema}
    (place : shape.Value × Bool → whole.Draft)
    (found : ∀ (wire : WireType) (value : shape.Value) (seen : Bool),
      whole.decodeField? decoder wire id (place (value, seen)) =
        some ((fun value => place (value, true)) <$> shape.decode decoder wire value))
    {leaves : List shape.base.Value} {bytes : Bytes}
    (written : shape.base.Writes encoder id leaves bytes) (short : bytes.length < 2 ^ 64)
    (storage : shape.Value) (seen : Bool) (rest : Bytes) :
    whole.decodeFields decoder (place (storage, seen)) (bytes ++ rest) =
      leaves.foldlM (shape.store absorber) storage >>= fun storage =>
        whole.decodeFields decoder (place (storage, seen || !leaves.isEmpty)) rest := by
  induction written generalizing storage seen with
  | nil =>
      change _ = whole.decodeFields decoder (place (storage, seen || false)) rest
      rw [Bool.or_false]
      rfl
  | @cons leaf leaves first others encoded _ hypothesis =>
      rw [List.length_append] at short
      obtain ⟨wire, payload, rfl, single, settles⟩ :=
        occurrence_of_encode agree shape numbered leaf first encoded (by omega)
      have settled := (Shape.settles_put shape storage _ single
        (settles (shape.under storage))).map fun value => place (value, true)
      have occurs : (whole.decodeOccurrence decoder (place (storage, seen)) id wire).Settles
          payload ((fun value => place (value, true)) <$> shape.store absorber storage leaf) := by
        rw [Schema.decodeOccurrence, found]
        exact settled
      rw [List.append_assoc, decodeFields_occurrence small occurs, List.foldlM_cons]
      cases stored : shape.store absorber storage leaf with
      | error error => rfl
      | ok value =>
          have next := hypothesis (by omega) value true
          rw [Bool.true_or] at next
          have known : (seen || !(leaf :: leaves).isEmpty) = true := Bool.or_true seen
          rw [known]
          exact next

/-- The numbers of some fields of an object lead to these fields, wherever they are. -/
def Places (decoder : Option NestedDecoder) (schema whole : Schema)
    (place : schema.Draft → whole.Draft) : Prop :=
  ∀ id ∈ schema.ids, ∀ (wire : WireType) (draft : schema.Draft),
    whole.decodeField? decoder wire id (place draft) =
      (schema.decodeField? decoder wire id draft).map fun scan => place <$> scan

/-- The fields of an object that are still to come are absorbed one after the other. -/
theorem decodeFields_encodeFields (agree : Agree encoder decoder absorber) (whole : Schema) :
    (schema : Schema) → schema.Numbered → (place : schema.Draft → whole.Draft) →
      Places decoder schema whole place → (draft : schema.Draft) → (record : schema.Record) →
      (bytes : Bytes) → schema.encodeFields encoder record = .ok bytes →
      bytes.length < 2 ^ 64 → (rest : Bytes) →
        whole.decodeFields decoder (place draft) (bytes ++ rest) =
          schema.absorbFields absorber draft record >>= fun draft =>
            whole.decodeFields decoder (place draft) rest
  | .nil, _, _, _, _, _, _, encoded, _, _ => by
      cases encoded
      rfl
  | .field number name required shape others, numbered, place, places, ((storage, seen), draft),
      (value, record), bytes, encoded, short, rest => by
      obtain ⟨small, fresh, numberedShape, numberedOthers⟩ := numbered
      obtain ⟨first, last, written, encodedLast, rfl⟩ := Schema.writes_of_encodeFields encoded
      have found : ∀ (wire : WireType) (value : shape.Value) (seen : Bool),
          whole.decodeField? decoder wire number (place ((value, seen), draft)) =
            some ((fun value => place ((value, true), draft)) <$>
              shape.decode decoder wire value) := by
        intro wire value seen
        refine (places number (List.mem_cons_self ..) wire ((value, seen), draft)).trans ?_
        rw [Schema.decodeField?, if_pos rfl]
        exact congrArg some (Functor.map_map _ _ _)
      rw [List.length_append] at short
      rw [List.append_assoc, decodeFields_writes agree numberedShape small
        (fun known => place (known, draft)) found written (by omega), Schema.absorbFields]
      cases (shape.written required value).foldlM (shape.store absorber) storage with
      | error error => rfl
      | ok storage =>
          have placesOthers : Places decoder others whole fun draft =>
              place ((storage, seen || !(shape.written required value).isEmpty), draft) := by
            intro id member wire draft
            have other : number ≠ id := by
              rintro rfl
              exact fresh member
            refine (places id (List.mem_cons_of_mem _ member) wire (_, draft)).trans ?_
            rw [Schema.decodeField?, if_neg other, Option.map_map]
            refine congrArg (Option.map · _) (funext fun scan => ?_)
            exact Functor.map_map _ _ scan
          refine (decodeFields_encodeFields agree whole others numberedOthers _ placesOthers
            draft record last encodedLast (by omega) rest).trans ?_
          cases others.absorbFields absorber draft record with
          | error error => rfl
          | ok draft => rfl

/-- A body is read as its object is absorbed. -/
theorem decodeBody_encodeFields (agree : Agree encoder decoder absorber) {schema : Schema}
    (numbered : schema.Numbered) (storage : schema.Record) {record : schema.Record}
    {bytes : Bytes} (encoded : schema.encodeFields encoder record = .ok bytes)
    (short : bytes.length < 2 ^ 64) :
    schema.decodeBody decoder storage bytes = schema.absorbBody absorber storage record := by
  have places : Places decoder schema schema fun draft => draft := by
    intro id _ wire draft
    cases schema.decodeField? decoder wire id draft with
    | none => rfl
    | some scan => exact congrArg some (id_map' scan).symm
  have read := decodeFields_encodeFields agree schema schema numbered _ places
    (schema.draft storage) record bytes encoded short []
  rw [List.append_nil] at read
  rw [Schema.decodeBody, read, Schema.absorbBody]
  cases schema.absorbFields absorber (schema.draft storage) record with
  | error error => rfl
  | ok draft =>
      change (schema.decodeFields decoder draft [] >>= schema.finish) = schema.finish draft
      rw [decodeFields_nil]
      rfl

end Occurrences

/-- What was written of an object is read into another one as the object itself is taken into
it, when no more objects may be open than when it was written. -/
theorem Schema.decodeAt_of_encodeAt {wide room : Nat} (within : room ≤ wide) {schema : Schema}
    (numbered : schema.Numbered) (storage : schema.Record) {record : schema.Record}
    {bytes : Bytes} (encoded : encodeAt wide schema record = .ok bytes)
    (short : bytes.length < 2 ^ 64) :
    decodeAt room schema storage bytes = absorbAt room schema storage record := by
  induction room generalizing wide schema bytes with
  | zero =>
      cases wide with
      | zero => exact decodeBody_encodeFields .closed numbered storage encoded short
      | succ wide => exact decodeBody_encodeFields .closed numbered storage encoded short
  | succ room hypothesis =>
      obtain ⟨wide, rfl⟩ := Nat.exists_eq_add_one.mpr (Nat.zero_lt_of_lt within)
      have agree : Agree (some (encodeAt wide)) (some (decodeAt room)) (some (absorbAt room)) :=
        .opened fun _ storage _ _ numbered encoded short =>
          hypothesis (Nat.le_of_succ_le_succ within) numbered storage encoded short
      exact decodeBody_encodeFields agree numbered storage encoded short

/-- At every depth. -/
theorem Schema.decodeAt_encodeAt (room : Nat) {schema : Schema} (numbered : schema.Numbered)
    (storage : schema.Record) {record : schema.Record} {bytes : Bytes}
    (encoded : encodeAt room schema record = .ok bytes) (short : bytes.length < 2 ^ 64) :
    decodeAt room schema storage bytes = absorbAt room schema storage record :=
  decodeAt_of_encodeAt (Nat.le_refl room) numbered storage encoded short

end SecurityKey
