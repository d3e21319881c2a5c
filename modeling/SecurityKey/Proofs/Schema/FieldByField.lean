import SecurityKey.Proofs.Wire.Fields
import SecurityKey.Schema.Decode

/-!
# Reading field by field

One occurrence of a value is decided by its payload, for every shape and into whatever storage
(`decided_decode`), so an object takes a complete field in the same way whatever comes behind
it: `Schema.takeField`.  The body of an object is read as its complete fields are taken, one
after the other, and then comes the rest (`decodeFields_join`).
-/

set_option autoImplicit false

namespace SecurityKey

variable {nested : Option NestedDecoder}

/-! ## One value -/

section Values

variable {wire : WireType} {payload : Bytes}

theorem Expectation.require_eq_ok_iff {expectation : Expectation} :
    expectation.require wire = .ok () ↔ expectation.admits wire = true := by
  rw [Expectation.require]
  split
  · rename_i admitted
    exact iff_of_true rfl admitted
  · rename_i refused
    exact iff_of_false nofun refused

/-- What comes behind a value is of interest only when its wire type is one of those that were
expected. -/
theorem decided_require {α : Type} {expectation : Expectation} {next : Unit → Scan α}
    (others : expectation.admits wire = true → (next ()).Decided payload) :
    (Scan.lift (expectation.require wire) >>= next).Decided payload := by
  refine Scan.decided_after_lift fun _ passes => ?_
  exact others (Expectation.require_eq_ok_iff.mp passes)

theorem decided_openBody {Decoder : Type} {opener : Option Decoder}
    (carried : wire.Carries payload) : (openBody opener wire).Decided payload := by
  cases opener with
  | none => exact Scan.decided_throw tooDeep payload
  | some decode =>
      refine decided_require fun admitted => ?_
      have same : wire = .lengthDelimited := beq_iff_eq.mp admitted
      subst same
      exact (Scan.decided_delimited carried).bind fun body => (Scan.reads_pure _).decided

theorem reads_openBody {Decoder : Type} (decode : Decoder) {body : Bytes}
    (short : body.length < 2 ^ 64) :
    (openBody (some decode) .lengthDelimited).Reads (Varint.encode body.length ++ body)
      (.ok (decode, body)) :=
  Scan.Reads.after_lift ((Scan.reads_delimited short).bind_pure (Prod.mk decode)) rfl

theorem openBody_eq_ok {Decoder : Type} {decode : Decoder} {opened : Decoder × Bytes}
    {source rest : Bytes} (run : openBody (some decode) wire source = .ok opened rest) :
    wire = .lengthDelimited ∧ opened.1 = decode ∧ opened.2.length < 2 ^ 64 ∧
      source = Varint.encode opened.2.length ++ opened.2 ++ rest := by
  obtain ⟨_, between, checked, behind⟩ := run_bind_eq_ok.mp run
  obtain ⟨passes, rfl⟩ := Scan.lift_eq_ok_iff.mp checked
  obtain ⟨body, after, taken, made⟩ := run_bind_eq_ok.mp behind
  obtain ⟨fits, source⟩ := Scan.delimited_eq_ok_iff.mp taken
  cases made
  have admitted := Expectation.require_eq_ok_iff.mp passes
  exact ⟨beq_iff_eq.mp admitted, rfl, fits, source⟩

theorem decided_decodeNested (carried : wire.Carries payload) (schema : Schema)
    (storage : schema.Record) : (decodeNested nested wire schema storage).Decided payload :=
  (decided_openBody carried).bind fun _ => Scan.decided_lift _

/-- An object inside is read from its body. -/
theorem settles_decodeNested (decode : NestedDecoder) (schema : Schema) (storage : schema.Record)
    {body : Bytes} (fits : body.length < 2 ^ 64) :
    (decodeNested (some decode) .lengthDelimited schema storage).Settles
      (Varint.encode body.length ++ body) (decode schema storage body) := by
  refine Scan.Reads.settles ?_
  rw [← List.append_nil (Varint.encode _ ++ _)]
  exact (reads_openBody decode fits).bind (Scan.reads_lift (decode schema storage body))

/-- One occurrence of a value is decided by its payload. -/
theorem decided_decode (carried : wire.Carries payload) :
    (shape : Shape) → (storage : shape.Value) → (shape.decode nested wire storage).Decided payload
  | .u32, _ =>
      decided_require fun admitted =>
        (Scan.decided_unsigned carried (bne_iff_ne.mp admitted)).bind fun _ => Scan.decided_lift _
  | .u64, _ =>
      decided_require fun admitted => Scan.decided_unsigned carried (bne_iff_ne.mp admitted)
  | .i32, _ =>
      decided_require fun admitted =>
        (Scan.decided_integer carried (bne_iff_ne.mp admitted)).bind fun _ => Scan.decided_lift _
  | .i64, _ =>
      decided_require fun admitted => Scan.decided_integer carried (bne_iff_ne.mp admitted)
  | .boolean, _ =>
      decided_require fun admitted =>
        Scan.decided_boolean (beq_iff_eq.mp admitted ▸ carried)
  | .text, _ =>
      decided_require fun admitted =>
        Scan.decided_text (beq_iff_eq.mp admitted ▸ carried)
  | .blob, _ =>
      decided_require fun admitted =>
        Scan.decided_delimited (beq_iff_eq.mp admitted ▸ carried)
  | .fixed size, _ =>
      decided_require fun admitted =>
        Scan.decided_fixedBytes size (beq_iff_eq.mp admitted ▸ carried)
  | .enumeration table, _ =>
      decided_require fun admitted =>
        (Scan.decided_ordinal (beq_iff_eq.mp admitted ▸ carried)).map table.ofOrdinal
  | .optional item, _ => (decided_decode carried item item.blank).map some
  | .repeated item, items => by
      rw [Shape.decode]
      split
      · refine (decided_openBody carried).bind fun _ => ?_
        exact (Scan.decided_lift _).bind fun _ => (Scan.reads_pure _).decided
      · exact (decided_decode carried item item.blank).bind fun _ => (Scan.reads_pure _).decided
  | .boxed item, storage => decided_decode carried item storage
  | .object schema, storage => decided_decodeNested carried schema storage
  | .nest, storage => (decided_decodeNested carried Nest.schema storage.toRecord).map Nest.ofRecord

theorem takes_require {α : Type} {expectation : Expectation} {next : Unit → Scan α}
    (others : expectation.admits wire = true → (next ()).Takes wire) :
    (Scan.lift (expectation.require wire) >>= next).Takes wire := by
  refine Scan.takes_after_lift fun _ passes => ?_
  exact others (Expectation.require_eq_ok_iff.mp passes)

theorem takes_openBody {Decoder : Type} (opener : Option Decoder) :
    (openBody opener wire).Takes wire := by
  cases opener with
  | none => exact Scan.takes_throw tooDeep
  | some decode =>
      refine takes_require fun admitted => ?_
      have same : wire = .lengthDelimited := beq_iff_eq.mp admitted
      subst same
      exact Scan.takes_delimited.bind fun body => Scan.keeps_pure _

theorem takes_decodeNested (schema : Schema) (storage : schema.Record) :
    (decodeNested nested wire schema storage).Takes wire :=
  (takes_openBody nested).bind fun _ => Scan.keeps_lift _

/-- A value that is read takes one payload. -/
theorem takes_decode : (shape : Shape) → (storage : shape.Value) →
    (shape.decode nested wire storage).Takes wire
  | .u32, _ =>
      takes_require fun admitted =>
        (Scan.takes_unsigned (bne_iff_ne.mp admitted)).bind fun _ => Scan.keeps_lift _
  | .u64, _ => takes_require fun admitted => Scan.takes_unsigned (bne_iff_ne.mp admitted)
  | .i32, _ =>
      takes_require fun admitted =>
        (Scan.takes_integer (bne_iff_ne.mp admitted)).bind fun _ => Scan.keeps_lift _
  | .i64, _ => takes_require fun admitted => Scan.takes_integer (bne_iff_ne.mp admitted)
  | .boolean, _ => takes_require fun admitted => (beq_iff_eq.mp admitted) ▸ Scan.takes_boolean
  | .text, _ => takes_require fun admitted => (beq_iff_eq.mp admitted) ▸ Scan.takes_text
  | .blob, _ => takes_require fun admitted => (beq_iff_eq.mp admitted) ▸ Scan.takes_delimited
  | .fixed size, _ =>
      takes_require fun admitted => (beq_iff_eq.mp admitted) ▸ Scan.takes_fixedBytes size
  | .enumeration table, _ =>
      takes_require fun admitted =>
        (beq_iff_eq.mp admitted) ▸ Scan.takes_ordinal.map table.ofOrdinal
  | .optional item, _ => (takes_decode item item.blank).map some
  | .repeated item, items => by
      rw [Shape.decode]
      split
      · refine (takes_openBody nested).bind fun _ => ?_
        exact (Scan.keeps_lift _).bind fun _ => Scan.keeps_pure _
      · exact (takes_decode item item.blank).bind fun _ => Scan.keeps_pure _
  | .boxed item, storage => takes_decode item storage
  | .object schema, storage => takes_decodeNested schema storage
  | .nest, storage => (takes_decodeNested Nest.schema storage.toRecord).map Nest.ofRecord

theorem decided_decodeField? (carried : wire.Carries payload) (id : UInt32) :
    (schema : Schema) → (draft : schema.Draft) → (scan : Scan schema.Draft) →
      schema.decodeField? nested wire id draft = some scan → scan.Decided payload
  | .nil, _, _, found => by cases found
  | .field _ _ _ shape others, ((value, seen), draft), scan, found => by
      rw [Schema.decodeField?] at found
      split at found
      · cases found
        exact (decided_decode carried shape value).map _
      · obtain ⟨inner, behind, rfl⟩ := Option.map_eq_some_iff.mp found
        exact (decided_decodeField? carried id others draft inner behind).map _

theorem decided_decodeOccurrence (carried : wire.Carries payload) (schema : Schema)
    (draft : schema.Draft) (id : UInt32) :
    (schema.decodeOccurrence nested draft id wire).Decided payload := by
  rw [Schema.decodeOccurrence]
  split
  · rename_i scan found
    exact decided_decodeField? carried id schema draft scan found
  · exact (Scan.reads_skip carried).decided.map _

theorem takes_decodeField? (id : UInt32) :
    (schema : Schema) → (draft : schema.Draft) → (scan : Scan schema.Draft) →
      schema.decodeField? nested wire id draft = some scan → scan.Takes wire
  | .nil, _, _, found => by cases found
  | .field _ _ _ shape others, ((value, seen), draft), scan, found => by
      rw [Schema.decodeField?] at found
      split at found
      · cases found
        exact (takes_decode shape value).map _
      · obtain ⟨inner, behind, rfl⟩ := Option.map_eq_some_iff.mp found
        exact (takes_decodeField? id others draft inner behind).map _

theorem takes_decodeOccurrence (schema : Schema) (draft : schema.Draft) (id : UInt32) :
    (schema.decodeOccurrence nested draft id wire).Takes wire := by
  rw [Schema.decodeOccurrence]
  split
  · rename_i scan found
    exact takes_decodeField? id schema draft scan found
  · exact (Scan.takes_skip wire).map _

end Values

/-! ## The fields of a body -/

theorem decodeFields_nil {schema : Schema} (draft : schema.Draft) :
    schema.decodeFields nested draft [] = .ok draft := by
  rw [Schema.decodeFields]
  rfl

/-- Behind a tag an occurrence of its field is read, and then come the fields behind it. -/
theorem decodeFields_tagged {schema : Schema} (draft : schema.Draft) {body rest : Bytes}
    {id : UInt32} {wire : WireType} (tagged : Scan.tag body = .ok (id, wire) rest) :
    schema.decodeFields nested draft body =
      match schema.decodeOccurrence nested draft id wire rest with
      | .error error _ => .error error
      | .ok draft rest => schema.decodeFields nested draft rest := by
  rw [Schema.decodeFields, Scan.isEmpty_of_tag tagged, if_neg Bool.false_ne_true]
  split
  · rename_i refused
    rw [tagged] at refused
    cases refused
  · rename_i number found left ran
    rw [tagged] at ran
    cases ran
    split
    · rename_i failed
      rw [failed]
    · rename_i taken
      rw [taken]

/-- A tag that is refused ends the reading. -/
theorem decodeFields_untagged {schema : Schema} (draft : schema.Draft) {body left : Bytes}
    {error : Error} (filled : body.isEmpty = false)
    (refused : Scan.tag body = .error error left) :
    schema.decodeFields nested draft body = .error error := by
  rw [Schema.decodeFields, filled, if_neg Bool.false_ne_true]
  split
  · rename_i failed
    rw [refused] at failed
    cases failed
    rfl
  · rename_i tagged
    rw [refused] at tagged
    cases tagged

/-- A field is read by its tag and its payload, and then come the fields behind it. -/
theorem decodeFields_occurrence {schema : Schema} {draft : schema.Draft} {id : UInt32}
    {wire : WireType} {payload : Bytes} {result : Except Error schema.Draft}
    (small : id.toNat < 2 ^ 29)
    (settles : (schema.decodeOccurrence nested draft id wire).Settles payload result)
    (rest : Bytes) :
    schema.decodeFields nested draft (Varint.encode (wire.tag id) ++ payload ++ rest) =
      result >>= fun draft => schema.decodeFields nested draft rest := by
  rw [List.append_assoc, decodeFields_tagged draft (Scan.reads_tag small wire (payload ++ rest))]
  cases result with
  | ok taken =>
      rw [settles rest]
      rfl
  | error refusal =>
      obtain ⟨left, run⟩ := settles rest
      rw [run]
      rfl

/-- A complete field taken into the draft of an object. -/
def Schema.takeField (nested : Option NestedDecoder) (schema : Schema) (draft : schema.Draft)
    (field : WireField) : Except Error schema.Draft :=
  outcome (schema.decodeOccurrence nested draft field.id field.wire field.payload)

theorem settles_takeField (schema : Schema) (draft : schema.Draft) (field : WireField) :
    (schema.decodeOccurrence nested draft field.id field.wire).Settles field.payload
      (schema.takeField nested draft field) :=
  (decided_decodeOccurrence field.complete schema draft field.id).settles

theorem decodeFields_field (schema : Schema) (draft : schema.Draft) (field : WireField)
    (rest : Bytes) :
    schema.decodeFields nested draft (field.bytes ++ rest) =
      schema.takeField nested draft field >>= fun draft =>
        schema.decodeFields nested draft rest :=
  decodeFields_occurrence field.small (settles_takeField schema draft field) rest

/-- Complete fields are taken one after the other, and then the rest is read. -/
theorem decodeFields_join (schema : Schema) (draft : schema.Draft) (fields : List WireField)
    (rest : Bytes) :
    schema.decodeFields nested draft (WireField.join fields ++ rest) =
      fields.foldlM (schema.takeField nested) draft >>= fun draft =>
        schema.decodeFields nested draft rest := by
  induction fields generalizing draft with
  | nil => rfl
  | cons field fields hypothesis =>
      rw [WireField.join_cons, List.append_assoc, decodeFields_field, List.foldlM_cons]
      cases schema.takeField nested draft field with
      | error error => rfl
      | ok draft => exact hypothesis draft

end SecurityKey
