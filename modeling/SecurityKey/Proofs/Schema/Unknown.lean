import SecurityKey.Proofs.Schema.FieldByField

/-!
# Unknown fields

An object may hold fields that its schema does not list, and the objects inside it may too.
`Inserted` relates two bodies of which one has such a field more, at any depth; further out,
only the lengths in front of the enclosing bodies differ.  Nothing is asked of the bytes behind
the field or behind the enclosing bodies: they may be broken, or missing.

The main statement is `Schema.decode_unknown`: the two bodies are read alike, as the same
object or with the same error.  It is shown by induction on where the field was inserted.  What
is needed at the fields around it is that a nested object is read alike from both bodies into
whatever storage (`Shape.alike_decode`), because an option, a repetition or a box passes on
what was read.
-/

set_option autoImplicit false

namespace SecurityKey

variable {nested : Option NestedDecoder}

/-! ## The objects inside an object -/

/-- The schema of the objects that a shape holds, behind options, repetitions and boxes. -/
def Shape.inner? : Shape → Option Schema
  | .object schema => some schema
  | .nest => some Nest.schema
  | .optional item | .repeated item | .boxed item => item.inner?
  | _ => none

/-- The schema of the objects under a field number. -/
def Schema.inner? (id : UInt32) : Schema → Option Schema
  | .nil => none
  | .field number _ _ shape others => if number = id then shape.inner? else others.inner? id

/-- Two bodies, the second of which has a field more that is not listed where it stands: in the
object itself, behind some complete fields, or in an object inside. -/
inductive Inserted : Schema → Bytes → Bytes → Prop where
  | field {schema : Schema} (before : List WireField) (unknown : WireField) (rest : Bytes)
      (unlisted : unknown.id ∉ schema.ids) :
      Inserted schema (WireField.join before ++ rest)
        (WireField.join before ++ unknown.bytes ++ rest)
  | inside {schema inner : Schema} {shorter longer : Bytes} (before : List WireField)
      (id : UInt32) (rest : Bytes) (small : id.toNat < 2 ^ 29)
      (holds : schema.inner? id = some inner) (inserted : Inserted inner shorter longer)
      (fits : shorter.length < 2 ^ 64) (fitsLonger : longer.length < 2 ^ 64) :
      Inserted schema (WireField.join before ++ Bytes.ofDelimitedField id shorter ++ rest)
        (WireField.join before ++ Bytes.ofDelimitedField id longer ++ rest)

/-! ## Fields that are not listed -/

theorem decodeField?_unlisted (wire : WireType) {id : UInt32} :
    (schema : Schema) → id ∉ schema.ids → (draft : schema.Draft) →
      schema.decodeField? nested wire id draft = none
  | .nil, _, _ => rfl
  | .field number _ _ _ others, unlisted, (_, draft) => by
      obtain ⟨other, unlisted⟩ := not_or.mp (mt List.mem_cons.mpr unlisted)
      rw [Schema.decodeField?, if_neg (Ne.symm other),
        decodeField?_unlisted wire others unlisted draft]
      rfl

/-- A field that is not listed leaves the draft as it is. -/
theorem takeField_unlisted {schema : Schema} (draft : schema.Draft) {field : WireField}
    (unlisted : field.id ∉ schema.ids) : schema.takeField nested draft field = .ok draft := by
  have skipped := (Scan.reads_skip field.complete).map fun _ => draft
  rw [Schema.takeField, Schema.decodeOccurrence, decodeField?_unlisted _ schema unlisted]
  exact skipped.settles.outcome_eq

/-! ## Bodies that are read alike -/

/-- A scan comes to the same result over either of two payloads. -/
def Scan.Alike {α : Type} (scan : Scan α) (first second : Bytes) : Prop :=
  ∃ result, scan.Settles first result ∧ scan.Settles second result

theorem Scan.Alike.map {α β : Type} {scan : Scan α} {first second : Bytes}
    (alike : scan.Alike first second) (function : α → β) :
    (function <$> scan).Alike first second := by
  obtain ⟨result, settles, others⟩ := alike
  exact ⟨_, settles.map function, others.map function⟩

theorem Scan.Alike.outcome_eq {α : Type} {scan : Scan α} {first second : Bytes}
    (alike : scan.Alike first second) : outcome (scan first) = outcome (scan second) := by
  obtain ⟨result, settles, others⟩ := alike
  exact settles.outcome_eq.trans others.outcome_eq.symm

section Bodies

variable {inner : Schema} {shorter longer : Bytes}

/-- Two bodies that every decoder of the objects in reach reads alike. -/
def SameBody (nested : Option NestedDecoder) (inner : Schema) (shorter longer : Bytes) : Prop :=
  ∀ decode ∈ nested, ∀ storage : inner.Record,
    decode inner storage longer = decode inner storage shorter

variable (same : SameBody nested inner shorter longer) (fits : shorter.length < 2 ^ 64)
  (fitsLonger : longer.length < 2 ^ 64)

include same fits fitsLonger

theorem alike_decodeNested (storage : inner.Record) :
    (decodeNested nested .lengthDelimited inner storage).Alike
      (Varint.encode shorter.length ++ shorter) (Varint.encode longer.length ++ longer) := by
  cases nested with
  | none => exact ⟨_, Scan.settles_throw tooDeep _, Scan.settles_throw tooDeep _⟩
  | some decode =>
      have others := settles_decodeNested decode inner storage fitsLonger
      rw [same decode rfl storage] at others
      exact ⟨_, settles_decodeNested decode inner storage fits, others⟩

/-- Options, repetitions and boxes of objects are read alike from bodies that are. -/
theorem Shape.alike_decode : (shape : Shape) → shape.inner? = some inner →
    (storage : shape.Value) → (shape.decode nested .lengthDelimited storage).Alike
      (Varint.encode shorter.length ++ shorter) (Varint.encode longer.length ++ longer)
  | .optional item, holds, _ => (alike_decode item holds item.blank).map some
  | .boxed item, holds, storage => alike_decode item holds storage
  | .repeated item, holds, items => by
      -- A shape that holds objects is no scalar, so this is no packed run.
      have single : item.packable = false := by
        cases item <;> first | rfl | cases holds
      have alike := (alike_decode item holds item.blank).map fun value => List.append items [value]
      rw [← bind_pure_comp] at alike
      rw [Shape.decode, single, Bool.false_and, if_neg Bool.false_ne_true]
      exact alike
  | .object schema, holds, storage => by
      cases holds
      exact alike_decodeNested same fits fitsLonger storage
  | .nest, holds, storage => by
      cases holds
      exact (alike_decodeNested same fits fitsLonger storage.toRecord).map Nest.ofRecord
  | .u32, holds, _ | .u64, holds, _ | .i32, holds, _ | .i64, holds, _ | .boolean, holds, _
  | .text, holds, _ | .blob, holds, _ | .fixed _, holds, _ | .enumeration _, holds, _ => by
      cases holds

theorem alike_decodeField? {id : UInt32} :
    (schema : Schema) → schema.inner? id = some inner → (draft : schema.Draft) →
      ∃ scan, schema.decodeField? nested .lengthDelimited id draft = some scan ∧
        scan.Alike (Varint.encode shorter.length ++ shorter)
          (Varint.encode longer.length ++ longer)
  | .nil, holds, _ => by cases holds
  | .field number _ _ shape others, holds, ((value, seen), draft) => by
      rw [Schema.inner?] at holds
      rw [Schema.decodeField?]
      split at holds
      · rename_i here
        rw [if_pos here]
        exact ⟨_, rfl, (Shape.alike_decode same fits fitsLonger shape holds value).map _⟩
      · rename_i other
        obtain ⟨scan, found, alike⟩ := alike_decodeField? others holds draft
        rw [if_neg other, found]
        exact ⟨_, rfl, alike.map _⟩

/-- An object takes two bodies of an object inside alike when they are read alike. -/
theorem takeField_inside {schema : Schema} (draft : schema.Draft) {id : UInt32}
    (small : id.toNat < 2 ^ 29) (holds : schema.inner? id = some inner) :
    schema.takeField nested draft (.delimited id longer small fitsLonger) =
      schema.takeField nested draft (.delimited id shorter small fits) := by
  obtain ⟨scan, found, alike⟩ := alike_decodeField? same fits fitsLonger schema holds draft
  have occurrence : schema.decodeOccurrence nested draft id .lengthDelimited = scan := by
    rw [Schema.decodeOccurrence, found]
  have reads := alike.outcome_eq.symm
  rw [← occurrence] at reads
  exact reads

end Bodies

/-! ## Whole objects -/

/-- A body is read alike with and without an unknown field when the bodies inside are. -/
theorem decodeBody_inserted {schema : Schema} (storage : schema.Record) {shorter longer : Bytes}
    (inserted : Inserted schema shorter longer)
    (inside : ∀ (inner : Schema) (shorter longer : Bytes), Inserted inner shorter longer →
      SameBody nested inner shorter longer) :
    schema.decodeBody nested storage longer = schema.decodeBody nested storage shorter := by
  rw [Schema.decodeBody, Schema.decodeBody]
  cases inserted with
  | field before unknown rest unlisted =>
      rw [List.append_assoc, decodeFields_join, decodeFields_join]
      refine congrArg (· >>= schema.finish) (congrArg _ (funext fun draft => ?_))
      rw [decodeFields_field, takeField_unlisted draft unlisted]
      rfl
  | @inside _ inner shorter longer before id rest small holds inserted fits fitsLonger =>
      have same := inside inner shorter longer inserted
      rw [List.append_assoc, List.append_assoc, decodeFields_join, decodeFields_join]
      refine congrArg (· >>= schema.finish) (congrArg _ (funext fun draft => ?_))
      rw [← WireField.bytes_delimited small fits, ← WireField.bytes_delimited small fitsLonger,
        decodeFields_field, decodeFields_field,
        takeField_inside same fits fitsLonger draft small holds]

theorem decodeAt_inserted (room : Nat) {schema : Schema} (storage : schema.Record)
    {shorter longer : Bytes} (inserted : Inserted schema shorter longer) :
    Schema.decodeAt room schema storage longer = Schema.decodeAt room schema storage shorter := by
  have alike := Schema.decodeAt_induction
    (fun decode => ∀ (schema : Schema) (storage : schema.Record) (shorter longer : Bytes),
      Inserted schema shorter longer → decode schema storage longer = decode schema storage shorter)
    (fun _ inside _ storage _ _ inserted =>
      decodeBody_inserted storage inserted fun inner shorter longer inserted decode reached
        storage => inside decode reached inner storage shorter longer inserted) room
  exact alike schema storage shorter longer inserted

/-- **Unknown fields are invisible.**  An object is read alike, as the same record or with the
same error, with and without a field that its schema does not list, and with and without a
field that the schema of an object inside it does not list. -/
theorem Schema.decode_unknown (schema : Schema) :
    (∀ (before : List WireField) (unknown : WireField) (rest : Bytes),
      unknown.id ∉ schema.ids →
        schema.decode (WireField.join before ++ unknown.bytes ++ rest) =
          schema.decode (WireField.join before ++ rest)) ∧
    ∀ shorter longer : Bytes, Inserted schema shorter longer →
      schema.decode longer = schema.decode shorter := by
  have invisible : ∀ shorter longer : Bytes, Inserted schema shorter longer →
      schema.decode longer = schema.decode shorter :=
    fun _ _ inserted => decodeAt_inserted (maximumDepth - 1) schema.blank inserted
  exact ⟨fun before unknown rest unlisted => invisible _ _ (.field before unknown rest unlisted),
    invisible⟩

/-- A field with the number of a level. -/
def levelField : WireField where
  id := 1
  wire := .varint
  payload := [5]
  small := by decide
  complete := ⟨5, by decide, by decide +kernel⟩

/-- A field with a number that nodes do not list. -/
def strayField : WireField where
  id := 9
  wire := .fixed32
  payload := [1, 2, 3, 4]
  small := by decide
  complete := rfl

/-- A node and the node inside it, each with a field more behind its level.  The bytes at the
end are those of a text that is cut off. -/
theorem Schema.decode_unknown_in_child :
    Nest.schema.decode [8, 5, 77, 1, 2, 3, 4, 34, 9] = Nest.schema.decode [8, 5, 34, 9] ∧
      Nest.schema.decode [8, 5, 18, 7, 8, 5, 77, 1, 2, 3, 4, 34, 9] =
        Nest.schema.decode [8, 5, 18, 2, 8, 5, 34, 9] := by
  have unlisted : strayField.id ∉ Nest.schema.ids := by decide
  have level : levelField.bytes = [8, 5] := by decide +kernel
  have stray : strayField.bytes = [77, 1, 2, 3, 4] := by decide +kernel
  have inner : Inserted Nest.schema [8, 5] [8, 5, 77, 1, 2, 3, 4] := by
    have inserted := Inserted.field [levelField] strayField [] unlisted
    simpa [WireField.join, level, stray] using inserted
  have outer : Inserted Nest.schema [8, 5, 18, 2, 8, 5, 34, 9]
      [8, 5, 18, 7, 8, 5, 77, 1, 2, 3, 4, 34, 9] := by
    have inserted : Inserted Nest.schema _ _ :=
      .inside [levelField] 2 [34, 9] (by decide) rfl inner (by decide) (by decide)
    have shorter : Bytes.ofDelimitedField 2 [8, 5] = [18, 2, 8, 5] := by decide +kernel
    have longer : Bytes.ofDelimitedField 2 [8, 5, 77, 1, 2, 3, 4] =
        [18, 7, 8, 5, 77, 1, 2, 3, 4] := by decide +kernel
    simpa [WireField.join, level, shorter, longer] using inserted
  obtain ⟨atRoot, atAnyDepth⟩ := Schema.decode_unknown Nest.schema
  have root := atRoot [levelField] strayField [34, 9] unlisted
  refine ⟨?_, atAnyDepth _ _ outer⟩
  simpa [WireField.join, level, stray] using root

end SecurityKey
