import SecurityKey.Proofs.Schema.Absorb

/-!
# The fields that are written

What is written of an object is a list of complete fields: those of its first field, one for
every leaf, and behind them those of the others (`Schema.Spelled`).  None of them is a packed
run, so each of them holds one leaf (`WireField.Holding`).  The main statement is
`Schema.exists_spelled`; the depth at which the object stands does not matter for it.
-/

set_option autoImplicit false

namespace SecurityKey

/-- Whether a field on the wire has a number, and holds one leaf of a shape. -/
structure WireField.Holding (id : UInt32) (shape : Shape) (field : WireField) : Prop where
  number : field.id = id
  single : shape.base.packable → field.wire ≠ .lengthDelimited

variable {encoder : Option NestedEncoder} {id : UInt32}

section Leaf

variable (small : id.toNat < 2 ^ 29)
include small

theorem exists_field_of_varint (shape : Shape) {value : Nat} (fits : value < 2 ^ 64) :
    ∃ field : WireField, field.Holding id shape ∧ field.bytes = Bytes.ofVarintField id value :=
  ⟨⟨id, .varint, _, small, WireType.carries_varint fits⟩, ⟨rfl, fun _ => nofun⟩, rfl⟩

theorem exists_field_of_delimited {shape : Shape} (whole : shape.base.packable = false)
    {body : Bytes} (short : (Bytes.ofDelimitedField id body).length < 2 ^ 64) :
    ∃ field : WireField, field.Holding id shape ∧ field.bytes = Bytes.ofDelimitedField id body := by
  have fits := length_ofDelimitedField short
  refine ⟨.delimited id body small fits, ⟨rfl, ?_⟩, WireField.bytes_delimited small fits⟩
  intro packable
  rw [whole] at packable
  cases packable

/-- A nested object is one field. -/
theorem exists_field_of_nested {shape : Shape} (whole : shape.base.packable = false)
    {schema : Schema} {record : schema.Record} {bytes : Bytes}
    (encoded : encodeNested encoder id schema record = .ok bytes) (short : bytes.length < 2 ^ 64) :
    ∃ field : WireField, field.Holding id shape ∧ field.bytes = bytes := by
  cases encoder with
  | none => cases encoded
  | some encode =>
      obtain ⟨body, _, encoded⟩ := bind_eq_ok.mp encoded
      cases encoded
      exact exists_field_of_delimited small whole short

/-- A leaf is one field. -/
theorem exists_field_of_encode : (shape : Shape) → (leaf : shape.base.Value) → (bytes : Bytes) →
    shape.base.encode encoder id leaf = .ok bytes → bytes.length < 2 ^ 64 →
      ∃ field : WireField, field.Holding id shape ∧ field.bytes = bytes
  | .optional item, leaf, bytes, encoded, short | .repeated item, leaf, bytes, encoded, short
  | .boxed item, leaf, bytes, encoded, short => by
      obtain ⟨field, holding, same⟩ := exists_field_of_encode item leaf bytes encoded short
      exact ⟨field, ⟨holding.number, holding.single⟩, same⟩
  | .u32, (leaf : UInt32), _, encoded, _ => by
      cases encoded
      exact exists_field_of_varint small .u32 (Nat.lt_trans leaf.toNat_lt (by decide))
  | .u64, (leaf : UInt64), _, encoded, _ => by
      cases encoded
      exact exists_field_of_varint small .u64 leaf.toNat_lt
  | .i32, _, _, encoded, _ | .i64, _, _, encoded, _ => by cases encoded
  | .boolean, (leaf : Bool), _, encoded, _ => by
      cases encoded
      exact exists_field_of_varint small .boolean (Nat.lt_trans leaf.toNat_lt (by decide))
  | .enumeration table, leaf, _, encoded, _ => by
      cases encoded
      exact exists_field_of_varint small (.enumeration table) leaf.ordinal.toNat_lt
  | .text, _, _, encoded, short | .blob, _, _, encoded, short
  | .fixed _, _, _, encoded, short => by
      cases encoded
      exact exists_field_of_delimited small rfl short
  | .object _, _, _, encoded, short | .nest, _, _, encoded, short =>
      exists_field_of_nested small rfl encoded short

/-- The leaves of one field are that many fields with its number. -/
theorem exists_fields_of_writes {shape : Shape} {leaves : List shape.base.Value} {bytes : Bytes}
    (written : shape.base.Writes encoder id leaves bytes) (short : bytes.length < 2 ^ 64) :
    ∃ fields : List WireField, bytes = WireField.join fields ∧ fields.length = leaves.length ∧
      ∀ field ∈ fields, field.Holding id shape := by
  induction written with
  | nil => exact ⟨[], rfl, rfl, fun _ member => (List.not_mem_nil member).elim⟩
  | @cons leaf leaves first others encoded _ hypothesis =>
      rw [List.length_append] at short
      obtain ⟨field, holding, rfl⟩ :=
        exists_field_of_encode small shape leaf first encoded (by omega)
      obtain ⟨fields, rfl, count, all⟩ := hypothesis (by omega)
      exact ⟨field :: fields, rfl, congrArg Nat.succ count, List.forall_mem_cons.mpr ⟨holding, all⟩⟩

end Leaf

namespace Schema

/-- Whether some fields on the wire are what is written of an object: one for every leaf of the
first field, and behind them those of the others. -/
def Spelled : (schema : Schema) → schema.Record → List WireField → Prop
  | .nil, _, fields => fields = []
  | .field id _ required shape others, (value, record), fields =>
      ∃ own rest, fields = own ++ rest ∧ own.length = (shape.written required value).length ∧
        (∀ field ∈ own, field.Holding id shape) ∧ others.Spelled record rest

/-- What is written of an object is a list of fields. -/
theorem exists_spelled : (schema : Schema) → schema.Numbered → (record : schema.Record) →
    (bytes : Bytes) → schema.encodeFields encoder record = .ok bytes → bytes.length < 2 ^ 64 →
      ∃ fields, bytes = WireField.join fields ∧ schema.Spelled record fields
  | .nil, _, _, _, encoded, _ => by
      cases encoded
      exact ⟨[], rfl, rfl⟩
  | .field id name required shape others, ⟨small, _, _, numbered⟩, (value, record), _, encoded,
      short => by
      obtain ⟨first, last, written, encodedLast, rfl⟩ := writes_of_encodeFields encoded
      rw [List.length_append] at short
      obtain ⟨own, rfl, count, holding⟩ := exists_fields_of_writes small written (by omega)
      obtain ⟨rest, rfl, spelled⟩ :=
        exists_spelled others numbered record last encodedLast (by omega)
      exact ⟨own ++ rest, (WireField.join_append own rest).symm, own, rest, rfl, count, holding,
        spelled⟩

theorem exists_spelled_of_encode {schema : Schema} (numbered : schema.Numbered)
    {record : schema.Record} {bytes : Bytes} (encoded : schema.encode record = .ok bytes)
    (short : bytes.length < 2 ^ 64) :
    ∃ fields, bytes = WireField.join fields ∧ schema.Spelled record fields := by
  change schema.encodeFields (some (encodeAt 98)) record = .ok bytes at encoded
  exact exists_spelled schema numbered record bytes encoded short

/-- Every field that is written is listed. -/
theorem Spelled.listed : {schema : Schema} → {record : schema.Record} →
    {fields : List WireField} → schema.Spelled record fields →
      ∀ field ∈ fields, field.id ∈ schema.ids
  | .nil, _, _, rfl => fun _ member => (List.not_mem_nil member).elim
  | .field _ _ _ _ _, (_, _), _, ⟨_, _, rfl, _, holding, spelled⟩ => fun field member => by
      rcases List.mem_append.mp member with own | behind
      · exact List.mem_cons.mpr (.inl (holding field own).number)
      · exact List.mem_cons_of_mem _ (spelled.listed field behind)

end Schema
end SecurityKey
