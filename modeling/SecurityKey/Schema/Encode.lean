import SecurityKey.Schema.Shape
import SecurityKey.Wire.Writer

/-!
# Encoding objects

A field is written when it is required or when its value is present, in the order
of the schema.  Scalars, texts and blobs are one field each; a repeated value is
one field for every element, under the same number; a nested object is a
length-delimited field.  A boxed value is written as what it wraps.

An option without a value cannot be written: a required option that is unset is
refused, as is an unset element.  An object that would be open inside more than
`maximumDepth` objects is refused before any of its fields is looked at.

An object at one depth is encoded with the encoder of the objects nested in it,
so the recursion is on the depth that is left: `Schema.encodeAt`.
-/

set_option autoImplicit false

namespace SecurityKey

/-- The encoder of the objects nested inside an object, giving their bodies. -/
abbrev NestedEncoder := (schema : Schema) → schema.Record → Except Error Bytes

/-- A nested object under a field number, when nesting is still allowed. -/
def encodeNested (nested : Option NestedEncoder) (id : UInt32) (schema : Schema)
    (record : schema.Record) : Except Error Bytes :=
  match nested with
  | none => .error tooDeep
  | some encode => do
      let body ← encode schema record
      pure (Bytes.ofDelimitedField id body)

/-- The fields that a value takes under a field number. -/
def Shape.encode (nested : Option NestedEncoder) (id : UInt32) :
    (shape : Shape) → shape.Value → Except Error Bytes
  | .u32, (value : UInt32) => .ok (Bytes.ofVarintField id value.toNat)
  | .u64, (value : UInt64) => .ok (Bytes.ofVarintField id value.toNat)
  | .i32, _ => .error .signedVarint
  | .i64, _ => .error .signedVarint
  | .boolean, (value : Bool) => .ok (Bytes.ofVarintField id value.toNat)
  | .text, (value : String) => .ok (Bytes.ofDelimitedField id (Bytes.ofText value))
  | .blob, (value : Bytes) => .ok (Bytes.ofDelimitedField id value)
  | .fixed _, value => .ok (Bytes.ofDelimitedField id value.bytes)
  | .enumeration _, value => .ok (Bytes.ofVarintField id value.ordinal.toNat)
  | .optional _, none => .error (.state .requiredUnset)
  | .optional item, some value => item.encode nested id value
  | .repeated item, items => do
      let fields ← List.mapM (item.encode nested id) items
      pure fields.flatten
  | .boxed item, value => item.encode nested id value
  | .object schema, record => encodeNested nested id schema record
  | .nest, value => encodeNested nested id Nest.schema value.toRecord

/-- The body of an object: its fields that are required or present, in order. -/
def Schema.encodeFields (nested : Option NestedEncoder) :
    (schema : Schema) → schema.Record → Except Error Bytes
  | .nil, _ => .ok []
  | .field id _ required shape others, (value, record) => do
      let first ←
        if required || shape.isPresent value then shape.encode nested id value else pure []
      let rest ← others.encodeFields nested record
      pure (first ++ rest)

/-- The body of an object inside which `room` more objects may be open. -/
def Schema.encodeAt : (room : Nat) → NestedEncoder
  | 0 => fun schema record => schema.encodeFields none record
  | room + 1 => fun schema record => schema.encodeFields (some (encodeAt room)) record

/-- The bytes of a root object. -/
def Schema.encode (schema : Schema) (record : schema.Record) : Except Error Bytes :=
  Schema.encodeAt (maximumDepth - 1) schema record

end SecurityKey
