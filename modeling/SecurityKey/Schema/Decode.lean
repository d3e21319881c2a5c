import SecurityKey.Schema.Shape
import SecurityKey.Wire.Cursor

/-!
# Decoding objects

An object is read field by field, in the order of the bytes.  A field whose number
the schema does not list is passed over.  A value is read into the storage that is
there: a scalar, a text or a blob is replaced, a repeated value grows, a nested
object is read in place, so that two occurrences of it are merged, and an option is
replaced by a value that was read from a blank one.

A length-delimited occurrence of a repeated scalar is a packed run of elements.
Packed runs and nested objects are containers: a container that would be open inside
more than `maximumDepth` containers is refused before its bytes are looked at.

When the body is used up, the first required field that never occurred is reported.

A body at one depth is decoded with the decoder of the bodies nested in it, so the
recursion is on the depth that is left: `Schema.decodeAt`.  The loop over the fields
of one body ends because every tag takes a byte (`Scan.shrinks_tag`) and no value
gives one back (`Shape.narrows_decode`).
-/

set_option autoImplicit false

namespace SecurityKey

/-- The decoder of the bodies nested inside an object, into storage that is there. -/
abbrev NestedDecoder := (schema : Schema) → schema.Record → Bytes → Except Error schema.Record

/-! ## Narrow integers -/

/-- An unsigned integer as a 32-bit one, when it fits. -/
def narrowUnsigned (value : UInt64) : Except Error UInt32 :=
  if value.toNat < 2 ^ 32 then
    .ok value.toUInt32
  else
    .error (.schema (.smallerInteger value.toNat (2 ^ 32 - 1)))

/-- A signed integer as a 32-bit one, when it fits. -/
def narrowSigned (value : Int64) : Except Error Int32 :=
  if value.toInt < -2 ^ 31 then
    .error (.schema (.largerInteger value.toInt (-2 ^ 31)))
  else if 2 ^ 31 ≤ value.toInt then
    .error (.schema (.smallerInteger value.toInt.toNat (2 ^ 31 - 1)))
  else
    .ok value.toInt32

/-! ## Containers -/

/-- The body of a length-delimited container, when another container may be opened. -/
def openBody {Decoder : Type} (nested : Option Decoder) (wire : WireType) :
    Scan (Decoder × Bytes) :=
  match nested with
  | none => throw tooDeep
  | some decode => do
      Scan.lift (Expectation.object.require wire)
      let body ← Scan.delimited
      pure (decode, body)

/-- A nested object, read into storage that is there. -/
def decodeNested (nested : Option NestedDecoder) (wire : WireType) (schema : Schema)
    (record : schema.Record) : Scan schema.Record := do
  let (decode, body) ← openBody nested wire
  Scan.lift (decode schema record body)

/-- The elements of a packed run, each read by `item`.  An element that took no byte
would be the last one. -/
def decodeRun {α : Type} (item : Scan α) (body : Bytes) : Except Error (List α) :=
  if body.isEmpty then
    .ok []
  else
    match item body with
    | .error error _ => .error error
    | .ok value rest =>
        if rest.length < body.length then do
          let values ← decodeRun item rest
          pure (value :: values)
        else
          .ok [value]
termination_by body.length

/-! ## Values -/

/-- One occurrence of a value, read into storage that is there. -/
def Shape.decode (nested : Option NestedDecoder) (wire : WireType) :
    (shape : Shape) → shape.Value → Scan shape.Value
  | .u32, _ => do
      Scan.lift (Expectation.unsignedInteger.require wire)
      let value ← Scan.unsigned wire
      Scan.lift (narrowUnsigned value)
  | .u64, _ => do
      Scan.lift (Expectation.unsignedInteger.require wire)
      Scan.unsigned wire
  | .i32, _ => do
      Scan.lift (Expectation.integer.require wire)
      let value ← Scan.integer wire
      Scan.lift (narrowSigned value)
  | .i64, _ => do
      Scan.lift (Expectation.integer.require wire)
      Scan.integer wire
  | .boolean, _ => do
      Scan.lift (Expectation.boolean.require wire)
      Scan.boolean
  | .text, _ => do
      Scan.lift (Expectation.string.require wire)
      Scan.text
  | .blob, _ => do
      Scan.lift (Expectation.binary.require wire)
      Scan.delimited
  | .fixed size, _ => do
      Scan.lift (Expectation.binary.require wire)
      Scan.fixedBytes size
  | .enumeration table, _ => do
      Scan.lift (Expectation.enumeration.require wire)
      table.ofOrdinal <$> Scan.ordinal
  | .optional item, _ => some <$> item.decode nested wire item.blank
  | .repeated item, items =>
      if item.packable && wire == .lengthDelimited then do
        let (_, body) ← openBody nested wire
        let run ← Scan.lift (decodeRun (item.decode none .varint item.blank) body)
        pure (List.append items run)
      else do
        let value ← item.decode nested wire item.blank
        pure (List.append items [value])
  | .boxed item, value => item.decode nested wire value
  | .object schema, record => decodeNested nested wire schema record
  | .nest, value => Nest.ofRecord <$> decodeNested nested wire Nest.schema value.toRecord

theorem narrows_openBody {Decoder : Type} (nested : Option Decoder) (wire : WireType) :
    (openBody nested wire).Narrows := by
  unfold openBody
  cases nested with
  | none => exact Scan.narrows_throw _
  | some decode =>
      exact (Scan.narrows_lift _).bind fun _ =>
        Scan.narrows_delimited.bind fun _ => Scan.narrows_pure _

theorem narrows_decodeNested (nested : Option NestedDecoder) (wire : WireType) (schema : Schema)
    (record : schema.Record) : (decodeNested nested wire schema record).Narrows :=
  (narrows_openBody nested wire).bind fun _ => Scan.narrows_lift _

/-- Reading a value never leaves more than was there. -/
theorem Shape.narrows_decode (nested : Option NestedDecoder) (wire : WireType) :
    (shape : Shape) → (value : shape.Value) → (shape.decode nested wire value).Narrows
  | .u32, _ =>
      (Scan.narrows_lift _).bind fun _ =>
        (Scan.narrows_unsigned wire).bind fun _ => Scan.narrows_lift _
  | .u64, _ => (Scan.narrows_lift _).bind fun _ => Scan.narrows_unsigned wire
  | .i32, _ =>
      (Scan.narrows_lift _).bind fun _ =>
        (Scan.narrows_integer wire).bind fun _ => Scan.narrows_lift _
  | .i64, _ => (Scan.narrows_lift _).bind fun _ => Scan.narrows_integer wire
  | .boolean, _ => (Scan.narrows_lift _).bind fun _ => Scan.narrows_boolean
  | .text, _ => (Scan.narrows_lift _).bind fun _ => Scan.narrows_text
  | .blob, _ => (Scan.narrows_lift _).bind fun _ => Scan.narrows_delimited
  | .fixed size, _ => (Scan.narrows_lift _).bind fun _ => Scan.narrows_fixedBytes size
  | .enumeration _, _ =>
      (Scan.narrows_lift _).bind fun _ => Scan.narrows_ordinal.map _
  | .optional item, _ => (item.narrows_decode nested wire item.blank).map _
  | .repeated item, items => by
      unfold Shape.decode
      split
      · exact (narrows_openBody nested wire).bind fun _ =>
          (Scan.narrows_lift _).bind fun _ => Scan.narrows_pure _
      · exact (item.narrows_decode nested wire item.blank).bind fun _ => Scan.narrows_pure _
  | .boxed item, value => item.narrows_decode nested wire value
  | .object schema, record => narrows_decodeNested nested wire schema record
  | .nest, value => (narrows_decodeNested nested wire Nest.schema value.toRecord).map _

/-! ## Objects that are being read -/

/-- The type of the objects of a schema while they are read: every field with the
knowledge whether it has occurred. -/
def Schema.Draft : Schema → Type
  | .nil => Unit
  | .field _ _ _ shape others => (shape.Value × Bool) × others.Draft

namespace Schema

/-- The draft of an object of which no field has occurred. -/
def draft : (schema : Schema) → schema.Record → schema.Draft
  | .nil, _ => ()
  | .field _ _ _ _ others, (value, record) => ((value, false), others.draft record)

/-- The object of a draft, or the first required field that has not occurred. -/
def finish : (schema : Schema) → schema.Draft → Except Error schema.Record
  | .nil, _ => .ok ()
  | .field _ name required _ others, ((value, seen), draft) =>
      if required && !seen then
        .error (.schema (.missingField name))
      else do
        let record ← others.finish draft
        pure (value, record)

/-- Reads one occurrence of the first field with the number `id`, if there is one. -/
def decodeField? (nested : Option NestedDecoder) (wire : WireType) (id : UInt32) :
    (schema : Schema) → schema.Draft → Option (Scan schema.Draft)
  | .nil, _ => none
  | .field number _ _ shape others, ((value, seen), draft) =>
      if number = id then
        some ((fun value => ((value, true), draft)) <$> shape.decode nested wire value)
      else
        (others.decodeField? nested wire id draft).map fun scan =>
          (fun draft => ((value, seen), draft)) <$> scan

/-- Reads one occurrence of a field, or passes over one that is not listed. -/
def decodeOccurrence (nested : Option NestedDecoder) (schema : Schema) (draft : schema.Draft)
    (id : UInt32) (wire : WireType) : Scan schema.Draft :=
  match schema.decodeField? nested wire id draft with
  | some scan => scan
  | none => (fun _ => draft) <$> Scan.skip wire

theorem narrows_decodeField? (nested : Option NestedDecoder) (wire : WireType) (id : UInt32) :
    (schema : Schema) → (draft : schema.Draft) → (scan : Scan schema.Draft) →
      schema.decodeField? nested wire id draft = some scan → scan.Narrows
  | .nil, _, _, found => by cases found
  | .field number _ _ shape others, ((value, seen), draft), scan, found => by
      simp only [decodeField?] at found
      split at found
      · cases found
        exact (shape.narrows_decode nested wire value).map _
      · cases inner : others.decodeField? nested wire id draft with
        | none =>
            rw [inner] at found
            cases found
        | some scan =>
            rw [inner] at found
            cases found
            exact (narrows_decodeField? nested wire id others draft scan inner).map _

theorem narrows_decodeOccurrence (nested : Option NestedDecoder) (schema : Schema)
    (draft : schema.Draft) (id : UInt32) (wire : WireType) :
    (schema.decodeOccurrence nested draft id wire).Narrows := by
  unfold decodeOccurrence
  split
  · next scan found => exact narrows_decodeField? nested wire id schema draft scan found
  · exact (Scan.narrows_skip wire).map _

/-- Reads the fields of a body into a draft. -/
def decodeFields (nested : Option NestedDecoder) (schema : Schema) (draft : schema.Draft)
    (body : Bytes) : Except Error schema.Draft :=
  if body.isEmpty then
    .ok draft
  else
    match _tagged : Scan.tag body with
    | .error error _ => .error error
    | .ok (id, wire) rest =>
        match _occurred : schema.decodeOccurrence nested draft id wire rest with
        | .error error _ => .error error
        | .ok draft rest => decodeFields nested schema draft rest
termination_by body.length
decreasing_by
  exact Nat.lt_of_le_of_lt (narrows_decodeOccurrence _ _ _ _ _ _ _ _ _occurred)
    (Scan.shrinks_tag _ _ _ _tagged)

/-- Reads a whole body into an object that is there. -/
def decodeBody (nested : Option NestedDecoder) (schema : Schema) (record : schema.Record)
    (body : Bytes) : Except Error schema.Record := do
  let draft ← schema.decodeFields nested (schema.draft record) body
  schema.finish draft

/-- Reads a body inside which `room` more containers may be open. -/
def decodeAt : (room : Nat) → NestedDecoder
  | 0 => decodeBody none
  | room + 1 => decodeBody (some (decodeAt room))

/-- At every depth a body is read field by field. -/
theorem exists_decodeBody (room : Nat) : ∃ nested, decodeAt room = decodeBody nested := by
  cases room with
  | zero => exact ⟨none, rfl⟩
  | succ room => exact ⟨some (decodeAt room), rfl⟩

/-- What a decoder of bodies has from the decoder of the bodies nested in them, all of them have,
by induction on how many containers may still be opened. -/
theorem decodeAt_induction (holds : NestedDecoder → Prop)
    (step : ∀ nested : Option NestedDecoder, (∀ decode ∈ nested, holds decode) →
      holds (decodeBody nested))
    (room : Nat) : holds (decodeAt room) := by
  induction room with
  | zero => exact step none fun decode reached => by cases reached
  | succ room hypothesis =>
      refine step (some (decodeAt room)) fun decode reached => ?_
      cases reached
      exact hypothesis

/-- Reads a root object into an object that is there. -/
def decodeInto (schema : Schema) (record : schema.Record) (input : Bytes) :
    Except Error schema.Record :=
  decodeAt (maximumDepth - 1) schema record input

/-- Reads a root object. -/
def decode (schema : Schema) (input : Bytes) : Except Error schema.Record :=
  schema.decodeInto schema.blank input

end Schema

end SecurityKey
