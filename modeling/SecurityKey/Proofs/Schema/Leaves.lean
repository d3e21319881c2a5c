import SecurityKey.Proofs.Wire.Reads
import SecurityKey.Schema.Decode
import SecurityKey.Schema.Encode

/-!
# The leaves of a value

Options, repetitions and boxes leave no trace of their own on the wire.  What is written of a
value are its leaves, one occurrence for each, in order: `Shape.leaves`.  All of them have the
same shape, what is left of the shape of the value without options, repetitions and boxes:
`Shape.base`.

Writing a value is writing its leaves (`writes_leaves`), unless an option in it is unset, and
reading one occurrence into a value is reading a leaf and putting it where it belongs
(`settles_put`).
-/

set_option autoImplicit false

namespace SecurityKey
namespace Shape

/-- The shape of what one occurrence holds. -/
def base : Shape → Shape
  | .optional item | .repeated item | .boxed item => item.base
  | shape => shape

/-- What is written of a value, one occurrence after the other. -/
def leaves : (shape : Shape) → shape.Value → List shape.base.Value
  | .optional _, none => []
  | .optional item, some value => item.leaves value
  | .repeated item, items => List.flatMap item.leaves items
  | .boxed item, value => item.leaves value
  | .u32, value | .u64, value | .i32, value | .i64, value | .boolean, value | .text, value
  | .blob, value | .fixed _, value | .enumeration _, value | .object _, value
  | .nest, value => [value]

/-- The storage into which the next occurrence is read. -/
def under : (shape : Shape) → shape.Value → shape.base.Value
  | .optional item, _ | .repeated item, _ => item.under item.blank
  | .boxed item, value => item.under value
  | .u32, value | .u64, value | .i32, value | .i64, value | .boolean, value | .text, value
  | .blob, value | .fixed _, value | .enumeration _, value | .object _, value
  | .nest, value => value

/-- The value after an occurrence has been read. -/
def put : (shape : Shape) → shape.Value → shape.base.Value → shape.Value
  | .optional item, _, leaf => some (item.put item.blank leaf)
  | .repeated item, items, leaf => List.append items [item.put item.blank leaf]
  | .boxed item, value, leaf => item.put value leaf
  | .u32, _, leaf | .u64, _, leaf | .i32, _, leaf | .i64, _, leaf | .boolean, _, leaf
  | .text, _, leaf | .blob, _, leaf | .fixed _, _, leaf | .enumeration _, _, leaf
  | .object _, _, leaf | .nest, _, leaf => leaf

/-! ## Writing -/

/-- The bytes in which some values of a shape are written under a field number, one behind
the other. -/
inductive Writes (nested : Option NestedEncoder) (id : UInt32) (shape : Shape) :
    List shape.Value → Bytes → Prop where
  | nil : Writes nested id shape [] []
  | cons {value : shape.Value} {rest : List shape.Value} {first others : Bytes}
      (encoded : shape.encode nested id value = .ok first)
      (written : Writes nested id shape rest others) :
      Writes nested id shape (value :: rest) (first ++ others)

variable {nested : Option NestedEncoder} {id : UInt32}

theorem Writes.single {shape : Shape} {value : shape.Value} {bytes : Bytes}
    (encoded : shape.encode nested id value = .ok bytes) :
    Writes nested id shape [value] bytes := by
  have written := Writes.cons encoded .nil
  rwa [List.append_nil] at written

theorem Writes.append {shape : Shape} {values others : List shape.Value} {first second : Bytes}
    (written : Writes nested id shape values first)
    (behind : Writes nested id shape others second) :
    Writes nested id shape (values ++ others) (first ++ second) := by
  induction written with
  | nil => exact behind
  | cons encoded _ hypothesis =>
      rw [List.append_assoc]
      exact .cons encoded hypothesis

/-- Elements that were written one by one. -/
theorem writes_flatMap {item : Shape}
    (each : ∀ (value : item.Value) (bytes : Bytes), item.encode nested id value = .ok bytes →
      Writes nested id item.base (item.leaves value) bytes)
    (items : List item.Value) {fields : List Bytes}
    (encoded : List.mapM (item.encode nested id) items = .ok fields) :
    Writes nested id item.base (items.flatMap item.leaves) fields.flatten := by
  induction items generalizing fields with
  | nil =>
      cases encoded
      exact .nil
  | cons value rest hypothesis =>
      rw [List.mapM_cons] at encoded
      obtain ⟨bytes, first, encoded⟩ := bind_eq_ok.mp encoded
      obtain ⟨others, behind, encoded⟩ := bind_eq_ok.mp encoded
      cases encoded
      exact (each value bytes first).append (hypothesis behind)

/-- What is written of a value are its leaves. -/
theorem writes_leaves : (shape : Shape) → (value : shape.Value) → (bytes : Bytes) →
    shape.encode nested id value = .ok bytes →
      Writes nested id shape.base (shape.leaves value) bytes
  | .optional _, none, _, encoded => by cases encoded
  | .optional item, some value, bytes, encoded => writes_leaves item value bytes encoded
  | .repeated item, items, bytes, encoded => by
      rw [Shape.encode] at encoded
      obtain ⟨fields, each, encoded⟩ := bind_eq_ok.mp encoded
      cases encoded
      exact writes_flatMap (writes_leaves item) items each
  | .boxed item, value, bytes, encoded => writes_leaves item value bytes encoded
  | .u32, _, _, encoded | .u64, _, _, encoded | .i32, _, _, encoded | .i64, _, _, encoded
  | .boolean, _, _, encoded | .text, _, _, encoded | .blob, _, _, encoded
  | .fixed _, _, _, encoded | .enumeration _, _, _, encoded | .object _, _, _, encoded
  | .nest, _, _, encoded => .single encoded

/-- The leaves that are written of a field. -/
def written (required : Bool) (shape : Shape) (value : shape.Value) : List shape.base.Value :=
  if required || shape.isPresent value then shape.leaves value else []

theorem written_required (shape : Shape) (value : shape.Value) :
    shape.written true value = shape.leaves value := if_pos rfl

theorem absent_of_unwritten {required : Bool} {shape : Shape} {value : shape.Value}
    (unwritten : ¬(required || shape.isPresent value) = true) :
    shape.isPresent value = false :=
  (Bool.or_eq_false_iff.mp (Bool.eq_false_iff.mpr unwritten)).2

end Shape

theorem Schema.encodeFields_field {nested : Option NestedEncoder} (id : UInt32) (name : String)
    (required : Bool) (shape : Shape) (others : Schema) (value : shape.Value)
    (record : others.Record) :
    (Schema.field id name required shape others).encodeFields nested (value, record) =
      (if required || shape.isPresent value then shape.encode nested id value else pure []) >>=
        fun first => others.encodeFields nested record >>= fun rest => pure (first ++ rest) := by
  rw [encodeFields]
  split
  · rfl
  · rfl

/-- The first field is written before the others, leaf by leaf. -/
theorem Schema.writes_of_encodeFields {nested : Option NestedEncoder} {id : UInt32}
    {name : String} {required : Bool} {shape : Shape} {others : Schema} {value : shape.Value}
    {record : others.Record} {bytes : Bytes}
    (encoded : (Schema.field id name required shape others).encodeFields nested
      (value, record) = .ok bytes) :
    ∃ first rest, shape.base.Writes nested id (shape.written required value) first ∧
      others.encodeFields nested record = .ok rest ∧ bytes = first ++ rest := by
  rw [encodeFields_field] at encoded
  obtain ⟨first, encodedFirst, encoded⟩ := bind_eq_ok.mp encoded
  obtain ⟨rest, encodedRest, encoded⟩ := bind_eq_ok.mp encoded
  cases encoded
  refine ⟨first, rest, ?_, encodedRest, rfl⟩
  rw [Shape.written]
  by_cases present : (required || shape.isPresent value) = true
  · rw [if_pos present] at encodedFirst ⊢
    exact shape.writes_leaves value first encodedFirst
  · rw [if_neg present] at encodedFirst ⊢
    cases encodedFirst
    exact .nil

namespace Shape

/-! ## Reading -/

theorem packable_base {shape : Shape} (packable : shape.packable) : shape.base.packable := by
  cases shape <;> first | exact packable | cases packable

/-- An occurrence that holds one leaf is no packed run. -/
theorem packed_eq_false (item : Shape) {wire : WireType}
    (single : item.base.packable → wire ≠ .lengthDelimited) :
    (item.packable && wire == .lengthDelimited) = false := by
  cases packable : item.packable with
  | false => rfl
  | true => exact beq_eq_false_iff_ne.mpr (single (packable_base packable))

/-- Reading one occurrence that is not a packed run is reading a leaf and putting it where it
belongs. -/
theorem settles_put {decoder : Option NestedDecoder} {wire : WireType} {payload : Bytes} :
    (shape : Shape) → (storage : shape.Value) → (result : Except Error shape.base.Value) →
      (shape.base.packable → wire ≠ .lengthDelimited) →
      (shape.base.decode decoder wire (shape.under storage)).Settles payload result →
        (shape.decode decoder wire storage).Settles payload (shape.put storage <$> result)
  | .optional item, _, result, single, settles => by
      have settled := (settles_put item item.blank result single settles).map some
      cases result with
      | ok leaf => exact settled
      | error error => exact settled
  | .repeated item, items, result, single, settles => by
      have settled := (settles_put item item.blank result single settles).bind_pure
        fun value => List.append items [value]
      rw [Shape.decode, packed_eq_false item single, if_neg Bool.false_ne_true]
      cases result with
      | ok leaf => exact settled
      | error error => exact settled
  | .boxed item, value, result, single, settles => settles_put item value result single settles
  | .u32, _, result, _, settles | .u64, _, result, _, settles | .i32, _, result, _, settles
  | .i64, _, result, _, settles | .boolean, _, result, _, settles
  | .text, _, result, _, settles | .blob, _, result, _, settles
  | .fixed _, _, result, _, settles | .enumeration _, _, result, _, settles
  | .object _, _, result, _, settles | .nest, _, result, _, settles => by
      cases result with
      | ok leaf => exact settles
      | error error => exact settles

end Shape
end SecurityKey
