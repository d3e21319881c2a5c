import SecurityKey.Proofs.Schema.RoundTrip
import SecurityKey.Proofs.Schema.Written

/-!
# Required fields

A required field is written whatever its value is, and a reader refuses an object of which a
required field never occurred.  The two agree on an option: when it is required and unset,
nothing is written at all (`Schema.Settled`).  They do not agree on a repetition.  A required
repetition without elements is written as no field, the object is written nonetheless, and
reading it fails because of the missing field (`Schema.encode_of_empty_repetition`).

The main statement is `Schema.required_iff_of_encode`.  An object that was written holds all its
required fields if and only if each of them has a leaf (`Schema.Filled`), and it can be read if
and only if this holds for the objects inside as well (`Schema.Supplied`); otherwise reading it
fails with a missing field, and never in another way.  Where no required field is a repetition,
whatever has been written can be read.
-/

set_option autoImplicit false

namespace SecurityKey

/-! ## The numbers in a body -/

namespace Bytes

/-- The numbers of the fields of a body, in the order of the bytes. -/
def fieldIds (body : Bytes) : Except Error (List UInt32) :=
  if body.isEmpty then
    .ok []
  else
    match _tagged : Scan.tag body with
    | .error error _ => .error error
    | .ok (id, wire) rest =>
        match _skipped : Scan.skip wire rest with
        | .error error _ => .error error
        | .ok _ rest => do
            let ids ← fieldIds rest
            pure (id :: ids)
termination_by body.length
decreasing_by
  exact Nat.lt_of_le_of_lt (Scan.narrows_skip _ _ _ _ _skipped) (Scan.shrinks_tag _ _ _ _tagged)

@[simp]
theorem fieldIds_nil : fieldIds [] = .ok [] := by
  rw [fieldIds]
  rfl

/-- A field is passed over by its tag and its payload. -/
theorem fieldIds_bytes (field : WireField) (rest : Bytes) :
    fieldIds (field.bytes ++ rest) = (fun ids => field.id :: ids) <$> fieldIds rest := by
  have tagged := Scan.reads_tag field.small field.wire (field.payload ++ rest)
  have skips := Scan.reads_skip field.complete
  rw [fieldIds, WireField.isEmpty_bytes_append, if_neg Bool.false_ne_true]
  split
  · rename_i error left broken
    rw [WireField.bytes, List.append_assoc, tagged] at broken
    cases broken
  · rename_i number found left ran
    rw [WireField.bytes, List.append_assoc, tagged] at ran
    cases ran
    split
    · rename_i error left broken
      rw [skips] at broken
      cases broken
    · rename_i left ran
      rw [skips] at ran
      cases ran
      exact bind_pure_comp _ _

theorem fieldIds_join (fields : List WireField) :
    fieldIds (WireField.join fields) = .ok (fields.map WireField.id) := by
  induction fields with
  | nil => exact fieldIds_nil
  | cons field fields hypothesis =>
      rw [WireField.join_cons, fieldIds_bytes, hypothesis]
      rfl

end Bytes

section Numbers

variable {encoder : Option NestedEncoder}

namespace Schema

/-- The numbers of the required fields, in order. -/
def requiredIds : Schema → List UInt32
  | .nil => []
  | .field id _ true _ others => id :: others.requiredIds
  | .field _ _ false _ others => others.requiredIds

/-- The numbers under which the leaves of an object are written, in order. -/
def writtenIds : (schema : Schema) → schema.Record → List UInt32
  | .nil, _ => []
  | .field id _ required shape others, (value, record) =>
      List.replicate (shape.written required value).length id ++ others.writtenIds record

theorem Spelled.map_id : {schema : Schema} → {record : schema.Record} →
    {fields : List WireField} → schema.Spelled record fields →
      fields.map WireField.id = schema.writtenIds record
  | .nil, _, _, rfl => rfl
  | .field id _ required shape _, (value, _), _, ⟨own, _, rfl, count, holding, spelled⟩ => by
      have first : own.map WireField.id =
          List.replicate (shape.written required value).length id := by
        refine List.eq_replicate_iff.mpr ⟨(List.length_map ..).trans count, ?_⟩
        exact List.forall_mem_map.mpr fun field member => (holding field member).number
      rw [List.map_append, first, spelled.map_id]
      rfl

/-- The body of an object holds one field for every leaf. -/
theorem fieldIds_encodeFields (schema : Schema) (numbered : schema.Numbered)
    (record : schema.Record) (bytes : Bytes)
    (encoded : schema.encodeFields encoder record = .ok bytes) (short : bytes.length < 2 ^ 64) :
    Bytes.fieldIds bytes = .ok (schema.writtenIds record) := by
  obtain ⟨fields, rfl, spelled⟩ := exists_spelled schema numbered record bytes encoded short
  rw [Bytes.fieldIds_join, spelled.map_id]

end Schema
end Numbers

/-! ## Objects with something in every required field -/

/-- Whether every required field of an object has a leaf. -/
def Schema.Filled : (schema : Schema) → schema.Record → Prop
  | .nil, _ => True
  | .field _ _ required shape others, (value, record) =>
      (required = true → shape.leaves value ≠ []) ∧ others.Filled record

section Filled

variable {id : UInt32} {name : String} {shape : Shape} {others : Schema} {value : shape.Value}
  {record : others.Record}

theorem filled_required : (Schema.required id name shape others).Filled (value, record) ↔
    shape.leaves value ≠ [] ∧ others.Filled record :=
  and_congr_left' (imp_iff_right rfl)

theorem filled_optional : (Schema.optional id name shape others).Filled (value, record) ↔
    others.Filled record :=
  and_iff_right fun required => absurd required Bool.false_ne_true

end Filled

mutual
/-- Whether every required field of every object in a value has a leaf. -/
def Shape.Supplied : (shape : Shape) → shape.Value → Prop
  | .optional _, none => True
  | .optional item, some value => item.Supplied value
  | .repeated item, (items : List item.Value) => ∀ value ∈ items, item.Supplied value
  | .boxed item, value => item.Supplied value
  | .object schema, record => schema.Filled record ∧ schema.FieldsSupplied record
  | _, _ => True

/-- The same for every object in the fields of an object. -/
def Schema.FieldsSupplied : (schema : Schema) → schema.Record → Prop
  | .nil, _ => True
  | .field _ _ _ shape others, (value, record) =>
      shape.Supplied value ∧ others.FieldsSupplied record
end

/-- Whether every required field of an object, and of every object inside, has a leaf. -/
def Schema.Supplied (schema : Schema) (record : schema.Record) : Prop :=
  schema.Filled record ∧ schema.FieldsSupplied record

theorem Nest.supplied_toRecord (nest : Nest) : schema.Supplied nest.toRecord := by
  obtain ⟨level, child, kids, tag⟩ := nest
  have children : (Shape.optional (.boxed .nest)).Supplied child := by
    cases child with
    | none => trivial
    | some child => trivial
  have all : (Shape.repeated .nest).Supplied kids := fun _ _ => trivial
  have filled : schema.Filled (toRecord ⟨level, child, kids, tag⟩) :=
    filled_required.mpr ⟨List.cons_ne_nil _ _,
      filled_optional.mpr (filled_optional.mpr (filled_optional.mpr trivial))⟩
  exact ⟨filled, trivial, children, all, trivial, trivial⟩

namespace Shape

/-- A value is supplied when its leaves are. -/
theorem supplied_leaves : (shape : Shape) → (value : shape.Value) →
    ((∀ leaf ∈ shape.leaves value, shape.base.Supplied leaf) ↔ shape.Supplied value)
  | .optional _, none => iff_of_true (fun _ member => by cases member) trivial
  | .optional item, some value => supplied_leaves item value
  | .repeated item, (items : List item.Value) => by
      change (∀ leaf ∈ items.flatMap item.leaves, item.base.Supplied leaf) ↔
        ∀ value ∈ items, item.Supplied value
      rw [List.forall_mem_flatMap]
      exact forall₂_congr fun value _ => supplied_leaves item value
  | .boxed item, value => supplied_leaves item value
  | .u32, _ | .u64, _ | .i32, _ | .i64, _ | .boolean, _ | .text, _ | .blob, _ | .fixed _, _
  | .enumeration _, _ | .object _, _ | .nest, _ => List.forall_mem_singleton

/-- No object is in a value that is not present. -/
theorem supplied_of_absent : (shape : Shape) → (value : shape.Value) →
    shape.isPresent value = false → shape.Supplied value
  | .text, _, _ | .blob, _, _ => trivial
  | .optional _, none, _ => trivial
  | .optional _, some _, absent => by cases absent
  | .repeated _, [], _ => fun _ member => by cases member
  | .repeated _, _ :: _, absent => by cases absent
  | .boxed item, value, absent => supplied_of_absent item value absent
  | .u32, _, absent | .u64, _, absent | .i32, _, absent | .i64, _, absent
  | .boolean, _, absent | .fixed _, _, absent | .enumeration _, _, absent
  | .object _, _, absent | .nest, _, absent => by cases absent

theorem supplied_written (required : Bool) (shape : Shape) (value : shape.Value) :
    (∀ leaf ∈ shape.written required value, shape.base.Supplied leaf) ↔
      shape.Supplied value := by
  rw [written]
  by_cases present : (required || shape.isPresent value) = true
  · rw [if_pos present]
    exact supplied_leaves shape value
  · rw [if_neg present]
    exact iff_of_true (fun _ member => by cases member)
      (supplied_of_absent shape value (absent_of_unwritten present))

end Shape

namespace Schema

theorem requiredIds_subset_ids : (schema : Schema) → schema.requiredIds ⊆ schema.ids
  | .nil => List.Subset.refl []
  | .field id _ required _ others => by
      have within := requiredIds_subset_ids others
      cases required with
      | false => exact List.subset_cons_of_subset id within
      | true => exact List.cons_subset_cons id within

theorem writtenIds_subset_ids : (schema : Schema) → (record : schema.Record) →
    schema.writtenIds record ⊆ schema.ids
  | .nil, _ => List.Subset.refl []
  | .field id _ required shape others, (value, record) => by
      refine List.append_subset.mpr ⟨?_, ?_⟩
      · exact List.replicate_subset.mpr (Or.inr (List.mem_cons_self ..))
      · exact List.subset_cons_of_subset id (writtenIds_subset_ids others record)

/-- All required fields are written if and only if each of them has a leaf. -/
theorem requiredIds_subset_iff : (schema : Schema) → schema.Numbered →
    (record : schema.Record) →
      (schema.requiredIds ⊆ schema.writtenIds record ↔ schema.Filled record)
  | .nil, _, _ => iff_of_true (List.Subset.refl []) trivial
  | .field id name required shape others, ⟨_, fresh, _, numbered⟩, (value, record) => by
      have unwritten : id ∉ others.writtenIds record :=
        fun member => fresh (writtenIds_subset_ids others record member)
      -- Whatever is written under the number of the first field counts for it alone.
      have later : others.requiredIds ⊆
          List.replicate (shape.written required value).length id ++ others.writtenIds record ↔
            others.Filled record := by
        rw [← requiredIds_subset_iff others numbered record]
        refine ⟨fun within other member => ?_, fun within => ?_⟩
        · rcases List.mem_append.mp (within member) with first | found
          · obtain rfl := List.eq_of_mem_replicate first
            exact absurd (requiredIds_subset_ids others member) fresh
          · exact found
        · exact List.subset_append_of_subset_right _ within
      cases required with
      | false => exact later.trans filled_optional.symm
      | true =>
          have first : id ∈ List.replicate (shape.written true value).length id ++
              others.writtenIds record ↔ shape.leaves value ≠ [] := by
            rw [List.mem_append, or_iff_left unwritten, List.mem_replicate, and_iff_left rfl]
            exact not_congr List.length_eq_zero_iff
          exact (List.cons_subset.trans (and_congr first later)).trans filled_required.symm

end Schema

/-! ## What becomes of an object that is read -/

/-- A result that is there under some condition, and otherwise is a missing field. -/
inductive Verdict {α : Type} (supplied : Prop) : Except Error α → Prop where
  | whole (value : α) (holds : supplied) : Verdict supplied (.ok value)
  | missing (name : String) (lacks : ¬supplied) :
      Verdict supplied (.error (.schema (.missingField name)))

namespace Verdict

variable {α β : Type} {supplied others : Prop} {result : Except Error α}

theorem congr (verdict : Verdict supplied result) (same : supplied ↔ others) :
    Verdict others result := by
  rwa [← propext same]

theorem map (verdict : Verdict supplied result) (function : α → β) :
    Verdict supplied (function <$> result) := by
  cases verdict with
  | whole value holds => exact .whole (function value) holds
  | missing name lacks => exact .missing name lacks

/-- A result from which another one is made that has a condition of its own. -/
theorem bind (verdict : Verdict supplied result) {next : α → Except Error β}
    (behind : ∀ value, result = .ok value → Verdict others (next value)) :
    Verdict (supplied ∧ others) (result >>= next) := by
  cases verdict with
  | whole value holds => exact (behind value rfl).congr (and_iff_right holds).symm
  | missing name lacks => exact .missing name fun both => lacks both.1

theorem exists_ok (verdict : Verdict supplied result) :
    (∃ value, result = .ok value) ↔ supplied := by
  cases verdict with
  | whole value holds => exact iff_of_true ⟨value, rfl⟩ holds
  | missing name lacks =>
      refine iff_of_false ?_ lacks
      rintro ⟨value, made⟩
      cases made

theorem exists_missing (verdict : Verdict supplied result) :
    (∃ name, result = .error (.schema (.missingField name))) ↔ ¬supplied := by
  cases verdict with
  | whole value holds =>
      refine iff_of_false ?_ (not_not_intro holds)
      rintro ⟨name, failed⟩
      cases failed
  | missing name lacks => exact iff_of_true ⟨name, rfl⟩ lacks

end Verdict

/-- Nested objects that were written are taken in when they are supplied, and only then. -/
def Judges (encoder : Option NestedEncoder) (absorber : Option Absorber) : Prop :=
  ∀ (id : UInt32) (schema : Schema) (storage record : schema.Record) (bytes : Bytes),
    encodeNested encoder id schema record = .ok bytes →
      Verdict (schema.Supplied record) (absorbNested absorber schema storage record)

section Verdicts

variable {encoder : Option NestedEncoder} {absorber : Option Absorber} {id : UInt32}
  (judges : Judges encoder absorber)
include judges

theorem verdict_absorb : (shape : Shape) → (storage leaf : shape.base.Value) →
    (bytes : Bytes) → shape.base.encode encoder id leaf = .ok bytes →
      Verdict (shape.base.Supplied leaf) (shape.base.absorb absorber storage leaf)
  | .optional item, storage, leaf, bytes, encoded | .repeated item, storage, leaf, bytes, encoded
  | .boxed item, storage, leaf, bytes, encoded =>
      verdict_absorb item storage leaf bytes encoded
  | .object schema, storage, leaf, bytes, encoded =>
      judges id schema storage leaf bytes encoded
  | .nest, storage, leaf, bytes, encoded => by
      have taken := judges id Nest.schema storage.toRecord leaf.toRecord bytes encoded
      exact (taken.congr (iff_of_true leaf.supplied_toRecord trivial)).map Nest.ofRecord
  | .u32, _, _, _, _ | .u64, _, _, _, _ | .i32, _, _, _, _ | .i64, _, _, _, _
  | .boolean, _, _, _, _ | .text, _, _, _, _ | .blob, _, _, _, _ | .fixed _, _, _, _, _
  | .enumeration _, _, _, _, _ => .whole _ trivial

/-- The leaves of a field are taken in when all of them are supplied. -/
theorem verdict_foldlM {shape : Shape} {leaves : List shape.base.Value} {bytes : Bytes}
    (written : shape.base.Writes encoder id leaves bytes) (storage : shape.Value) :
    Verdict (∀ leaf ∈ leaves, shape.base.Supplied leaf)
      (leaves.foldlM (shape.store absorber) storage) := by
  induction written generalizing storage with
  | nil => exact .whole storage fun _ member => by cases member
  | @cons leaf leaves first _ encoded _ hypothesis =>
      have taken := verdict_absorb judges shape (shape.under storage) leaf first encoded
      rw [List.foldlM_cons]
      exact ((taken.map _).bind fun storage _ => hypothesis storage).congr
        List.forall_mem_cons.symm

namespace Schema

/-- The fields of an object are taken in when all objects in them are supplied. -/
theorem verdict_absorbFields : (schema : Schema) → (draft : schema.Draft) →
    (record : schema.Record) → (bytes : Bytes) →
      schema.encodeFields encoder record = .ok bytes →
        Verdict (schema.FieldsSupplied record) (schema.absorbFields absorber draft record)
  | .nil, draft, _, _, _ => .whole draft trivial
  | .field id name required shape others, ((storage, seen), draft), (value, record), _,
      encoded => by
      obtain ⟨first, last, written, encodedLast, rfl⟩ := writes_of_encodeFields encoded
      have taken := (verdict_foldlM judges written storage).congr
        (shape.supplied_written required value)
      rw [absorbFields]
      refine taken.bind fun storage _ => ?_
      exact (verdict_absorbFields others draft record last encodedLast).map
        fun draft => ((storage, seen || !(shape.written required value).isEmpty), draft)

end Schema
end Verdicts

namespace Schema

/-- When all fields have been taken in, a required one is missing unless it had a leaf. -/
theorem verdict_finish {absorber : Option Absorber} : (schema : Schema) →
    (storage record : schema.Record) → (draft : schema.Draft) →
      schema.absorbFields absorber (schema.draft storage) record = .ok draft →
        Verdict (schema.Filled record) (schema.finish draft)
  | .nil, _, _, _, _ => .whole () trivial
  | .field id name required shape others, (storage, blank), (value, record), _, taken => by
      obtain ⟨stored, _, taken⟩ := bind_eq_ok.mp taken
      obtain ⟨draft, behind, taken⟩ := bind_eq_ok.mp taken
      cases taken
      have later := (verdict_finish others blank record draft behind).map
        fun record => ((stored, record) : (Schema.field id name required shape others).Record)
      rw [finish]
      cases required with
      | false => exact later.congr filled_optional.symm
      | true =>
          cases found : shape.leaves value with
          | nil =>
              have unseen : (shape.written true value).isEmpty = true :=
                List.isEmpty_iff.mpr found
              rw [unseen]
              exact .missing name fun filled => (filled_required.mp filled).1 found
          | cons leaf leaves =>
              have seen : (shape.written true value).isEmpty = false := by
                rw [Shape.written_required, found]
                rfl
              have first : shape.leaves value ≠ [] := found ▸ List.cons_ne_nil leaf leaves
              rw [seen]
              exact later.congr ((and_iff_right first).symm.trans filled_required.symm)

theorem verdict_absorbBody {encoder : Option NestedEncoder} {absorber : Option Absorber}
    (judges : Judges encoder absorber) (schema : Schema) (storage record : schema.Record)
    {bytes : Bytes} (encoded : schema.encodeFields encoder record = .ok bytes) :
    Verdict (schema.Supplied record) (schema.absorbBody absorber storage record) :=
  ((verdict_absorbFields judges schema (schema.draft storage) record bytes encoded).bind
    fun draft taken => verdict_finish schema storage record draft taken).congr and_comm

/-- At every depth. -/
theorem verdict_absorbAt (room : Nat) (schema : Schema) (storage record : schema.Record)
    {bytes : Bytes} (encoded : encodeAt room schema record = .ok bytes) :
    Verdict (schema.Supplied record) (absorbAt room schema storage record) := by
  induction room generalizing schema bytes with
  | zero =>
      have closed : Judges none none := fun _ _ _ _ _ encoded => by cases encoded
      exact verdict_absorbBody closed schema storage record encoded
  | succ room hypothesis =>
      have judges : Judges (some (encodeAt room)) (some (absorbAt room)) := by
        intro id schema storage record bytes encoded
        obtain ⟨body, inner, _⟩ := bind_eq_ok.mp encoded
        exact hypothesis schema storage record inner
      exact verdict_absorbBody judges schema storage record encoded

end Schema

/-! ## Options that are set -/

mutual
/-- Whether no option without a value has to be written. -/
def Shape.Settled : (shape : Shape) → shape.Value → Prop
  | .optional _, none => False
  | .optional item, some value => item.Settled value
  | .repeated item, (items : List item.Value) => ∀ value ∈ items, item.Settled value
  | .boxed item, value => item.Settled value
  | .object schema, record => schema.Settled record
  | _, _ => True

/-- The same for the fields of an object that are required or present. -/
def Schema.Settled : (schema : Schema) → schema.Record → Prop
  | .nil, _ => True
  | .field _ _ required shape others, (value, record) =>
      ((required || shape.isPresent value) = true → shape.Settled value) ∧ others.Settled record
end

section Settlement

variable {encoder : Option NestedEncoder}
  (nested : ∀ (id : UInt32) (schema : Schema) (record : schema.Record) (bytes : Bytes),
    encodeNested encoder id schema record = .ok bytes → schema.Settled record)
include nested

theorem settled_of_encode (id : UInt32) : (shape : Shape) → (value : shape.Value) →
    (bytes : Bytes) → shape.encode encoder id value = .ok bytes → shape.Settled value
  | .optional _, none, _, encoded => by cases encoded
  | .optional item, some value, bytes, encoded => settled_of_encode id item value bytes encoded
  | .repeated item, (items : List item.Value), _, encoded => by
      obtain ⟨fields, each, _⟩ := bind_eq_ok.mp encoded
      intro value member
      obtain ⟨bytes, encoded⟩ := exists_mapM_iff.mp ⟨fields, each⟩ value member
      exact settled_of_encode id item value bytes encoded
  | .boxed item, value, bytes, encoded => settled_of_encode id item value bytes encoded
  | .object schema, record, bytes, encoded => nested id schema record bytes encoded
  | .u32, _, _, _ | .u64, _, _, _ | .i32, _, _, _ | .i64, _, _, _ | .boolean, _, _, _
  | .text, _, _, _ | .blob, _, _, _ | .fixed _, _, _, _ | .enumeration _, _, _, _
  | .nest, _, _, _ => trivial

theorem settled_of_encodeFields : (schema : Schema) → (record : schema.Record) →
    (bytes : Bytes) → schema.encodeFields encoder record = .ok bytes → schema.Settled record
  | .nil, _, _, _ => trivial
  | .field id _ required shape others, (value, record), _, encoded => by
      rw [Schema.encodeFields_field] at encoded
      obtain ⟨first, encodedFirst, encoded⟩ := bind_eq_ok.mp encoded
      obtain ⟨rest, encodedRest, _⟩ := bind_eq_ok.mp encoded
      refine ⟨fun present => ?_, settled_of_encodeFields others record rest encodedRest⟩
      rw [if_pos present] at encodedFirst
      exact settled_of_encode nested id shape value first encodedFirst

end Settlement

/-- In an object that was written, no option that had to be written was unset. -/
theorem Schema.settled_of_encodeAt (room : Nat) (schema : Schema) (record : schema.Record)
    {bytes : Bytes} (encoded : encodeAt room schema record = .ok bytes) :
    schema.Settled record := by
  induction room generalizing schema bytes with
  | zero =>
      exact settled_of_encodeFields (fun _ _ _ _ encoded => by cases encoded) schema record bytes
        encoded
  | succ room hypothesis =>
      refine settled_of_encodeFields ?_ schema record bytes encoded
      intro id schema record bytes encoded
      obtain ⟨body, inner, _⟩ := bind_eq_ok.mp encoded
      exact hypothesis schema record inner

/-! ## Schemas that require no repetition -/

/-- Whether a value is written as one field when its options are set. -/
def Shape.Single : Shape → Prop
  | .optional item | .boxed item => item.Single
  | .repeated _ => False
  | _ => True

mutual
/-- Whether no object in a shape requires a repetition. -/
def Shape.Steady : Shape → Prop
  | .optional item | .repeated item | .boxed item => item.Steady
  | .object schema => schema.Steady
  | _ => True

/-- Whether no required field of an object, or of an object inside, is a repetition. -/
def Schema.Steady : Schema → Prop
  | .nil => True
  | .field _ _ required shape others =>
      (required = true → shape.Single) ∧ shape.Steady ∧ others.Steady
end

theorem leaves_ne_nil_of_single : (shape : Shape) → shape.Single → (value : shape.Value) →
    shape.Settled value → shape.leaves value ≠ []
  | .optional _, _, none, settled => settled.elim
  | .optional item, single, some value, settled =>
      leaves_ne_nil_of_single item single value settled
  | .repeated _, single, _, _ => single.elim
  | .boxed item, single, value, settled => leaves_ne_nil_of_single item single value settled
  | .u32, _, _, _ | .u64, _, _, _ | .i32, _, _, _ | .i64, _, _, _ | .boolean, _, _, _
  | .text, _, _, _ | .blob, _, _, _ | .fixed _, _, _, _ | .enumeration _, _, _, _
  | .object _, _, _, _ | .nest, _, _, _ => List.cons_ne_nil _ _

mutual
theorem Shape.supplied_of_steady : (shape : Shape) → shape.Steady → (value : shape.Value) →
    shape.Settled value → shape.Supplied value
  | .optional _, _, none, settled => settled.elim
  | .optional item, steady, some value, settled =>
      Shape.supplied_of_steady item steady value settled
  | .repeated item, steady, _, settled => fun value member =>
      Shape.supplied_of_steady item steady value (settled value member)
  | .boxed item, steady, value, settled => Shape.supplied_of_steady item steady value settled
  | .object schema, steady, record, settled =>
      Schema.supplied_of_steady schema steady record settled
  | .u32, _, _, _ | .u64, _, _, _ | .i32, _, _, _ | .i64, _, _, _ | .boolean, _, _, _
  | .text, _, _, _ | .blob, _, _, _ | .fixed _, _, _, _ | .enumeration _, _, _, _
  | .nest, _, _, _ => trivial

/-- Where no repetition is required, set options are all that a required field needs. -/
theorem Schema.supplied_of_steady : (schema : Schema) → schema.Steady →
    (record : schema.Record) → schema.Settled record → schema.Supplied record
  | .nil, _, _, _ => ⟨trivial, trivial⟩
  | .field _ _ required shape others, ⟨single, steady, steadyOthers⟩, (value, record),
      ⟨settled, settledOthers⟩ => by
      obtain ⟨filled, inside⟩ :=
        Schema.supplied_of_steady others steadyOthers record settledOthers
      refine ⟨⟨fun mandatory => ?_, filled⟩, ?_, inside⟩
      · subst mandatory
        exact leaves_ne_nil_of_single shape (single rfl) value (settled rfl)
      · by_cases present : (required || shape.isPresent value) = true
        · exact Shape.supplied_of_steady shape steady value (settled present)
        · exact shape.supplied_of_absent value (Shape.absent_of_unwritten present)
end

/-! ## Whole objects -/

namespace Schema

/-- What becomes of an object that was written, when it is read. -/
theorem verdict_decode {schema : Schema} (numbered : schema.Numbered) {record : schema.Record}
    {bytes : Bytes} (encoded : schema.encode record = .ok bytes) (short : bytes.length < 2 ^ 64) :
    Verdict (schema.Supplied record) (schema.decode bytes) := by
  have read := decodeAt_encodeAt (maximumDepth - 1) numbered schema.blank encoded short
  rw [decode, decodeInto, read]
  exact verdict_absorbAt (maximumDepth - 1) schema schema.blank record encoded

/-- An object that was written has no unset option where something had to be written.  Its bytes
hold a field for every required number if and only if every required field had a leaf.  They can
be read if and only if this is so at every depth, which it is when no required field is a
repetition; otherwise reading them fails with a missing field. -/
theorem required_iff_of_encode {schema : Schema} (numbered : schema.Numbered)
    {record : schema.Record} {bytes : Bytes} (encoded : schema.encode record = .ok bytes)
    (short : bytes.length < 2 ^ 64) :
    schema.Settled record ∧
    (∃ ids, Bytes.fieldIds bytes = .ok ids ∧ (schema.requiredIds ⊆ ids ↔ schema.Filled record)) ∧
    ((∃ result, schema.decode bytes = .ok result) ↔ schema.Supplied record) ∧
    ((∃ name, schema.decode bytes = .error (.schema (.missingField name))) ↔
      ¬schema.Supplied record) ∧
    (schema.Steady → schema.Supplied record) := by
  have settled := settled_of_encodeAt (maximumDepth - 1) schema record encoded
  have held := fieldIds_encodeFields schema numbered record bytes encoded short
  have verdict := verdict_decode numbered encoded short
  exact ⟨settled, ⟨_, held, requiredIds_subset_iff schema numbered record⟩, verdict.exists_ok,
    verdict.exists_missing, fun steady => supplied_of_steady schema steady record settled⟩

/-- An object that requires a repetition. -/
def pathSchema : Schema := .required 1 "path" (.repeated .u32) .nil

theorem required_of_path :
    ∃ bytes ids result, pathSchema.encode ([(44 : UInt32), (300 : UInt32)], ()) = .ok bytes ∧
      Bytes.fieldIds bytes = .ok ids ∧ pathSchema.requiredIds ⊆ ids ∧
      pathSchema.decode bytes = .ok result := by
  have numbered : pathSchema.Numbered := by
    simp [pathSchema, Schema.Numbered, Shape.Numbered, Schema.ids]
  have size : (pathSchema.encode ([(44 : UInt32), (300 : UInt32)], ())).toOption.map
      List.length = some 5 := by
    decide +kernel
  cases encoded : pathSchema.encode ([(44 : UInt32), (300 : UInt32)], ()) with
  | error error =>
      rw [encoded] at size
      cases size
  | ok bytes =>
      rw [encoded] at size
      have short : bytes.length = 5 := Option.some.inj size
      obtain ⟨_, ⟨ids, held, all⟩, read, _⟩ :=
        required_iff_of_encode numbered encoded (by rw [short]; decide)
      have filled : pathSchema.Filled ([(44 : UInt32), (300 : UInt32)], ()) :=
        ⟨fun _ => List.cons_ne_nil _ _, trivial⟩
      have inside : pathSchema.FieldsSupplied ([(44 : UInt32), (300 : UInt32)], ()) :=
        ⟨fun _ _ => trivial, trivial⟩
      obtain ⟨result, decoded⟩ := read.mpr ⟨filled, inside⟩
      exact ⟨bytes, ids, result, rfl, held, all.mpr filled, decoded⟩

/-- A required repetition without elements is written as nothing, and then it is missed. -/
theorem encode_of_empty_repetition :
    pathSchema.Numbered ∧ pathSchema.encode ([], ()) = .ok [] ∧
      (1 : UInt32) ∈ pathSchema.requiredIds ∧ Bytes.fieldIds [] = .ok [] ∧
      pathSchema.decode [] = .error (.schema (.missingField "path")) := by
  refine ⟨?_, rfl, List.mem_cons_self .., Bytes.fieldIds_nil, ?_⟩
  · simp [pathSchema, Schema.Numbered, Shape.Numbered, Schema.ids]
  · change decodeBody (some (decodeAt 98)) pathSchema pathSchema.blank [] = _
    rw [decodeBody, decodeFields_nil]
    rfl

end Schema
end SecurityKey
