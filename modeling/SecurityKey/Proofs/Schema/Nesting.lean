import SecurityKey.Proofs.Schema.Required
import SecurityKey.Proofs.Wire.Containers

/-!
# Objects inside objects

The reference encoding of an object is what is written of it when any number of objects may be
open at once (`Schema.reference`), and every node has one (`Nest.reference_toRecord`).  An object
that has a reference encoding is written as it when no more than `maximumDepth` objects are open
at once, and is refused otherwise (`encodeAt_of_reference`).

The reader has the same limit.  Given a reference encoding it fails where one object too many
would be opened, and up to there nothing is missing, so that the depth of the object decides
between a result and the refusal (`limited_decode`).  This goes by what is absorbed, without any
bytes: whether a value is taken in depends on the depths of its leaves alone
(`limited_foldlM`).

Both are in `Schema.nesting_limited`, together with what a writer and a reader do about the depth
step by step.
-/

set_option autoImplicit false

namespace SecurityKey

/-! ## The reference encoding -/

mutual
/-- The fields of a node, however deep it is. -/
def Nest.reference : Nest → Bytes
  | ⟨level, child, kids, tag⟩ =>
      Bytes.ofVarintField 1 level.toNat ++ (Nest.childReference child ++
        (Nest.kidsReference kids ++
          if tag.isEmpty then [] else Bytes.ofDelimitedField 4 (Bytes.ofText tag)))

/-- The field of a child that may be missing. -/
def Nest.childReference : Option Nest → Bytes
  | none => []
  | some child => Bytes.ofDelimitedField 2 child.reference

/-- The fields of some kids. -/
def Nest.kidsReference : List Nest → Bytes
  | [] => []
  | kid :: others => Bytes.ofDelimitedField 3 kid.reference ++ Nest.kidsReference others
end

mutual
/-- The fields of a value, however deep it is.  A value that is no object is written as always. -/
def Shape.reference (id : UInt32) : (shape : Shape) → shape.Value → Except Error Bytes
  | .optional _, none => .error (.state .requiredUnset)
  | .optional item, some value => item.reference id value
  | .repeated item, items => do
      let fields ← List.mapM (item.reference id) items
      pure fields.flatten
  | .boxed item, value => item.reference id value
  | .object schema, record => do
      let body ← schema.reference record
      pure (Bytes.ofDelimitedField id body)
  | .nest, (nest : Nest) => .ok (Bytes.ofDelimitedField id nest.reference)
  | shape, value => shape.encode none id value

/-- The fields of an object that are required or present, however deep they are. -/
def Schema.reference : (schema : Schema) → schema.Record → Except Error Bytes
  | .nil, _ => .ok []
  | .field id _ required shape others, (value, record) => do
      let first ←
        if required || shape.isPresent value then shape.reference id value else pure []
      let rest ← others.reference record
      pure (first ++ rest)
end

/-- The fields of an object are referred to one after the other. -/
theorem Schema.reference_field_iff {id : UInt32} {name : String} {required : Bool} {shape : Shape}
    {others : Schema} {value : shape.Value} {record : others.Record} {bytes : Bytes} :
    (Schema.field id name required shape others).reference (value, record) = .ok bytes ↔
      ∃ first rest,
        (if required || shape.isPresent value then shape.reference id value else pure []) =
            .ok first ∧
          others.reference record = .ok rest ∧ first ++ rest = bytes := by
  have parts : (Schema.field id name required shape others).reference (value, record) =
      (if required || shape.isPresent value then shape.reference id value else pure []) >>=
        fun first => others.reference record >>= fun rest => pure (first ++ rest) := by
    rw [reference]
    split
    · rfl
    · rfl
  rw [parts]
  constructor
  · intro referred
    obtain ⟨first, written, referred⟩ := bind_eq_ok.mp referred
    obtain ⟨rest, behind, referred⟩ := bind_eq_ok.mp referred
    exact ⟨first, rest, written, behind, Except.ok.inj referred⟩
  · rintro ⟨first, rest, written, behind, rfl⟩
    exact bind_eq_ok.mpr ⟨first, written, bind_eq_ok.mpr ⟨rest, behind, rfl⟩⟩

namespace Nest

theorem kidsReference_eq (kids : List Nest) :
    kidsReference kids =
      (kids.map fun kid => Bytes.ofDelimitedField 3 kid.reference).flatten := by
  induction kids with
  | nil => rfl
  | cons kid others hypothesis =>
      rw [kidsReference, hypothesis]
      rfl

/-- Every node has a reference encoding. -/
theorem reference_toRecord (nest : Nest) :
    schema.reference nest.toRecord = .ok nest.reference := by
  obtain ⟨level, child, kids, tag⟩ := nest
  have first : (if (Shape.optional (.boxed .nest)).isPresent child then
      Shape.reference 2 (.optional (.boxed .nest)) child else pure []) =
        .ok (childReference child) := by
    cases child with
    | none => rfl
    | some child => rfl
  have each : List.mapM (Shape.reference 3 .nest) kids =
      .ok (kids.map fun kid => Bytes.ofDelimitedField 3 kid.reference) := List.mapM_pure
  have further : (if (Shape.repeated .nest).isPresent kids then
      Shape.reference 3 (.repeated .nest) kids else pure []) = .ok (kidsReference kids) := by
    rw [kidsReference_eq]
    cases kids with
    | nil => rfl
    | cons kid others =>
        exact bind_eq_ok.mpr ⟨_, each, rfl⟩
  have last : (if Shape.text.isPresent tag then Shape.reference 4 .text tag else pure []) =
      .ok (if tag.isEmpty then [] else Bytes.ofDelimitedField 4 (Bytes.ofText tag)) := by
    change (if (!tag.isEmpty) = true then _ else _) = _
    cases tag.isEmpty with
    | true => rfl
    | false => rfl
  refine Schema.reference_field_iff.mpr ⟨Bytes.ofVarintField 1 level.toNat, _, rfl, ?_, rfl⟩
  refine Schema.reference_field_iff.mpr ⟨_, _, first, ?_, rfl⟩
  refine Schema.reference_field_iff.mpr ⟨_, _, further, ?_, rfl⟩
  exact Schema.reference_field_iff.mpr ⟨_, _, last, rfl, List.append_nil _⟩

end Nest

/-! ## Writing -/

/-- What there is when something is not too deep. -/
def limited {α : Type} (limit depth : Nat) (value : α) : Except Error α :=
  if depth ≤ limit then .ok value else .error tooDeep

theorem limited_append (limit depth others : Nat) (first second : Bytes) :
    (limited limit depth first >>= fun first =>
      limited limit others second >>= fun second => pure (first ++ second)) =
        limited limit (max depth others) (first ++ second) := by
  rw [limited, limited, limited]
  by_cases shallow : depth ≤ limit
  · by_cases shallowOthers : others ≤ limit
    · rw [if_pos shallow, if_pos shallowOthers,
        if_pos (Nat.max_le.mpr ⟨shallow, shallowOthers⟩)]
      rfl
    · rw [if_pos shallow, if_neg shallowOthers,
        if_neg fun both => shallowOthers (Nat.max_le.mp both).2]
      rfl
  · rw [if_neg shallow, if_neg fun both => shallow (Nat.max_le.mp both).1]
    rfl

theorem limited_succ {α : Type} (limit depth : Nat) (value : α) :
    limited (limit + 1) (1 + depth) value = limited limit depth value :=
  if_congr (by rw [Nat.add_comm 1, Nat.succ_le_succ_iff]) rfl rfl

theorem limited_zero {α : Type} (limit : Nat) (value : α) : limited limit 0 value = .ok value :=
  if_pos (Nat.zero_le limit)

/-- Nothing of an object is in a value that is not present. -/
theorem Shape.depth_of_absent : (shape : Shape) → (value : shape.Value) →
    shape.isPresent value = false → shape.depth value = 0
  | .text, _, _ | .blob, _, _ => rfl
  | .optional _, none, _ => rfl
  | .optional _, some _, absent => by cases absent
  | .repeated _, [], _ => rfl
  | .repeated _, _ :: _, absent => by cases absent
  | .boxed item, value, absent => depth_of_absent item value absent
  | .u32, _, absent | .u64, _, absent | .i32, _, absent | .i64, _, absent
  | .boolean, _, absent | .fixed _, _, absent | .enumeration _, _, absent
  | .object _, _, absent | .nest, _, absent => by cases absent

/-- A step for every item, whose results are put behind one another. -/
theorem flatten_mapM {α : Type} {step : α → Except Error Bytes} {depth : α → Nat}
    {refer : α → Except Error Bytes} {limit : Nat} (items : List α)
    (each : ∀ (item : α) (bytes : Bytes), refer item = .ok bytes →
      step item = limited limit (depth item) bytes)
    {fields : List Bytes} (referred : List.mapM refer items = .ok fields) :
    (List.mapM step items >>= fun fields => pure fields.flatten) =
      limited limit ((items.map depth).foldr max 0) fields.flatten := by
  induction items generalizing fields with
  | nil =>
      cases referred
      exact (limited_zero limit _).symm
  | cons item rest hypothesis =>
      rw [List.mapM_cons] at referred
      obtain ⟨bytes, first, referred⟩ := bind_eq_ok.mp referred
      obtain ⟨others, behind, referred⟩ := bind_eq_ok.mp referred
      cases referred
      rw [List.map_cons, List.foldr_cons, List.flatten_cons, ← limited_append,
        ← hypothesis behind, ← each item bytes first, List.mapM_cons]
      cases step item with
      | error error => rfl
      | ok bytes =>
          cases List.mapM step rest with
          | error error => rfl
          | ok fields => rfl

section Writing

variable {encoder : Option NestedEncoder} {limit : Nat}
  (nested : ∀ (id : UInt32) (schema : Schema) (record : schema.Record) (body : Bytes),
    schema.reference record = .ok body → encodeNested encoder id schema record =
      limited limit (schema.depth record) (Bytes.ofDelimitedField id body))
include nested

/-- A value that has a reference encoding is written as it, unless it is too deep. -/
theorem encode_of_reference (id : UInt32) : (shape : Shape) → (value : shape.Value) →
    (bytes : Bytes) → shape.reference id value = .ok bytes →
      shape.encode encoder id value = limited limit (shape.depth value) bytes
  | .optional _, none, _, referred => by cases referred
  | .optional item, some value, bytes, referred =>
      encode_of_reference id item value bytes referred
  | .repeated item, items, bytes, referred => by
      obtain ⟨fields, each, referred⟩ := bind_eq_ok.mp referred
      cases referred
      exact flatten_mapM items (encode_of_reference id item) each
  | .boxed item, value, bytes, referred => encode_of_reference id item value bytes referred
  | .object schema, record, bytes, referred => by
      obtain ⟨body, inner, referred⟩ := bind_eq_ok.mp referred
      cases referred
      exact nested id schema record body inner
  | .nest, (nest : Nest), bytes, referred => by
      cases referred
      have written := nested id Nest.schema nest.toRecord nest.reference nest.reference_toRecord
      rwa [nest.depth_toRecord] at written
  | .i32, _, _, referred | .i64, _, _, referred => by cases referred
  | .u32, _, _, referred | .u64, _, _, referred | .boolean, _, _, referred
  | .text, _, _, referred | .blob, _, _, referred | .fixed _, _, _, referred
  | .enumeration _, _, _, referred => by
      cases referred
      exact (limited_zero limit _).symm

theorem encodeFields_of_reference : (schema : Schema) → (record : schema.Record) →
    (bytes : Bytes) → schema.reference record = .ok bytes →
      schema.encodeFields encoder record = limited (limit + 1) (schema.depth record) bytes
  | .nil, _, _, referred => by
      cases referred
      exact (if_pos (Nat.succ_le_succ (Nat.zero_le limit))).symm
  | .field id name required shape others, (value, record), bytes, referred => by
      obtain ⟨first, rest, written, behind, rfl⟩ := Schema.reference_field_iff.mp referred
      have encoded : (if required || shape.isPresent value then
          shape.encode encoder id value else pure []) =
            limited (limit + 1) (1 + shape.depth value) first := by
        rw [limited_succ]
        by_cases present : (required || shape.isPresent value) = true
        · rw [if_pos present] at written ⊢
          exact encode_of_reference nested id shape value first written
        · rw [if_neg present] at written ⊢
          rw [shape.depth_of_absent value (Shape.absent_of_unwritten present), limited_zero]
          exact written
      rw [Schema.encodeFields_field, encoded,
        encodeFields_of_reference others record rest behind, limited_append]
      rfl

end Writing

/-- An object that has a reference encoding is written as it, unless it is too deep. -/
theorem Schema.encodeAt_of_reference (room : Nat) {schema : Schema} {record : schema.Record}
    {bytes : Bytes} (referred : schema.reference record = .ok bytes) :
    encodeAt room schema record = limited (room + 1) (schema.depth record) bytes := by
  induction room generalizing schema bytes with
  | zero =>
      refine encodeFields_of_reference ?_ schema record bytes referred
      intro id schema record body _
      exact (if_neg (Nat.not_le.mpr (schema.depth_pos record))).symm
  | succ room hypothesis =>
      refine encodeFields_of_reference ?_ schema record bytes referred
      intro id schema record body inner
      rw [encodeNested, hypothesis inner, limited, limited]
      split
      · rfl
      · rfl

/-! ## The depths of leaves -/

theorem foldr_max_le_iff {depths : List Nat} {limit : Nat} :
    depths.foldr max 0 ≤ limit ↔ ∀ depth ∈ depths, depth ≤ limit := by
  induction depths with
  | nil => exact iff_of_true (Nat.zero_le limit) fun _ member => by cases member
  | cons depth others hypothesis =>
      rw [List.foldr_cons, Nat.max_le, hypothesis, List.forall_mem_cons]

namespace Shape

/-- A value is no deeper than its leaves. -/
theorem depth_leaves (limit : Nat) : (shape : Shape) → (value : shape.Value) →
    ((∀ leaf ∈ shape.leaves value, shape.base.depth leaf ≤ limit) ↔ shape.depth value ≤ limit)
  | .optional _, none => iff_of_true (fun _ member => by cases member) (Nat.zero_le limit)
  | .optional item, some value => depth_leaves limit item value
  | .repeated item, (items : List item.Value) => by
      change (∀ leaf ∈ items.flatMap item.leaves, item.base.depth leaf ≤ limit) ↔
        (items.map item.depth).foldr max 0 ≤ limit
      rw [List.forall_mem_flatMap, foldr_max_le_iff, List.forall_mem_map]
      exact forall₂_congr fun value _ => depth_leaves limit item value
  | .boxed item, value => depth_leaves limit item value
  | .u32, _ | .u64, _ | .i32, _ | .i64, _ | .boolean, _ | .text, _ | .blob, _ | .fixed _, _
  | .enumeration _, _ | .object _, _ | .nest, _ => List.forall_mem_singleton

theorem depth_written (limit : Nat) (required : Bool) (shape : Shape) (value : shape.Value) :
    (∀ leaf ∈ shape.written required value, shape.base.depth leaf ≤ limit) ↔
      shape.depth value ≤ limit := by
  rw [written]
  by_cases present : (required || shape.isPresent value) = true
  · rw [if_pos present]
    exact depth_leaves limit shape value
  · rw [if_neg present, depth_of_absent shape value (absent_of_unwritten present)]
    exact iff_of_true (fun _ member => by cases member) (Nat.zero_le limit)

end Shape

/-! ## Reading -/

/-- A result that is there if something is not too deep, and otherwise is the refusal of its
depth. -/
inductive Limited {α : Type} (shallow : Prop) : Except Error α → Prop where
  | within (value : α) (holds : shallow) : Limited shallow (.ok value)
  | beyond (lacks : ¬shallow) : Limited shallow (.error tooDeep)

namespace Limited

variable {α β : Type} {shallow others : Prop} {result : Except Error α}

theorem congr (limited : Limited shallow result) (same : shallow ↔ others) :
    Limited others result := by
  rwa [← propext same]

theorem map (limited : Limited shallow result) (function : α → β) :
    Limited shallow (function <$> result) := by
  cases limited with
  | within value holds => exact .within (function value) holds
  | beyond lacks => exact .beyond lacks

/-- A result from which another one is made that has a depth of its own. -/
theorem bind (limited : Limited shallow result) {next : α → Except Error β}
    (behind : ∀ value, result = .ok value → Limited others (next value)) :
    Limited (shallow ∧ others) (result >>= next) := by
  cases limited with
  | within value holds => exact (behind value rfl).congr (and_iff_right holds).symm
  | beyond lacks => exact .beyond fun both => lacks both.1

theorem exists_ok (limited : Limited shallow result) (holds : shallow) :
    ∃ value, result = .ok value := by
  cases limited with
  | within value => exact ⟨value, rfl⟩
  | beyond lacks => exact absurd holds lacks

theorem eq_error (limited : Limited shallow result) (lacks : ¬shallow) :
    result = .error tooDeep := by
  cases limited with
  | within _ holds => exact absurd holds lacks
  | beyond => rfl

end Limited

section Reading

variable {absorber : Option Absorber} {limit : Nat}
  (nested : ∀ (schema : Schema) (storage record : schema.Record), schema.Supplied record →
    Limited (schema.depth record ≤ limit) (absorbNested absorber schema storage record))
include nested

theorem limited_absorb : (shape : Shape) → (storage leaf : shape.base.Value) →
    shape.base.Supplied leaf →
      Limited (shape.base.depth leaf ≤ limit) (shape.base.absorb absorber storage leaf)
  | .optional item, storage, leaf, supplied | .repeated item, storage, leaf, supplied
  | .boxed item, storage, leaf, supplied => limited_absorb item storage leaf supplied
  | .object schema, storage, leaf, supplied => nested schema storage leaf supplied
  | .nest, storage, leaf, _ => by
      have taken := nested Nest.schema storage.toRecord leaf.toRecord leaf.supplied_toRecord
      rw [leaf.depth_toRecord] at taken
      exact taken.map Nest.ofRecord
  | .u32, _, _, _ | .u64, _, _, _ | .i32, _, _, _ | .i64, _, _, _ | .boolean, _, _, _
  | .text, _, _, _ | .blob, _, _, _ | .fixed _, _, _, _ | .enumeration _, _, _, _ =>
      .within _ (Nat.zero_le limit)

/-- Leaves are taken in when none of them is too deep. -/
theorem limited_foldlM {shape : Shape} (leaves : List shape.base.Value) (storage : shape.Value)
    (supplied : ∀ leaf ∈ leaves, shape.base.Supplied leaf) :
    Limited (∀ leaf ∈ leaves, shape.base.depth leaf ≤ limit)
      (leaves.foldlM (shape.store absorber) storage) := by
  induction leaves generalizing storage with
  | nil => exact .within storage fun _ member => by cases member
  | cons leaf leaves hypothesis =>
      obtain ⟨first, others⟩ := List.forall_mem_cons.mp supplied
      have taken := limited_absorb nested shape (shape.under storage) leaf first
      have parts : (∀ other ∈ leaf :: leaves, shape.base.depth other ≤ limit) ↔
          shape.base.depth leaf ≤ limit ∧ ∀ other ∈ leaves, shape.base.depth other ≤ limit :=
        List.forall_mem_cons
      rw [List.foldlM_cons]
      exact ((taken.map _).bind fun storage _ => hypothesis storage others).congr parts.symm

namespace Schema

theorem limited_absorbFields : (schema : Schema) → (draft : schema.Draft) →
    (record : schema.Record) → schema.FieldsSupplied record →
      Limited (schema.depth record ≤ limit + 1) (schema.absorbFields absorber draft record)
  | .nil, draft, _, _ => .within draft (Nat.succ_le_succ (Nat.zero_le limit))
  | .field id name required shape others, ((storage, seen), draft), (value, record),
      ⟨supplied, suppliedOthers⟩ => by
      have taken := (limited_foldlM nested (shape.written required value) storage
        ((shape.supplied_written required value).mpr supplied)).congr
          (shape.depth_written limit required value)
      have behind := limited_absorbFields others draft record suppliedOthers
      have parts : shape.depth value ≤ limit ∧ others.depth record ≤ limit + 1 ↔
          (Schema.field id name required shape others).depth (value, record) ≤ limit + 1 := by
        rw [depth]
        omega
      refine Limited.congr ?_ parts
      rw [absorbFields]
      exact taken.bind fun storage _ => behind.map
        fun draft => ((storage, seen || !(shape.written required value).isEmpty), draft)

theorem limited_absorbBody (schema : Schema) (storage record : schema.Record)
    (supplied : schema.Supplied record) :
    Limited (schema.depth record ≤ limit + 1) (schema.absorbBody absorber storage record) := by
  have taken := limited_absorbFields nested schema (schema.draft storage) record supplied.2
  refine (taken.bind fun draft absorbed => ?_).congr (iff_of_eq (and_true _))
  obtain ⟨result, finished⟩ :=
    (verdict_finish schema storage record draft absorbed).exists_ok.mpr supplied.1
  rw [finished]
  exact .within result trivial

end Schema
end Reading

/-- An object that is supplied is taken in, unless it is too deep. -/
theorem Schema.limited_absorbAt (room : Nat) (schema : Schema) (storage record : schema.Record)
    (supplied : schema.Supplied record) :
    Limited (schema.depth record ≤ room + 1) (absorbAt room schema storage record) := by
  induction room generalizing schema with
  | zero =>
      refine limited_absorbBody ?_ schema storage record supplied
      intro schema storage record _
      exact .beyond (Nat.not_le.mpr (schema.depth_pos record))
  | succ room hypothesis => exact limited_absorbBody hypothesis schema storage record supplied

/-- A reference encoding of an object that is supplied can be read, unless it is too deep. -/
theorem Schema.limited_decode {schema : Schema} (numbered : schema.Numbered)
    {record : schema.Record} (supplied : schema.Supplied record) {bytes : Bytes}
    (referred : schema.reference record = .ok bytes) (short : bytes.length < 2 ^ 64) :
    Limited (schema.depth record ≤ maximumDepth) (schema.decode bytes) := by
  have wide : maximumDepth - 1 ≤ maximumDepth + schema.depth record := by omega
  have written : encodeAt (maximumDepth + schema.depth record) schema record = .ok bytes :=
    (encodeAt_of_reference _ referred).trans (if_pos (by omega))
  rw [decode, decodeInto, decodeAt_of_encodeAt wide numbered schema.blank written short]
  exact limited_absorbAt (maximumDepth - 1) schema schema.blank record supplied

/-! ## The limit -/

/-- An object that has a reference encoding is written as it when no more than `maximumDepth`
objects are open at once, and is refused for its depth otherwise; and a reference encoding of an
object that lacks nothing is read, or refused for its depth, with the same limit.  Every node has
a reference encoding and comes back from it.  Behind any steps, no more than `maximumDepth`
objects are open in a writer and no more containers in a reader.  Both refuse a start for the
depth exactly when there is no room for it, and are left as they were; everything else that a
reader is asked to do it does on its innermost view. -/
theorem Schema.nesting_limited :
    (∀ (schema : Schema) (record : schema.Record) (bytes : Bytes),
      schema.reference record = .ok bytes →
        schema.encode record =
          if schema.depth record ≤ maximumDepth then .ok bytes else .error tooDeep) ∧
    (∀ (schema : Schema) (record : schema.Record) (bytes : Bytes), schema.Numbered →
      schema.Supplied record → schema.reference record = .ok bytes → bytes.length < 2 ^ 64 →
        (schema.depth record ≤ maximumDepth → ∃ result, schema.decode bytes = .ok result) ∧
          (maximumDepth < schema.depth record → schema.decode bytes = .error tooDeep)) ∧
    (∀ nest : Nest,
      Nest.schema.reference nest.toRecord = .ok nest.reference ∧
        Nest.schema.encode nest.toRecord =
          (if nest.depth ≤ maximumDepth then .ok nest.reference else .error tooDeep) ∧
        (nest.reference.length < 2 ^ 64 →
          Nest.schema.decode nest.reference =
            if nest.depth ≤ maximumDepth then .ok nest.toRecord else .error tooDeep)) ∧
    (∀ (operations : List Writer.Operation) (writer : Writer),
      writer = stateAfter (operations.map Writer.Operation.run) Writer.empty →
        writer.depth ≤ maximumDepth ∧ ∀ left : Writer,
          Writer.startObject writer = .error tooDeep left ↔
            writer.depth = maximumDepth ∧ left = writer) ∧
    ∀ (input : Bytes) (operations : List Reader.Operation) (reader : Reader),
      reader = stateAfter (operations.map Reader.Operation.step) (Reader.ofBytes input) →
        reader.depth ≤ maximumDepth ∧
        (∀ (operation : Reader.Operation) (left : Reader), operation.IsStart →
          (operation.run reader = .error tooDeep left ↔
            reader.depth = maximumDepth ∧ left = reader)) ∧
        ∀ (operation : Reader.Operation) (view : Bytes) (outer : List Bytes),
          reader.views = view :: outer → (operation.IsStart → reader.depth < maximumDepth) →
            operation.run reader =
              Reader.within outer (operation.run ⟨reader.input, [view], reader.pending⟩) := by
  have encoded : ∀ (schema : Schema) (record : schema.Record) (bytes : Bytes),
      schema.reference record = .ok bytes → schema.encode record =
        if schema.depth record ≤ maximumDepth then .ok bytes else .error tooDeep :=
    fun _ _ _ referred => encodeAt_of_reference (maximumDepth - 1) referred
  refine ⟨encoded, ?_, ?_, ?_, ?_⟩
  · intro schema record bytes numbered supplied referred short
    have read := limited_decode numbered supplied referred short
    exact ⟨read.exists_ok, fun deep => read.eq_error (Nat.not_le.mpr deep)⟩
  · intro nest
    have referred := nest.reference_toRecord
    have written := encoded Nest.schema nest.toRecord nest.reference referred
    rw [nest.depth_toRecord] at written
    refine ⟨referred, written, fun short => ?_⟩
    split
    · rename_i shallow
      obtain ⟨bytes, again, back⟩ := round_trip_of_plain Nest.schema_numbered Nest.schema_plain
        nest.complete_toRecord (nest.depth_toRecord.symm ▸ shallow)
      rw [written, if_pos shallow] at again
      cases again
      exact back short
    · rename_i deep
      have read := limited_decode Nest.schema_numbered nest.supplied_toRecord referred short
      rw [nest.depth_toRecord] at read
      exact read.eq_error deep
  · rintro operations writer rfl
    exact ⟨Writer.depth_le _, fun _ => Writer.startObject_eq_tooDeep_iff⟩
  · intro input operations reader reached
    have inside : reader.depth ≤ maximumDepth := by
      rw [reached]
      exact Reader.depth_stateAfter_le operations (Nat.zero_le maximumDepth)
    refine ⟨inside, fun _ _ start => Reader.run_eq_tooDeep_iff start, ?_⟩
    intro operation view outer opened room
    obtain ⟨rest, views, pending⟩ := reader
    cases opened
    exact Reader.run_local rest view outer pending operation room

/-- A node with as many descendants, one inside the other. -/
def Nest.chain : Nat → Nest
  | 0 => ⟨0, none, [], ""⟩
  | count + 1 => ⟨0, some (chain count), [], ""⟩

/-- A node with 99 descendants is written and read, and with one more it is refused. -/
theorem Schema.nesting_limited_of_chain :
    Nest.schema.encode (Nest.chain 99).toRecord = .ok (Nest.chain 99).reference ∧
      Nest.schema.encode (Nest.chain 100).toRecord = .error tooDeep ∧
      Nest.schema.decode (Nest.chain 99).reference = .ok (Nest.chain 99).toRecord ∧
      Nest.schema.decode (Nest.chain 100).reference = .error tooDeep := by
  obtain ⟨_, _, nodes, _⟩ := Schema.nesting_limited
  have shallow : (Nest.chain 99).depth ≤ maximumDepth := by decide +kernel
  have deep : ¬(Nest.chain 100).depth ≤ maximumDepth := by decide +kernel
  have short : (Nest.chain 99).reference.length < 2 ^ 64 := by decide +kernel
  have shortToo : (Nest.chain 100).reference.length < 2 ^ 64 := by decide +kernel
  obtain ⟨_, written, read⟩ := nodes (Nest.chain 99)
  obtain ⟨_, refused, unread⟩ := nodes (Nest.chain 100)
  have back := read short
  have failed := unread shortToo
  rw [if_pos shallow] at written back
  rw [if_neg deep] at refused failed
  exact ⟨written, refused, back, failed⟩

end SecurityKey
