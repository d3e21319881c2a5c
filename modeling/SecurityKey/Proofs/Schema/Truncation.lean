import SecurityKey.Proofs.Schema.Occurrences
import SecurityKey.Proofs.Schema.Required

/-!
# Bodies that are cut off

What is left of the bytes of an object that was written, when they are cut off somewhere, is
never read as something else (`Schema.CutCleanly`).  It can be read only when the cut is between
two fields and every required field has an occurrence in front of it.  Then it gives the object
with as many occurrences of every field as are in front of the cut: a repetition keeps its first
elements, and every other value is there or blank (`Schema.cut`).

Bytes have one reading as a list of fields, so whatever can be read of the part in front of the
cut is a beginning of the fields that were written (`WireField.exists_of_join_eq`), and it makes
of a blank object what the others go on from (`Schema.made_append`).  An occurrence that was
written is no packed run, so a repetition gets one element from each.

When the last field of an object is required and no repetition, no beginning of its bytes can be
read at all.
-/

set_option autoImplicit false

namespace SecurityKey

variable {nested : Option NestedDecoder} {id : UInt32}

/-! ## What is left of an object -/

/-- What is left of a value of whose field there are so many occurrences. -/
def Shape.cut (count : Nat) : (shape : Shape) → shape.Value → shape.Value
  | .repeated _, items => List.take count items
  | .boxed item, value => item.cut count value
  | shape, value => if count = 0 then shape.blank else value

/-- What is left of an object of which there are only the fields in front of a cut. -/
def Schema.cut (front : List WireField) : (schema : Schema) → schema.Record → schema.Record
  | .nil, _ => ()
  | .field id _ _ shape others, (value, record) =>
      (shape.cut (WireField.under id front).length value, others.cut front record)

/-- Whether the bytes of an object, cut off anywhere, can be read only where the cut is between
two fields and all required fields are in front of it, and then as what is left of the object. -/
def Schema.CutCleanly (schema : Schema) (record : schema.Record) (bytes : Bytes) : Prop :=
  ∀ count < bytes.length, ∀ result : schema.Record,
    schema.decode (bytes.take count) = .ok result ↔
      ∃ front back : List WireField, bytes = WireField.join (front ++ back) ∧
        count = (WireField.join front).length ∧
        schema.requiredIds ⊆ front.map WireField.id ∧ result = schema.cut front record

/-! ## Fields with one number -/

namespace WireField

theorem join_injective {first second : List WireField} (same : join first = join second) :
    first = second := by
  have whole : join first ++ join [] = join second := (List.append_nil _).trans same
  obtain ⟨back, rfl, rest⟩ := exists_of_join_eq whole
  cases back with
  | nil => exact (List.append_nil first).symm
  | cons field back =>
      have filled := isEmpty_bytes_append field (join back)
      rw [← join_cons, ← rest] at filled
      cases filled

/-- Fields with a number in front of fields with other numbers. -/
theorem under_append_of_apart {own rest : List WireField} (mine : ∀ field ∈ own, field.id = id)
    (apart : ∀ field ∈ rest, field.id ≠ id) :
    under id (own ++ rest) = own ∧ beside id (own ++ rest) = rest := by
  have first : under id own = own := List.filter_eq_self.mpr (by simpa using mine)
  have none : under id rest = [] := List.filter_eq_nil_iff.mpr (by simpa using apart)
  have gone : beside id own = [] := List.filter_eq_nil_iff.mpr (by simpa using mine)
  have last : beside id rest = rest := List.filter_eq_self.mpr (by simpa using apart)
  rw [under_append, beside_append, first, none, gone, last]
  exact ⟨List.append_nil own, rfl⟩

theorem under_beside_of_ne {other : UInt32} (apart : other ≠ id) (fields : List WireField) :
    under other (beside id fields) = under other fields := by
  rw [under, beside, List.filter_filter]
  refine List.filter_congr fun field _ => ?_
  by_cases same : field.id = other
  · simp [same, apart]
  · simp [same]

theorem mem_map_beside_iff {other : UInt32} (apart : other ≠ id) (fields : List WireField) :
    other ∈ (beside id fields).map WireField.id ↔ other ∈ fields.map WireField.id := by
  simp only [beside, List.mem_map, List.mem_filter, decide_eq_true_eq]
  constructor
  · rintro ⟨field, ⟨member, _⟩, same⟩
    exact ⟨field, member, same⟩
  · rintro ⟨field, member, rfl⟩
    exact ⟨field, ⟨member, apart⟩, rfl⟩

theorem under_ne_nil_iff (fields : List WireField) :
    under id fields ≠ [] ↔ id ∈ fields.map WireField.id := by
  simp [under, List.filter_eq_nil_iff]

end WireField

/-! ## Values -/

namespace Shape

/-- A shape that is read from one occurrence is written as one. -/
theorem single_of_plain : (shape : Shape) → shape.Plain false → shape.Single
  | .optional item, plain => single_of_plain item plain
  | .boxed item, plain => single_of_plain item plain
  | .repeated _, plain => absurd plain.1 Bool.false_ne_true
  | .u32, _ | .u64, _ | .i32, _ | .i64, _ | .boolean, _ | .text, _ | .blob, _ | .fixed _, _
  | .enumeration _, _ | .object _, _ | .nest, _ => trivial

theorem length_leaves_le_one : (shape : Shape) → shape.Single → (value : shape.Value) →
    (shape.leaves value).length ≤ 1
  | .optional _, _, none => Nat.zero_le 1
  | .optional item, single, some value => length_leaves_le_one item single value
  | .boxed item, single, value => length_leaves_le_one item single value
  | .repeated _, single, _ => single.elim
  | .u32, _, _ | .u64, _, _ | .i32, _, _ | .i64, _, _ | .boolean, _, _ | .text, _, _
  | .blob, _, _ | .fixed _, _, _ | .enumeration _, _, _ | .object _, _, _ | .nest, _, _ =>
      Nat.le_refl 1

theorem length_written_le (required : Bool) (shape : Shape) (value : shape.Value) :
    (shape.written required value).length ≤ (shape.leaves value).length := by
  rw [written]
  split
  · exact Nat.le_refl _
  · exact Nat.zero_le _

/-- An occurrence that is no packed run gives a repetition one more element. -/
theorem exists_takeField_repeated (item : Shape) {items grown : List item.Value}
    {field : WireField} (single : item.base.packable → field.wire ≠ .lengthDelimited)
    (taken : (Shape.repeated item).takeField nested items field = .ok grown) :
    ∃ value : item.Value, grown = items ++ [value] := by
  have reads : (Shape.repeated item).decode nested field.wire items =
      (fun value => List.append items [value]) <$> item.decode nested field.wire item.blank := by
    simp only [Shape.decode, packed_eq_false item single, if_neg Bool.false_ne_true]
    exact bind_pure_comp _ _
  have made := outcome_map (fun value => List.append items [value])
    (item.decode nested field.wire item.blank) field.payload
  rw [← reads] at made
  obtain ⟨value, _, same⟩ := map_eq_ok.mp (made.symm.trans taken)
  exact ⟨value, same.symm⟩

theorem exists_foldlM_takeField_repeated (item : Shape) {fields : List WireField}
    (single : ∀ field ∈ fields, field.Holding id (.repeated item))
    {items elements : List item.Value}
    (taken : fields.foldlM ((Shape.repeated item).takeField nested) items = .ok elements) :
    ∃ run, elements = items ++ run ∧ run.length = fields.length := by
  induction fields generalizing items with
  | nil =>
      cases taken
      exact ⟨[], (List.append_nil _).symm, rfl⟩
  | cons field fields hypothesis =>
      rw [List.forall_mem_cons] at single
      obtain ⟨grown, first, taken⟩ := bind_eq_ok.mp taken
      obtain ⟨value, rfl⟩ := exists_takeField_repeated item single.1.single first
      obtain ⟨run, rfl, count⟩ := hypothesis single.2 taken
      exact ⟨value :: run, List.append_assoc items [value] run, congrArg Nat.succ count⟩

section Cut

variable {front back : List WireField}

/-- At most one occurrence is in front of the cut or behind it. -/
theorem cut_of_few {shape : Shape} {value part : shape.Value}
    (cut : ∀ count, shape.cut count value = if count = 0 then shape.blank else value)
    (few : (front ++ back).length ≤ 1)
    (takenFront : front.foldlM (shape.takeField nested) shape.blank = .ok part)
    (takenBack : back.foldlM (shape.takeField nested) part = .ok value) :
    part = shape.cut front.length value := by
  rw [cut]
  cases front with
  | nil =>
      cases takenFront
      exact (if_pos rfl).symm
  | cons field front =>
      have empty : back = [] := by
        rw [List.length_append, List.length_cons] at few
        exact List.length_eq_zero_iff.mp (by omega)
      subst empty
      cases takenBack
      exact (if_neg (Nat.succ_ne_zero _)).symm

/-- What the occurrences in front of the cut make of a blank value, when the value is what the
others go on to make of it. -/
theorem cut_of_taken : (shape : Shape) → shape.Plain true → (value part : shape.Value) →
    (front ++ back).length ≤ (shape.leaves value).length →
    (∀ field ∈ front ++ back, field.Holding id shape) →
      front.foldlM (shape.takeField nested) shape.blank = .ok part →
      back.foldlM (shape.takeField nested) part = .ok value →
        part = shape.cut front.length value
  | .repeated item, _, value, part, _, holding, takenFront, takenBack => by
      rw [List.forall_mem_append] at holding
      obtain ⟨run, rfl, count⟩ := exists_foldlM_takeField_repeated item holding.1 takenFront
      obtain ⟨more, rfl, _⟩ := exists_foldlM_takeField_repeated item holding.2 takenBack
      exact (List.take_left' count).symm
  | .boxed item, plain, value, part, count, holding, takenFront, takenBack =>
      cut_of_taken item plain value part count
        (fun field member => ⟨(holding field member).number, (holding field member).single⟩)
        takenFront takenBack
  | .optional item, plain, value, _, count, _, takenFront, takenBack =>
      cut_of_few (fun _ => rfl) (Nat.le_trans count (length_leaves_le_one (.optional item)
        (single_of_plain item plain) value)) takenFront takenBack
  | .u32, _, _, _, count, _, takenFront, takenBack | .u64, _, _, _, count, _, takenFront, takenBack
  | .i32, _, _, _, count, _, takenFront, takenBack | .i64, _, _, _, count, _, takenFront, takenBack
  | .boolean, _, _, _, count, _, takenFront, takenBack
  | .text, _, _, _, count, _, takenFront, takenBack
  | .blob, _, _, _, count, _, takenFront, takenBack
  | .fixed _, _, _, _, count, _, takenFront, takenBack
  | .enumeration _, _, _, _, count, _, takenFront, takenBack
  | .object _, _, _, _, count, _, takenFront, takenBack
  | .nest, _, _, _, count, _, takenFront, takenBack =>
      cut_of_few (fun _ => rfl) count takenFront takenBack

end Cut
end Shape

/-! ## Objects -/

namespace Schema

/-- Only the numbers of an object's own fields matter for what is left of it. -/
theorem cut_beside (front : List WireField) : (schema : Schema) → id ∉ schema.ids →
    (record : schema.Record) → schema.cut (WireField.beside id front) record =
      schema.cut front record
  | .nil, _, _ => rfl
  | .field number _ _ shape others, fresh, (value, record) => by
      obtain ⟨apart, fresh⟩ := not_or.mp (mt List.mem_cons.mpr fresh)
      have first := congrArg List.length (WireField.under_beside_of_ne (Ne.symm apart) front)
      exact congrArg₂ Prod.mk (congrArg (shape.cut · value) first)
        (cut_beside front others fresh record)

/-- What the fields in front of the cut make of a blank object, when the object is what the
others go on to make of it. -/
theorem cut_of_made : (schema : Schema) → schema.Numbered → schema.Plain →
    (record part : schema.Record) → (front back : List WireField) →
      schema.Spelled record (front ++ back) →
      schema.Made nested front schema.blank part → schema.Made nested back part record →
        part = schema.cut front record
  | .nil, _, _, _, _, _, _, _, _, _ => rfl
  | .field id _ required shape others, ⟨_, fresh, _, numbered⟩, ⟨plain, plainOthers⟩,
      (value, record), (made, part), front, back, ⟨own, rest, split, count, holding, spelled⟩,
      ⟨ownFront, madeFront⟩, ⟨ownBack, madeBack⟩ => by
      have apart : ∀ field ∈ rest, field.id ≠ id := fun field member same =>
        fresh (same ▸ spelled.listed field member)
      obtain ⟨mine, theirs⟩ :=
        WireField.under_append_of_apart (fun field member => (holding field member).number) apart
      rw [← split, WireField.under_append] at mine
      rw [← split, WireField.beside_append] at theirs
      subst mine theirs
      have few := count.trans_le (shape.length_written_le required value)
      have first := shape.cut_of_taken plain value made few holding ownFront ownBack
      have behind := cut_of_made others numbered plainOthers record part _ _ spelled madeFront
        madeBack
      rw [cut_beside front others fresh record] at behind
      exact congrArg₂ Prod.mk first behind

/-- The required fields are covered when their numbers are there. -/
theorem covered_iff : (schema : Schema) → schema.Numbered → (fields : List WireField) →
    (schema.Covered fields ↔ schema.requiredIds ⊆ fields.map WireField.id)
  | .nil, _, _ => iff_of_true trivial (List.nil_subset _)
  | .field id _ required _ others, ⟨_, fresh, _, numbered⟩, fields => by
      have behind : others.Covered (WireField.beside id fields) ↔
          others.requiredIds ⊆ fields.map WireField.id := by
        refine (covered_iff others numbered _).trans (forall₂_congr fun number member => ?_)
        refine WireField.mem_map_beside_iff ?_ fields
        rintro rfl
        exact fresh (requiredIds_subset_ids others member)
      cases required with
      | false =>
          exact (and_iff_right fun mandatory => absurd mandatory Bool.false_ne_true).trans behind
      | true =>
          have first : (true = true → WireField.under id fields ≠ []) ↔
              id ∈ fields.map WireField.id :=
            (imp_iff_right rfl).trans (WireField.under_ne_nil_iff fields)
          exact (and_congr first behind).trans List.cons_subset.symm

/-! ## Schemas that end with a required field -/

/-- Whether the last field of an object is required and no repetition. -/
def EndsRequired : Schema → Prop
  | .nil => False
  | .field _ _ required shape others =>
      (others = .nil ∧ required = true ∧ shape.Single) ∨ others.EndsRequired

/-- The number of the last field is that of a required one, and it is not in front of any cut. -/
theorem exists_required_behind : {schema : Schema} → schema.EndsRequired → schema.Numbered →
    {record : schema.Record} → {fields : List WireField} → schema.Spelled record fields →
      ∃ number ∈ schema.requiredIds, ∀ front back : List WireField, fields = front ++ back →
        back ≠ [] → number ∉ front.map WireField.id
  | .field id _ required shape others, .inl ⟨empty, mandatory, single⟩, _, (value, record), _,
      ⟨own, rest, split, count, _, spelled⟩ => by
      subst empty mandatory
      cases spelled
      refine ⟨id, List.mem_cons_self .., fun front back same filled => ?_⟩
      have few := shape.length_leaves_le_one single value
      have total : (front ++ back).length = (shape.leaves value).length := by
        rw [← same, split, List.append_nil, count, Shape.written_required]
      have positive := List.length_pos_iff.mpr filled
      rw [List.length_append] at total
      have nothing : front = [] := List.length_eq_zero_iff.mp (by omega)
      subst nothing
      exact List.not_mem_nil
  | .field id _ required shape others, .inr ends, ⟨_, fresh, _, numbered⟩, (value, record), _,
      ⟨own, rest, split, _, holding, spelled⟩ => by
      obtain ⟨number, member, behind⟩ := exists_required_behind ends numbered spelled
      have apart : id ≠ number := by
        rintro rfl
        exact fresh (requiredIds_subset_ids others member)
      have foreign : ∀ fields ⊆ own, number ∉ fields.map WireField.id := by
        intro fields within found
        obtain ⟨field, inside, same⟩ := List.mem_map.mp found
        exact apart ((holding field (within inside)).number.symm.trans same)
      refine ⟨number, ?_, fun front back same filled => ?_⟩
      · cases required with
        | false => exact member
        | true => exact List.mem_cons_of_mem id member
      · rcases List.append_eq_append_iff.mp (split.symm.trans same) with
          ⟨later, rfl, cut⟩ | ⟨later, rfl, _⟩
        · rw [List.map_append, List.mem_append]
          exact not_or.mpr
            ⟨foreign own (List.Subset.refl own), behind later back cut filled⟩
        · exact foreign front (List.subset_append_left front later)

/-! ## Whole objects -/

section Cut

variable {schema : Schema} {record : schema.Record} {bytes : Bytes} (numbered : schema.Numbered)
  (encoded : schema.encode record = .ok bytes) (short : bytes.length < 2 ^ 64)
include numbered encoded short

theorem cutCleanly_of_decode (plain : schema.Plain) (whole : schema.decode bytes = .ok record) :
    schema.CutCleanly record bytes := by
  intro count within result
  obtain ⟨fields, rfl, spelled⟩ := exists_spelled_of_encode numbered encoded short
  obtain ⟨others, same, made, _⟩ := decodeInto_eq_ok_iff.mp whole
  cases WireField.join_injective same
  constructor
  · intro read
    obtain ⟨front, taken, _, covered⟩ := decodeInto_eq_ok_iff.mp read
    have together : WireField.join front ++ (WireField.join fields).drop count =
        WireField.join fields := by
      rw [← taken]
      exact List.take_append_drop count _
    obtain ⟨back, rfl, _⟩ := WireField.exists_of_join_eq together
    obtain ⟨part, first, behind⟩ := (schema.made_append front back _ record).mp made
    have again : schema.decode ((WireField.join (front ++ back)).take count) = .ok part :=
      decodeInto_eq_ok_iff.mpr ⟨front, taken, first, covered⟩
    cases read.symm.trans again
    refine ⟨front, back, rfl, ?_, (covered_iff schema numbered front).mp covered, ?_⟩
    · rw [← taken, List.length_take_of_le (Nat.le_of_lt within)]
    · exact cut_of_made schema numbered plain record _ front back spelled first behind
  · rintro ⟨front, back, same, rfl, required, rfl⟩
    cases WireField.join_injective same
    obtain ⟨part, first, behind⟩ := (schema.made_append front back _ record).mp made
    rw [← cut_of_made schema numbered plain record part front back spelled first behind]
    have covered := (covered_iff schema numbered front).mpr required
    refine decodeInto_eq_ok_iff.mpr ⟨front, ?_, first, covered⟩
    rw [WireField.join_append]
    exact List.take_left

/-- When the last field is required, no beginning of the bytes is read. -/
theorem exists_error_of_cut (ends : schema.EndsRequired) (cuts : schema.CutCleanly record bytes)
    {count : Nat} (within : count < bytes.length) :
    ∃ error, schema.decode (bytes.take count) = .error error := by
  cases read : schema.decode (bytes.take count) with
  | error error => exact ⟨error, rfl⟩
  | ok result =>
      obtain ⟨fields, rfl, spelled⟩ := exists_spelled_of_encode numbered encoded short
      obtain ⟨front, back, same, rfl, required, _⟩ := (cuts count within result).mp read
      cases WireField.join_injective same
      obtain ⟨number, member, behind⟩ := exists_required_behind ends numbered spelled
      refine absurd (required member) (behind front back rfl ?_)
      rintro rfl
      rw [List.append_nil] at within
      exact Nat.lt_irrefl _ within

end Cut

/-- An object whose fields can be told apart and that comes back as it was written can be cut
off. -/
theorem exists_cutCleanly {schema : Schema} (numbered : schema.Numbered) (plain : schema.Plain)
    {record : schema.Record} (complete : schema.Complete record)
    (shallow : schema.depth record ≤ maximumDepth) :
    ∃ bytes, schema.encode record = .ok bytes ∧
      (bytes.length < 2 ^ 64 → schema.CutCleanly record bytes) := by
  obtain ⟨bytes, encoded, back⟩ := round_trip_of_plain numbered plain complete shallow
  exact ⟨bytes, encoded, fun short =>
    cutCleanly_of_decode numbered encoded short plain (back short)⟩

theorem exists_no_beginning {schema : Schema} (numbered : schema.Numbered) (plain : schema.Plain)
    (ends : schema.EndsRequired) {record : schema.Record} (complete : schema.Complete record)
    (shallow : schema.depth record ≤ maximumDepth) :
    ∃ bytes, schema.encode record = .ok bytes ∧
      (bytes.length < 2 ^ 64 → ∀ count < bytes.length,
        ∃ error, schema.decode (bytes.take count) = .error error) := by
  obtain ⟨bytes, encoded, cuts⟩ := exists_cutCleanly numbered plain complete shallow
  exact ⟨bytes, encoded, fun short _ within =>
    exists_error_of_cut numbered encoded short ends (cuts short) within⟩

/-- **What is cut off is never read as something else.**  An object that comes back as it was
written, of any schema whose fields can be told apart and of every schema of the catalogue, can
be cut off: a beginning of its bytes is read exactly where it ends between two fields and holds
all required ones, and then as what is left of the object.  No beginning of the bytes of a signed
identity, a request for one, an identity, a node or an answer with a PIN or a passphrase can be
read. -/
theorem decode_take :
    (∀ (schema : Schema) (record : schema.Record), schema.Numbered → schema.Plain →
      schema.Complete record → schema.depth record ≤ maximumDepth →
        ∃ bytes, schema.encode record = .ok bytes ∧
          (bytes.length < 2 ^ 64 → schema.CutCleanly record bytes)) ∧
    (∀ (kind : MessageKind) (record : kind.schema.Record), kind.schema.Complete record →
      kind.schema.depth record ≤ maximumDepth →
        ∃ bytes, kind.schema.encode record = .ok bytes ∧
          (bytes.length < 2 ^ 64 → kind.schema.CutCleanly record bytes)) ∧
    ∀ schema ∈ [SignedIdentity.schema, SignIdentity.schema, Identity.schema, HdNode.schema,
        PinMatrixAck.schema, PassphraseAck.schema],
      ∀ record : schema.Record, schema.Complete record → schema.depth record ≤ maximumDepth →
        ∃ bytes, schema.encode record = .ok bytes ∧
          (bytes.length < 2 ^ 64 → ∀ count < bytes.length,
            ∃ error, schema.decode (bytes.take count) = .error error) := by
  refine ⟨?_, ?_, ?_⟩
  · intro schema record numbered plain complete shallow
    exact exists_cutCleanly numbered plain complete shallow
  · intro kind record complete shallow
    exact exists_cutCleanly kind.schema_numbered kind.schema_plain complete shallow
  · have strict : ∀ schema ∈ [SignedIdentity.schema, SignIdentity.schema, Identity.schema,
        HdNode.schema, PinMatrixAck.schema, PassphraseAck.schema],
        schema.Numbered ∧ schema.Plain ∧ schema.EndsRequired := by
      simp [Numbered, Shape.Numbered, ids, Plain, Shape.Plain, EndsRequired, Shape.Single,
        SignedIdentity.schema, SignIdentity.schema, Identity.schema, HdNode.schema,
        PinMatrixAck.schema, PassphraseAck.schema]
    intro schema member record complete shallow
    obtain ⟨numbered, plain, ends⟩ := strict schema member
    exact exists_no_beginning numbered plain ends complete shallow

/-- A request for the key at a path. -/
def someRequest : GetPublicKey.schema.Record :=
  ([(44 : UInt32), (300 : UInt32)], some "a", none, ())

/-- An identity, a request, and an answer with a PIN. -/
theorem decode_take_of_request :
    Identity.schema.CutCleanly ("ssh", "", "", ()) [10, 3, 115, 115, 104, 18, 0, 26, 0] ∧
      GetPublicKey.schema.CutCleanly someRequest [8, 44, 8, 172, 2, 18, 1, 97] ∧
      ∀ count < 4, ∃ error,
        PinMatrixAck.schema.decode (List.take count [10, 2, 49, 50]) = .error error := by
  obtain ⟨anySchema, anyKind, strict⟩ := decode_take
  have identity : Identity.schema.encode ("ssh", "", "", ()) =
      .ok [10, 3, 115, 115, 104, 18, 0, 26, 0] := by decide +kernel
  have request : GetPublicKey.schema.encode someRequest = .ok [8, 44, 8, 172, 2, 18, 1, 97] := by
    decide +kernel
  have pin : PinMatrixAck.schema.encode ("12", ()) = .ok [10, 2, 49, 50] := by decide +kernel
  refine ⟨?_, ?_, ?_⟩
  · have numbered : Identity.schema.Numbered := by
      simp [Identity.schema, Numbered, Shape.Numbered, ids]
    have plain : Identity.schema.Plain := by simp [Identity.schema, Plain, Shape.Plain]
    have complete : Identity.schema.Complete ("ssh", "", "", ()) :=
      ⟨fun _ => trivial, fun _ => trivial, fun _ => trivial, trivial⟩
    obtain ⟨bytes, encoded, cuts⟩ := anySchema _ _ numbered plain complete (by decide +kernel)
    cases identity.symm.trans encoded
    exact cuts (by decide)
  · have complete : GetPublicKey.schema.Complete someRequest :=
      ⟨fun _ => ⟨List.cons_ne_nil _ _, fun _ _ => trivial⟩, fun _ => trivial,
        fun present => absurd present Bool.false_ne_true, trivial⟩
    obtain ⟨bytes, encoded, cuts⟩ := anyKind .getPublicKey someRequest complete (by decide +kernel)
    cases request.symm.trans encoded
    exact cuts (by decide)
  · have complete : PinMatrixAck.schema.Complete ("12", ()) := ⟨fun _ => trivial, trivial⟩
    obtain ⟨bytes, encoded, cuts⟩ :=
      strict PinMatrixAck.schema (by simp) ("12", ()) complete (by decide +kernel)
    cases pin.symm.trans encoded
    exact cuts (by decide)

end Schema
end SecurityKey
