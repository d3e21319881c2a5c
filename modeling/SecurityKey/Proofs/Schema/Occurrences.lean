import SecurityKey.Proofs.Schema.Order

/-!
# Objects made of occurrences

A body that is read is a list of complete fields (`exists_fields_of_decodeFields`), in one way
only (`WireField.exists_of_join_eq`).  Each of them changes the value with its number and nothing
else, so a value is made of the occurrences of its field alone, one after the other.
`Schema.Made` says this of all values of an object, and `Schema.Covered` that the required
fields have an occurrence.  A body is read as some object if and only if both hold
(`Schema.decodeBody_eq_ok_iff`).

Two lists of fields make of an object what they make one after the other (`Schema.made_append`).
-/

set_option autoImplicit false

namespace SecurityKey

variable {nested : Option NestedDecoder}

/-! ## Bodies and their fields -/

namespace WireField

/-- A field is told apart from what comes behind it. -/
theorem bytes_append_inj {field other : WireField} {rest behind : Bytes}
    (same : field.bytes ++ rest = other.bytes ++ behind) : field = other ∧ rest = behind := by
  obtain ⟨id, wire, payload, small, complete⟩ := field
  obtain ⟨otherId, otherWire, otherPayload, otherSmall, otherComplete⟩ := other
  simp only [bytes, List.append_assoc] at same
  have tagged := Scan.reads_tag small wire (payload ++ rest)
  rw [same, Scan.reads_tag otherSmall otherWire] at tagged
  injection tagged with found left
  obtain ⟨rfl, rfl⟩ := Prod.mk.inj found
  have skipped := Scan.reads_skip complete rest
  have payloads := List.append_cancel_left same
  rw [payloads, Scan.reads_skip otherComplete] at skipped
  cases skipped
  cases List.append_cancel_right payloads
  exact ⟨rfl, rfl⟩

/-- Fields at the front of a body are fields of the body. -/
theorem exists_of_join_eq {front fields : List WireField} {rest : Bytes}
    (same : join front ++ rest = join fields) :
    ∃ back, fields = front ++ back ∧ rest = join back := by
  induction front generalizing fields with
  | nil => exact ⟨fields, rfl, same⟩
  | cons field front hypothesis =>
      rw [join_cons, List.append_assoc] at same
      cases fields with
      | nil =>
          have filled := isEmpty_bytes_append field (join front ++ rest)
          rw [same] at filled
          cases filled
      | cons other fields =>
          rw [join_cons] at same
          obtain ⟨rfl, others⟩ := bytes_append_inj same
          obtain ⟨back, rfl, behind⟩ := hypothesis others
          exact ⟨back, rfl, behind⟩

/-- The fields with a number. -/
def under (id : UInt32) (fields : List WireField) : List WireField :=
  fields.filter fun field => field.id = id

/-- The fields with other numbers. -/
def beside (id : UInt32) (fields : List WireField) : List WireField :=
  fields.filter fun field => field.id ≠ id

theorem under_append (id : UInt32) (first second : List WireField) :
    under id (first ++ second) = under id first ++ under id second := List.filter_append ..

theorem beside_append (id : UInt32) (first second : List WireField) :
    beside id (first ++ second) = beside id first ++ beside id second := List.filter_append ..

end WireField

/-- What is read is a list of complete fields, and each of them has been taken. -/
theorem exists_fields_of_decodeFields {schema : Schema} {draft result : schema.Draft}
    {body : Bytes} (read : schema.decodeFields nested draft body = .ok result) :
    ∃ fields, body = WireField.join fields ∧
      fields.foldlM (schema.takeField nested) draft = .ok result := by
  induction counted : body.length using Nat.strong_induction_on generalizing draft body with
  | h length hypothesis =>
      by_cases done : body = []
      · subst done
        rw [decodeFields_nil] at read
        exact ⟨[], rfl, read⟩
      have filled : body.isEmpty = false := List.isEmpty_eq_false_iff.mpr done
      cases tagged : Scan.tag body with
      | error error left =>
          rw [decodeFields_untagged draft filled tagged] at read
          cases read
      | ok found rest =>
          obtain ⟨id, wire⟩ := found
          rw [decodeFields_tagged draft tagged] at read
          cases ran : schema.decodeOccurrence nested draft id wire rest with
          | error error left =>
              rw [ran] at read
              cases read
          | ok taken behind =>
              rw [ran] at read
              have shorter : behind.length < length := counted ▸
                Nat.lt_of_le_of_lt (Schema.narrows_decodeOccurrence _ _ _ _ _ _ _ _ ran)
                  (Scan.shrinks_tag _ _ _ tagged)
              obtain ⟨small, source⟩ := Scan.tag_eq_ok_iff.mp tagged
              obtain ⟨payload, carried, rfl⟩ :=
                Scan.skip_eq_ok_iff.mp (takes_decodeOccurrence schema draft id ran)
              let field : WireField := ⟨id, wire, payload, small, carried⟩
              obtain ⟨fields, rfl, folded⟩ := hypothesis behind.length shorter read rfl
              have settles : (schema.decodeOccurrence nested draft id wire).Settles payload
                  (schema.takeField nested draft field) := settles_takeField schema draft field
              have first := (settles.eq_ok ran).1
              refine ⟨field :: fields, ?_, bind_eq_ok.mpr ⟨taken, first, folded⟩⟩
              rw [source, WireField.join_cons, WireField.bytes, List.append_assoc]

/-! ## One field after the other -/

/-- A field on the wire read into a value. -/
def Shape.takeField (nested : Option NestedDecoder) (shape : Shape) (value : shape.Value)
    (field : WireField) : Except Error shape.Value :=
  outcome (shape.decode nested field.wire value field.payload)

namespace Schema

section Field

variable {id : UInt32} {name : String} {required : Bool} {shape : Shape} {others : Schema}

/-- A field on the wire goes to the first field of an object when it has its number. -/
theorem takeField_here {field : WireField} (here : field.id = id) (value : shape.Value)
    (seen : Bool) (draft : others.Draft) :
    (Schema.field id name required shape others).takeField nested ((value, seen), draft) field =
      (fun value => ((value, true), draft)) <$> shape.takeField nested value field := by
  subst here
  let place : Place (.field field.id name required shape others) field.id shape := .here
  exact takeField_place place _

/-- And otherwise to one of the others, or nowhere. -/
theorem takeField_there {field : WireField} (other : field.id ≠ id) (value : shape.Value)
    (seen : Bool) (draft : others.Draft) :
    (Schema.field id name required shape others).takeField nested ((value, seen), draft) field =
      (fun draft => ((value, seen), draft)) <$> others.takeField nested draft field := by
  by_cases listed : field.id ∈ others.ids
  · obtain ⟨found, ⟨place⟩⟩ := exists_place others listed
    let outer : Place (.field id name required shape others) field.id found :=
      .there other.symm place
    refine (takeField_place outer _).trans ?_
    rw [takeField_place place]
    exact (Functor.map_map _ _ _).symm
  · have unlisted : field.id ∉ (Schema.field id name required shape others).ids := by
      rw [ids, List.mem_cons]
      exact not_or.mpr ⟨other, listed⟩
    refine (takeField_unlisted _ unlisted).trans ?_
    rw [takeField_unlisted draft listed]
    rfl

end Field

/-- Fields that are taken one after the other: each value is made of the occurrences of its
field, and is known to have occurred when there is one. -/
theorem foldlM_takeField_field {id : UInt32} {name : String} {required : Bool} {shape : Shape}
    {others : Schema} (fields : List WireField) (value made : shape.Value) (seen known : Bool)
    (draft result : others.Draft) :
    fields.foldlM ((Schema.field id name required shape others).takeField nested)
        ((value, seen), draft) = .ok ((made, known), result) ↔
      (WireField.under id fields).foldlM (shape.takeField nested) value = .ok made ∧
      known = (seen || !(WireField.under id fields).isEmpty) ∧
      (WireField.beside id fields).foldlM (others.takeField nested) draft = .ok result := by
  induction fields generalizing value seen draft with
  | nil =>
      constructor
      · intro run
        cases run
        exact ⟨rfl, (Bool.or_false _).symm, rfl⟩
      · rintro ⟨own, occurred, behind⟩
        cases own
        cases behind
        cases occurred.trans (Bool.or_false seen)
        rfl
  | cons field fields hypothesis =>
      by_cases here : field.id = id
      · have own : WireField.under id (field :: fields) = field :: WireField.under id fields :=
          List.filter_cons_of_pos (by simpa using here)
        have rest : WireField.beside id (field :: fields) = WireField.beside id fields :=
          List.filter_cons_of_neg (by simpa using here)
        have first : (Schema.field id name required shape others).takeField nested
            ((value, seen), draft) field = _ := takeField_here here value seen draft
        rw [own, rest, List.isEmpty_cons, Bool.not_false, Bool.or_true]
        constructor
        · intro run
          obtain ⟨between, changed, run⟩ := bind_eq_ok.mp run
          obtain ⟨next, taken, rfl⟩ := map_eq_ok.mp (first.symm.trans changed)
          obtain ⟨made, known, behind⟩ := (hypothesis next true draft).mp run
          exact ⟨bind_eq_ok.mpr ⟨next, taken, made⟩, known.trans (Bool.true_or _), behind⟩
        · rintro ⟨run, known, behind⟩
          obtain ⟨next, taken, made⟩ := bind_eq_ok.mp run
          refine bind_eq_ok.mpr ⟨_, first.trans (map_eq_ok.mpr ⟨next, taken, rfl⟩), ?_⟩
          exact (hypothesis next true draft).mpr
            ⟨made, known.trans (Bool.true_or _).symm, behind⟩
      · have own : WireField.under id (field :: fields) = WireField.under id fields :=
          List.filter_cons_of_neg (by simpa using here)
        have rest : WireField.beside id (field :: fields) = field :: WireField.beside id fields :=
          List.filter_cons_of_pos (by simpa using here)
        have first : (Schema.field id name required shape others).takeField nested
            ((value, seen), draft) field = _ := takeField_there here value seen draft
        rw [own, rest]
        constructor
        · intro run
          obtain ⟨between, changed, run⟩ := bind_eq_ok.mp run
          obtain ⟨next, taken, rfl⟩ := map_eq_ok.mp (first.symm.trans changed)
          obtain ⟨made, known, behind⟩ := (hypothesis value seen next).mp run
          exact ⟨made, known, bind_eq_ok.mpr ⟨next, taken, behind⟩⟩
        · rintro ⟨made, known, run⟩
          obtain ⟨next, taken, behind⟩ := bind_eq_ok.mp run
          refine bind_eq_ok.mpr ⟨_, first.trans (map_eq_ok.mpr ⟨next, taken, rfl⟩), ?_⟩
          exact (hypothesis value seen next).mpr ⟨made, known, behind⟩

/-! ## Whole objects -/

/-- Whether some fields on the wire, taken into an object that is there, make another one of it:
every value is made of the occurrences of its field. -/
def Made (nested : Option NestedDecoder) : (schema : Schema) → (fields : List WireField) →
    (storage record : schema.Record) → Prop
  | .nil, _, _, _ => True
  | .field id _ _ shape others, fields, (value, storage), (made, record) =>
      (WireField.under id fields).foldlM (shape.takeField nested) value = .ok made ∧
        others.Made nested (WireField.beside id fields) storage record

/-- Whether every required field has an occurrence. -/
def Covered : (schema : Schema) → (fields : List WireField) → Prop
  | .nil, _ => True
  | .field id _ required _ others, fields =>
      (required = true → WireField.under id fields ≠ []) ∧
        others.Covered (WireField.beside id fields)

/-- A draft that was made of some fields is finished when the required fields are covered. -/
theorem finish_foldlM_eq_ok_iff : (schema : Schema) → (fields : List WireField) →
    (storage record : schema.Record) →
      (fields.foldlM (schema.takeField nested) (schema.draft storage) >>= schema.finish =
          .ok record ↔ schema.Made nested fields storage record ∧ schema.Covered fields)
  | .nil, fields, _, _ => by
      have unlisted (field : WireField) : Schema.nil.takeField nested () field = .ok () := by
        have fresh : field.id ∉ Schema.nil.ids := List.not_mem_nil
        exact takeField_unlisted _ fresh
      have taken : fields.foldlM (Schema.nil.takeField nested) () = .ok () := by
        induction fields with
        | nil => rfl
        | cons field fields hypothesis => exact bind_eq_ok.mpr ⟨(), unlisted field, hypothesis⟩
      exact iff_of_true (bind_eq_ok.mpr ⟨(), taken, rfl⟩) ⟨trivial, trivial⟩
  | .field id name required shape others, fields, (value, storage), (made, record) => by
      have behind := finish_foldlM_eq_ok_iff others (WireField.beside id fields) storage record
      constructor
      · intro read
        obtain ⟨⟨⟨found, known⟩, draft⟩, taken, finished⟩ := bind_eq_ok.mp read
        obtain ⟨own, rfl, rest⟩ := (foldlM_takeField_field fields _ _ _ _ _ _).mp taken
        rw [finish] at finished
        split at finished
        · cases finished
        · rename_i present
          obtain ⟨last, kept, finished⟩ := bind_eq_ok.mp finished
          cases finished
          obtain ⟨whole, covered⟩ := behind.mp (bind_eq_ok.mpr ⟨draft, rest, kept⟩)
          refine ⟨⟨own, whole⟩, ?_, covered⟩
          rintro rfl none
          rw [none] at present
          exact present rfl
      · rintro ⟨⟨own, whole⟩, occurs, covered⟩
        obtain ⟨draft, rest, finished⟩ := bind_eq_ok.mp (behind.mpr ⟨whole, covered⟩)
        refine bind_eq_ok.mpr
          ⟨_, (foldlM_takeField_field fields _ _ _ _ _ _).mpr ⟨own, rfl, rest⟩, ?_⟩
        have present : (required && !(false || !(WireField.under id fields).isEmpty)) = false := by
          cases required with
          | false => rfl
          | true => simpa using occurs rfl
        rw [finish, present, if_neg Bool.false_ne_true, finished]
        rfl

/-- A body is read as an object exactly when it consists of complete fields that make this
object and cover the required ones. -/
theorem decodeBody_eq_ok_iff {schema : Schema} {storage record : schema.Record} {body : Bytes} :
    schema.decodeBody nested storage body = .ok record ↔
      ∃ fields, body = WireField.join fields ∧ schema.Made nested fields storage record ∧
        schema.Covered fields := by
  constructor
  · intro read
    obtain ⟨draft, taken, finished⟩ := bind_eq_ok.mp read
    obtain ⟨fields, rfl, folded⟩ := exists_fields_of_decodeFields taken
    refine ⟨fields, rfl, ?_⟩
    exact (finish_foldlM_eq_ok_iff schema fields storage record).mp
      (bind_eq_ok.mpr ⟨draft, folded, finished⟩)
  · rintro ⟨fields, rfl, made⟩
    rw [decodeBody_join]
    exact (finish_foldlM_eq_ok_iff schema fields storage record).mpr made

/-! ## One list of fields behind another -/

/-- No fields make nothing new. -/
theorem made_nil_iff : (schema : Schema) → (storage record : schema.Record) →
    (schema.Made nested [] storage record ↔ storage = record)
  | .nil, _, _ => iff_of_true trivial rfl
  | .field _ _ _ _ others, (value, storage), (made, record) => by
      have behind := made_nil_iff others storage record
      constructor
      · rintro ⟨own, rest⟩
        cases own
        exact congrArg (Prod.mk value) (behind.mp rest)
      · intro same
        cases same
        exact ⟨rfl, behind.mpr rfl⟩

/-- Two lists of fields make of an object what they make one after the other. -/
theorem made_append : (schema : Schema) → (first second : List WireField) →
    (storage record : schema.Record) →
      (schema.Made nested (first ++ second) storage record ↔
        ∃ between, schema.Made nested first storage between ∧
          schema.Made nested second between record)
  | .nil, _, _, _, _ => iff_of_true trivial ⟨(), trivial, trivial⟩
  | .field id _ _ shape others, first, second, (value, storage), (made, record) => by
      have behind := made_append others (WireField.beside id first) (WireField.beside id second)
        storage record
      rw [Made, WireField.under_append, WireField.beside_append, behind, List.foldlM_append,
        bind_eq_ok]
      constructor
      · rintro ⟨⟨middle, own, further⟩, between, earlier, later⟩
        exact ⟨(middle, between), ⟨own, earlier⟩, further, later⟩
      · rintro ⟨⟨middle, between⟩, ⟨own, earlier⟩, further, later⟩
        exact ⟨⟨middle, own, further⟩, between, earlier, later⟩

/-- More fields cover more. -/
theorem Covered.append : {schema : Schema} → {first : List WireField} →
    schema.Covered first → (second : List WireField) → schema.Covered (first ++ second)
  | .nil, _, _, _ => trivial
  | .field id _ _ _ others, first, ⟨occurs, covered⟩, second => by
      rw [Covered, WireField.under_append, WireField.beside_append]
      refine ⟨fun required => ?_, covered.append _⟩
      exact List.append_ne_nil_of_left_ne_nil (occurs required) _

end Schema

/-! ## Root objects -/

/-- The decoder of the objects inside one in which `room` more containers may be open. -/
def decoderAt : (room : Nat) → Option NestedDecoder
  | 0 => none
  | room + 1 => some (Schema.decodeAt room)

theorem decodeAt_eq_decodeBody (room : Nat) :
    Schema.decodeAt room = Schema.decodeBody (decoderAt room) := by
  cases room with
  | zero => rfl
  | succ room => rfl

/-- A root object is read exactly when it consists of complete fields that make it. -/
theorem Schema.decodeInto_eq_ok_iff {schema : Schema} {storage record : schema.Record}
    {input : Bytes} :
    schema.decodeInto storage input = .ok record ↔
      ∃ fields, input = WireField.join fields ∧
        schema.Made (decoderAt (maximumDepth - 1)) fields storage record ∧
        schema.Covered fields := by
  rw [decodeInto, decodeAt_eq_decodeBody]
  exact Schema.decodeBody_eq_ok_iff

end SecurityKey
