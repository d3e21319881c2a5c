import SecurityKey.Proofs.Schema.Unknown

/-!
# The place of a field

A field that is listed has a place in the object: `Schema.Place` says where the first field with
a number stands, and what the shape of its values is.  Of a draft that is being read, the place
gives what is known of this field, and a field on the wire with its number changes that and
nothing else (`takeField_place`).

What is put in one place does not matter for another one (`Place.get_set_of_ne`), and it is of
no interest which of two places is filled first (`Place.set_comm`).
-/

set_option autoImplicit false

namespace SecurityKey

variable {nested : Option NestedDecoder}

namespace Schema

/-- Where the first field with a number stands in an object, and the shape of its values. -/
inductive Place : Schema → UInt32 → Shape → Type where
  | here {id : UInt32} {name : String} {required : Bool} {shape : Shape} {others : Schema} :
      Place (.field id name required shape others) id shape
  | there {number id : UInt32} {name : String} {required : Bool} {first shape : Shape}
      {others : Schema} (other : number ≠ id) (place : Place others id shape) :
      Place (.field number name required first others) id shape

namespace Place

variable {id : UInt32} {shape : Shape}

/-- The value of the field in an object. -/
def value : {schema : Schema} → Place schema id shape → schema.Record → shape.Value
  | _, .here, (value, _) => value
  | _, .there _ place, (_, record) => place.value record

/-- What is known of the field in a draft: its value, and whether it has occurred. -/
def get : {schema : Schema} → Place schema id shape → schema.Draft → shape.Value × Bool
  | _, .here, (known, _) => known
  | _, .there _ place, (_, draft) => place.get draft

/-- The draft in which something else is known of the field. -/
def set : {schema : Schema} → Place schema id shape → shape.Value × Bool → schema.Draft →
    schema.Draft
  | _, .here, known, (_, draft) => (known, draft)
  | _, .there _ place, known, (first, draft) => (first, place.set known draft)

/-! ## Places that are filled -/

@[simp] theorem get_set : {schema : Schema} → (place : Place schema id shape) →
    (known : shape.Value × Bool) → (draft : schema.Draft) →
      place.get (place.set known draft) = known
  | _, .here, _, _ => rfl
  | _, .there _ place, known, (_, draft) => get_set place known draft

@[simp] theorem set_set : {schema : Schema} → (place : Place schema id shape) →
    (known later : shape.Value × Bool) → (draft : schema.Draft) →
      place.set later (place.set known draft) = place.set later draft
  | _, .here, _, _, _ => rfl
  | _, .there _ place, known, later, (first, draft) =>
      congrArg (Prod.mk first) (set_set place known later draft)

/-- What is known of a field has nothing to do with the other fields. -/
theorem get_set_of_ne : ∀ {schema : Schema} {id another : UInt32} {shape second : Shape}
    (place : Place schema id shape) (others : Place schema another second)
    (known : second.Value × Bool) (draft : schema.Draft),
    id ≠ another → place.get (others.set known draft) = place.get draft
  | _, _, _, _, _, .here, .here, _, _, apart => absurd rfl apart
  | _, _, _, _, _, .here, .there _ _, _, _, _ => rfl
  | _, _, _, _, _, .there _ _, .here, _, _, _ => rfl
  | _, _, _, _, _, .there _ place, .there _ others, known, (_, draft), apart =>
      get_set_of_ne place others known draft apart

/-- It does not matter which of two fields is filled first. -/
theorem set_comm : ∀ {schema : Schema} {id another : UInt32} {shape second : Shape}
    (place : Place schema id shape) (others : Place schema another second)
    (known : shape.Value × Bool) (knownOthers : second.Value × Bool) (draft : schema.Draft),
    id ≠ another → place.set known (others.set knownOthers draft) =
      others.set knownOthers (place.set known draft)
  | _, _, _, _, _, .here, .here, _, _, _, apart => absurd rfl apart
  | _, _, _, _, _, .here, .there _ _, _, _, _, _ => rfl
  | _, _, _, _, _, .there _ _, .here, _, _, _, _ => rfl
  | _, _, _, _, _, .there _ place, .there _ others, known, knownOthers, (first, draft), apart =>
      congrArg (Prod.mk first) (set_comm place others known knownOthers draft apart)

/-! ## From an object to a draft and back -/

/-- At first nothing has occurred, and the value is the one that is there. -/
theorem get_draft : {schema : Schema} → (place : Place schema id shape) →
    (record : schema.Record) → place.get (schema.draft record) = (place.value record, false)
  | _, .here, _ => rfl
  | _, .there _ place, (_, record) => get_draft place record

/-- A draft that is finished keeps the values. -/
theorem value_of_finish : {schema : Schema} → (place : Place schema id shape) →
    (draft : schema.Draft) → (record : schema.Record) → schema.finish draft = .ok record →
      place.value record = (place.get draft).1
  | _, .here, ((value, seen), draft), record, finished => by
      rw [Schema.finish] at finished
      split at finished
      · cases finished
      · obtain ⟨others, _, finished⟩ := bind_eq_ok.mp finished
        cases finished
        rfl
  | _, .there _ place, ((value, seen), draft), record, finished => by
      rw [Schema.finish] at finished
      split at finished
      · cases finished
      · obtain ⟨others, behind, finished⟩ := bind_eq_ok.mp finished
        cases finished
        exact value_of_finish place draft others behind

end Place

/-- A number that is listed has a place. -/
theorem exists_place {id : UInt32} : (schema : Schema) → id ∈ schema.ids →
    ∃ shape, Nonempty (Place schema id shape)
  | .nil, listed => by cases listed
  | .field number name required shape others, listed => by
      by_cases same : number = id
      · subst same
        exact ⟨shape, ⟨.here⟩⟩
      · have further : id ∈ others.ids := by
          rcases List.mem_cons.mp listed with here | further
          · exact absurd here.symm same
          · exact further
        obtain ⟨found, ⟨place⟩⟩ := exists_place others further
        exact ⟨found, ⟨.there same place⟩⟩

/-! ## Fields that are taken -/

variable {schema : Schema} {shape : Shape}

theorem decodeField?_place (wire : WireType) {id : UInt32} : {schema : Schema} →
    (place : Place schema id shape) → (draft : schema.Draft) →
      schema.decodeField? nested wire id draft =
        some ((fun value => place.set (value, true) draft) <$>
          shape.decode nested wire (place.get draft).1)
  | _, .here, _ => if_pos rfl
  | _, .there other place, (_, draft) => by
      rw [decodeField?, if_neg other, decodeField?_place wire place draft]
      exact congrArg some (Functor.map_map _ _ _)

theorem decodeOccurrence_place (wire : WireType) {id : UInt32} (place : Place schema id shape)
    (draft : schema.Draft) :
    schema.decodeOccurrence nested draft id wire =
      (fun value => place.set (value, true) draft) <$>
        shape.decode nested wire (place.get draft).1 := by
  rw [decodeOccurrence, decodeField?_place wire place draft]

/-- A field on the wire is read into the value of the field with its number. -/
theorem takeField_place {field : WireField} (place : Place schema field.id shape)
    (draft : schema.Draft) :
    schema.takeField nested draft field =
      (fun value => place.set (value, true) draft) <$>
        outcome (shape.decode nested field.wire (place.get draft).1 field.payload) := by
  rw [takeField, decodeOccurrence_place field.wire place draft, outcome_map]

theorem takeField_eq_ok_iff {field : WireField} (place : Place schema field.id shape)
    {draft result : schema.Draft} :
    schema.takeField nested draft field = .ok result ↔
      ∃ value, outcome (shape.decode nested field.wire (place.get draft).1 field.payload) =
        .ok value ∧ place.set (value, true) draft = result := by
  rw [takeField_place place]
  cases outcome (shape.decode nested field.wire (place.get draft).1 field.payload) with
  | error error => simp
  | ok value => simp

/-- A field on the wire changes nothing of what is known of fields with other numbers. -/
theorem get_takeField_of_ne {id : UInt32} (place : Place schema id shape) {field : WireField}
    (apart : field.id ≠ id) {draft result : schema.Draft}
    (taken : schema.takeField nested draft field = .ok result) :
    place.get result = place.get draft := by
  by_cases listed : field.id ∈ schema.ids
  · obtain ⟨second, ⟨others⟩⟩ := exists_place schema listed
    obtain ⟨value, _, rfl⟩ := (takeField_eq_ok_iff others).mp taken
    exact Place.get_set_of_ne place others _ draft apart.symm
  · rw [takeField_unlisted draft listed] at taken
    cases taken
    rfl

end Schema
end SecurityKey
