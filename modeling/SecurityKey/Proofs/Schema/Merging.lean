import SecurityKey.Proofs.Schema.Occurrences

/-!
# Bodies behind one another

Two bodies, each of which can be read, can be read one behind the other.  What is read is the
object of the first body with the second one read into it, and this object follows from the
objects of the two bodies by the rules of `Shape.Merged` and `Schema.Merged`: a value that an
occurrence replaces is the one of the last occurrence in the second body, or else it stays; the
elements of a repetition come behind those that are there; and an object inside is merged by the
same rules, with the fields of all its occurrences.

Whether a field can be read does not depend on the storage that it is read into, and what it
makes of the storage depends on it in one of these three ways (`exists_merged_shape`).  The
required fields are looked for in every occurrence of an object, so an occurrence that was read
into a blank object can be read into any other one.  The main statement is
`Schema.decode_append`.
-/

set_option autoImplicit false

namespace SecurityKey

/-! ## Rules -/

/-- Whether a value is replaced when its field occurs. -/
def Shape.IsReplaced : Shape → Prop
  | .repeated _ | .boxed _ | .object _ | .nest => False
  | _ => True

/-- Whether a field has some fields for a body, behind their length. -/
def WireField.Holds (field : WireField) (inside : List WireField) : Prop :=
  ∃ fits : (join inside).length < 2 ^ 64,
    field = .delimited field.id (join inside) field.small fits

mutual
/-- What becomes of the value `before` when some occurrences of its field follow, which alone
make the value `alone`.  Inside the object `room` more containers may be open. -/
inductive Shape.Merged : (room : Nat) → (shape : Shape) → (occurrences : List WireField) →
    (before alone after : shape.Value) → Prop where
  | absent {room : Nat} {shape : Shape} (before alone : shape.Value) :
      Shape.Merged room shape [] before alone before
  | replaced {room : Nat} {shape : Shape} {occurrences : List WireField} {last : WireField}
      (before : shape.Value) {alone : shape.Value} (scalar : shape.IsReplaced)
      (latest : occurrences.getLast? = some last)
      (read : shape.takeField (decoderAt room) shape.blank last = .ok alone) :
      Shape.Merged room shape occurrences before alone alone
  | appended {room : Nat} {item : Shape} (occurrences : List WireField)
      (before alone : List item.Value) :
      Shape.Merged room (.repeated item) occurrences before alone (before ++ alone)
  | boxed {room : Nat} {item : Shape} {occurrences : List WireField}
      {before alone after : item.Value}
      (merged : Shape.Merged room item occurrences before alone after) :
      Shape.Merged room (.boxed item) occurrences before alone after
  | object {room : Nat} {schema : Schema} {occurrences : List WireField}
      {parts : List (List WireField)} {before alone after : schema.Record}
      (held : List.Forall₂ WireField.Holds occurrences parts)
      (merged : Schema.Merged room schema parts.flatten before alone after) :
      Shape.Merged (room + 1) (.object schema) occurrences before alone after
  | nest {room : Nat} {occurrences : List WireField} {before alone after : Nest}
      (merged : Shape.Merged room (.object Nest.schema) occurrences before.toRecord
        alone.toRecord after.toRecord) :
      Shape.Merged room .nest occurrences before alone after

/-- What becomes of the object `before` when some fields follow, which alone make the object
`alone`: every value is merged with the occurrences of its field. -/
inductive Schema.Merged : (room : Nat) → (schema : Schema) → (fields : List WireField) →
    (before alone after : schema.Record) → Prop where
  | nil (room : Nat) (fields : List WireField) : Schema.Merged room .nil fields () () ()
  | field {room : Nat} {id : UInt32} {name : String} {required : Bool} {shape : Shape}
      {others : Schema} {fields : List WireField} {before alone after : shape.Value}
      {behind aloneBehind afterBehind : others.Record}
      (first : Shape.Merged room shape (WireField.under id fields) before alone after)
      (rest : Schema.Merged room others (WireField.beside id fields) behind aloneBehind
        afterBehind) :
      Schema.Merged room (.field id name required shape others) fields (before, behind)
        (alone, aloneBehind) (after, afterBehind)
end

/-! ## Values that are replaced -/

section Steps

variable {α β : Type} {step : α → β → Except Error α}

/-- Steps that do not look at what is there end with what the last one makes. -/
theorem foldlM_of_replacing (replaces : ∀ (first second : α) (item : β),
      step first item = step second item)
    {items : List β} {start result : α} (ran : items.foldlM step start = .ok result)
    (other : α) :
    items = [] ∨
      ∃ last, items.getLast? = some last ∧ step start last = .ok result ∧
        items.foldlM step other = .ok result := by
  rcases List.eq_nil_or_concat items with rfl | ⟨front, last, rfl⟩
  · exact .inl rfl
  rw [List.concat_eq_append] at ran ⊢
  refine .inr ⟨last, List.getLast?_concat, ?_, ?_⟩
  · rw [List.foldlM_append] at ran
    obtain ⟨between, _, behind⟩ := bind_eq_ok.mp ran
    obtain ⟨made, taken, ended⟩ := bind_eq_ok.mp behind
    cases ended
    exact (replaces _ _ _).trans taken
  · rw [← ran]
    cases front with
    | nil => exact congrArg (· >>= pure) (replaces other start last)
    | cons item front =>
        exact congrArg (· >>= (front ++ [last]).foldlM step) (replaces other start item)

end Steps

variable {nested : Option NestedDecoder}

namespace Shape

theorem takeField_of_isReplaced : {shape : Shape} → shape.IsReplaced →
    (first second : shape.Value) → (field : WireField) →
      shape.takeField nested first field = shape.takeField nested second field
  | .u32, _, _, _, _ | .u64, _, _, _, _ | .i32, _, _, _, _ | .i64, _, _, _, _
  | .boolean, _, _, _, _ | .text, _, _, _, _ | .blob, _, _, _, _ | .fixed _, _, _, _, _
  | .enumeration _, _, _, _, _ | .optional _, _, _, _, _ => rfl
  | .repeated _, replaced, _, _, _ | .boxed _, replaced, _, _, _ | .object _, replaced, _, _, _
  | .nest, replaced, _, _, _ => replaced.elim

/-! ## Repetitions -/

/-- What is read of a repetition comes behind the elements that are there. -/
theorem takeField_repeated (item : Shape) (items : List item.Value) (field : WireField) :
    (Shape.repeated item).takeField nested items field =
      (fun run : List item.Value => items ++ run) <$>
        (Shape.repeated item).takeField nested [] field := by
  have single {α : Type} (scan : Scan α) (run : α → List item.Value) :
      (scan >>= fun value => pure (items ++ run value)) =
        (fun run => items ++ run) <$> (scan >>= fun value => pure ([] ++ run value)) := by
    simp only [map_bind, map_pure, List.nil_append]
  have behind : (Shape.repeated item).decode nested field.wire items =
      (fun run : List item.Value => items ++ run) <$>
        (Shape.repeated item).decode nested field.wire [] := by
    simp only [Shape.decode]
    split
    · refine Eq.trans ?_ (map_bind _ _ _).symm
      exact bind_congr fun opened => single _ fun run => run
    · exact single _ fun value => [value]
  refine (congrArg (fun scan => outcome (scan field.payload)) behind).trans ?_
  exact outcome_map _ _ _

theorem foldlM_takeField_repeated (item : Shape) {fields : List WireField}
    {front elements : List item.Value}
    (taken : fields.foldlM ((Shape.repeated item).takeField nested) front = .ok elements)
    (items : List item.Value) :
    fields.foldlM ((Shape.repeated item).takeField nested) (List.append items front) =
      .ok (List.append items elements) := by
  induction fields generalizing front with
  | nil =>
      cases taken
      rfl
  | cons field fields hypothesis =>
      obtain ⟨grown, first, taken⟩ := bind_eq_ok.mp taken
      obtain ⟨run, read, rfl⟩ :=
        map_eq_ok.mp ((takeField_repeated item front field).symm.trans first)
      refine bind_eq_ok.mpr ⟨_, ?_, hypothesis taken⟩
      refine (takeField_repeated item _ field).trans (map_eq_ok.mpr ⟨run, read, ?_⟩)
      exact List.append_assoc items front run

end Shape

/-! ## Objects inside -/

theorem exists_eq_delimited {field : WireField} (delimited : field.wire = .lengthDelimited) :
    ∃ (body : Bytes) (fits : body.length < 2 ^ 64),
      field = .delimited field.id body field.small fits := by
  obtain ⟨id, wire, payload, small, complete⟩ := field
  subst delimited
  obtain ⟨body, fits, rfl⟩ := complete
  exact ⟨body, fits, rfl⟩

/-- An object inside is read from the fields that one of its occurrences holds. -/
theorem outcome_decodeNested_eq_ok_iff {room : Nat} {schema : Schema}
    {storage record : schema.Record} {field : WireField} :
    outcome (decodeNested (decoderAt (room + 1)) field.wire schema storage field.payload) =
        .ok record ↔
      ∃ inside, field.Holds inside ∧ schema.Made (decoderAt room) inside storage record ∧
        schema.Covered inside := by
  have opened {body : Bytes} (fits : body.length < 2 ^ 64) :
      outcome (decodeNested (decoderAt (room + 1)) .lengthDelimited schema storage
        (Varint.encode body.length ++ body)) = schema.decodeBody (decoderAt room) storage body := by
    rw [← decodeAt_eq_decodeBody]
    exact (settles_decodeNested (Schema.decodeAt room) schema storage fits).outcome_eq
  constructor
  · intro read
    cases ran : decodeNested (decoderAt (room + 1)) field.wire schema storage field.payload with
    | error error left =>
        rw [ran] at read
        cases read
    | ok found rest =>
        obtain ⟨_, _, began, _⟩ := run_bind_eq_ok.mp ran
        obtain ⟨delimited, _⟩ := openBody_eq_ok began
        obtain ⟨body, fits, same⟩ := exists_eq_delimited delimited
        rw [same] at read
        obtain ⟨inside, rfl, made⟩ := Schema.decodeBody_eq_ok_iff.mp ((opened fits).symm.trans read)
        exact ⟨inside, ⟨fits, same⟩, made⟩
  · rintro ⟨inside, ⟨fits, same⟩, made⟩
    rw [same]
    exact (opened fits).trans (Schema.decodeBody_eq_ok_iff.mpr ⟨inside, rfl, made⟩)

/-- Where no container can be opened there is no object inside. -/
theorem outcome_decodeNested_of_full {schema : Schema} {storage record : schema.Record}
    {field : WireField} :
    outcome (decodeNested (decoderAt 0) field.wire schema storage field.payload) ≠ .ok record :=
  nofun

/-- All occurrences of an object make of it what the fields in all of them do. -/
theorem foldlM_takeField_object_eq_ok_iff {room : Nat} {schema : Schema}
    {occurrences : List WireField} {storage record : schema.Record} :
    occurrences.foldlM ((Shape.object schema).takeField (decoderAt (room + 1))) storage =
        .ok record ↔
      ∃ parts, List.Forall₂ WireField.Holds occurrences parts ∧
        (∀ inside ∈ parts, schema.Covered inside) ∧
        schema.Made (decoderAt room) parts.flatten storage record := by
  induction occurrences generalizing storage with
  | nil =>
      constructor
      · intro taken
        cases taken
        exact ⟨[], .nil, fun _ member => (List.not_mem_nil member).elim,
          (schema.made_nil_iff _ _).mpr rfl⟩
      · rintro ⟨_, held, _, made⟩
        cases held
        exact congrArg Except.ok ((schema.made_nil_iff _ _).mp made)
  | cons field fields hypothesis =>
      constructor
      · intro taken
        obtain ⟨between, first, taken⟩ := bind_eq_ok.mp taken
        obtain ⟨inside, holds, made, covered⟩ := outcome_decodeNested_eq_ok_iff.mp first
        obtain ⟨parts, held, others, behind⟩ := hypothesis.mp taken
        refine ⟨inside :: parts, .cons holds held, List.forall_mem_cons.mpr ⟨covered, others⟩, ?_⟩
        exact (schema.made_append inside parts.flatten storage record).mpr ⟨between, made, behind⟩
      · rintro ⟨_, held, covered, made⟩
        cases held with
        | @cons _ inside _ parts holds held =>
            rw [List.forall_mem_cons] at covered
            obtain ⟨between, made, behind⟩ :=
              (schema.made_append inside parts.flatten storage record).mp made
            refine bind_eq_ok.mpr ⟨between, ?_, hypothesis.mpr ⟨parts, held, covered.2, behind⟩⟩
            exact outcome_decodeNested_eq_ok_iff.mpr ⟨inside, holds, made, covered.1⟩

/-- A node is read as the object of its fields. -/
theorem foldlM_takeField_nest (occurrences : List WireField) (storage : Nest) :
    occurrences.foldlM (Shape.nest.takeField nested) storage =
      Nest.ofRecord <$> occurrences.foldlM ((Shape.object Nest.schema).takeField nested)
        storage.toRecord := by
  induction occurrences generalizing storage with
  | nil => exact congrArg Except.ok (Nest.ofRecord_toRecord storage).symm
  | cons field fields hypothesis =>
      have first : Shape.nest.takeField nested storage field =
          Nest.ofRecord <$> (Shape.object Nest.schema).takeField nested storage.toRecord field :=
        outcome_map _ _ _
      change Shape.nest.takeField nested storage field >>= _ =
        Nest.ofRecord <$> ((Shape.object Nest.schema).takeField nested storage.toRecord field >>= _)
      rw [first]
      cases (Shape.object Nest.schema).takeField nested storage.toRecord field with
      | error error => rfl
      | ok record => exact hypothesis (Nest.ofRecord record)

/-! ## Merging -/

/-- Whether fields that can be taken into a blank object, inside which `room` more containers may
be open, can be taken into every object, and are merged with it. -/
def Merges (room : Nat) : Prop :=
  ∀ (schema : Schema) (fields : List WireField) (alone : schema.Record),
    schema.Made (decoderAt room) fields schema.blank alone → ∀ before : schema.Record,
      ∃ after, schema.Made (decoderAt room) fields before after ∧
        schema.Merged room fields before alone after

section Level

variable {room : Nat}

/-- The occurrences of an object are merged as the fields in them are. -/
theorem exists_merged_object (below : ∀ lower, room = lower + 1 → Merges lower) {schema : Schema}
    {occurrences : List WireField} {alone : schema.Record}
    (taken : occurrences.foldlM ((Shape.object schema).takeField (decoderAt room)) schema.blank =
      .ok alone)
    (before : schema.Record) :
    ∃ after, occurrences.foldlM ((Shape.object schema).takeField (decoderAt room)) before =
        .ok after ∧
      Shape.Merged room (.object schema) occurrences before alone after := by
  cases room with
  | zero =>
      cases occurrences with
      | nil => exact ⟨before, rfl, @Shape.Merged.absent 0 (.object schema) before alone⟩
      | cons field fields =>
          obtain ⟨_, first, _⟩ := bind_eq_ok.mp taken
          exact absurd first outcome_decodeNested_of_full
  | succ lower =>
      obtain ⟨parts, held, covered, made⟩ := foldlM_takeField_object_eq_ok_iff.mp taken
      obtain ⟨after, madeAfter, merged⟩ := below lower rfl schema parts.flatten alone made before
      refine ⟨after, ?_, .object held merged⟩
      exact foldlM_takeField_object_eq_ok_iff.mpr ⟨parts, held, covered, madeAfter⟩

/-- Occurrences of a value that is replaced leave what the last one makes. -/
theorem exists_merged_replaced {shape : Shape} {occurrences : List WireField}
    {alone : shape.Value}
    (taken : occurrences.foldlM (shape.takeField (decoderAt room)) shape.blank = .ok alone)
    (before : shape.Value) (scalar : shape.IsReplaced) :
    ∃ after, occurrences.foldlM (shape.takeField (decoderAt room)) before = .ok after ∧
      shape.Merged room occurrences before alone after := by
  rcases foldlM_of_replacing (Shape.takeField_of_isReplaced scalar) taken before with
    rfl | ⟨last, latest, read, ran⟩
  · exact ⟨before, rfl, .absent before alone⟩
  · exact ⟨alone, ran, .replaced before scalar latest read⟩

/-- Occurrences that can be read into a blank value can be read into every value, and are merged
with it. -/
theorem exists_merged_shape (below : ∀ lower, room = lower + 1 → Merges lower) :
    (shape : Shape) → (occurrences : List WireField) → (alone : shape.Value) →
      occurrences.foldlM (shape.takeField (decoderAt room)) shape.blank = .ok alone →
        (before : shape.Value) →
          ∃ after, occurrences.foldlM (shape.takeField (decoderAt room)) before = .ok after ∧
            shape.Merged room occurrences before alone after
  | .repeated item, occurrences, alone, taken, before => by
      have ran := Shape.foldlM_takeField_repeated item taken before
      have start : List.append before (Shape.repeated item).blank = before := List.append_nil before
      rw [start] at ran
      exact ⟨_, ran, .appended occurrences before alone⟩
  | .boxed item, occurrences, alone, taken, before => by
      obtain ⟨after, ran, merged⟩ :=
        exists_merged_shape below item occurrences alone taken before
      exact ⟨after, ran, .boxed merged⟩
  | .object schema, _, _, taken, before => exists_merged_object below taken before
  | .nest, occurrences, _, taken, before => by
      obtain ⟨alone, inner, rfl⟩ :=
        map_eq_ok.mp ((foldlM_takeField_nest occurrences _).symm.trans taken)
      obtain ⟨after, ran, merged⟩ := exists_merged_object below inner (Nest.toRecord before)
      refine ⟨Nest.ofRecord after, ?_, .nest merged⟩
      exact (foldlM_takeField_nest occurrences before).trans (map_eq_ok.mpr ⟨after, ran, rfl⟩)
  | .u32, _, _, taken, before | .u64, _, _, taken, before | .i32, _, _, taken, before
  | .i64, _, _, taken, before | .boolean, _, _, taken, before | .text, _, _, taken, before
  | .blob, _, _, taken, before | .fixed _, _, _, taken, before
  | .enumeration _, _, _, taken, before | .optional _, _, _, taken, before =>
      exists_merged_replaced taken before trivial

/-- Fields that can be taken into a blank object can be taken into every object, and are merged
with it. -/
theorem exists_merged_fields (below : ∀ lower, room = lower + 1 → Merges lower) : Merges room
  | .nil, fields, _, _, _ => ⟨(), trivial, .nil room fields⟩
  | .field id _ _ shape others, fields, (alone, aloneBehind), ⟨own, made⟩, (before, behind) => by
      obtain ⟨after, ran, first⟩ := exists_merged_shape below shape _ alone own before
      obtain ⟨afterBehind, madeBehind, rest⟩ :=
        exists_merged_fields below others _ aloneBehind made behind
      exact ⟨(after, afterBehind), ⟨ran, madeBehind⟩, .field first rest⟩

end Level

/-- At every depth. -/
theorem merges (room : Nat) : Merges room := by
  induction room with
  | zero => exact exists_merged_fields fun lower same => by cases same
  | succ room hypothesis =>
      refine exists_merged_fields fun lower same => ?_
      cases same
      exact hypothesis

/-! ## Whole objects -/

namespace Schema

/-- **A body behind another one is merged into it.**  When two bodies can be read, so can the one
behind the other.  What is read is what the second body makes of the object that was read of the
first: the object of the first body, merged with the fields of the second one, which alone make
the object of the second.  It is so for every schema, those of the catalogue among them. -/
theorem decode_append {schema : Schema} {first second : Bytes} {before alone : schema.Record}
    (readFirst : schema.decode first = .ok before)
    (readSecond : schema.decode second = .ok alone) :
    ∃ (fields : List WireField) (after : schema.Record), second = WireField.join fields ∧
      schema.decode (first ++ second) = .ok after ∧
      schema.decodeInto before second = .ok after ∧
      schema.Merged (maximumDepth - 1) fields before alone after := by
  obtain ⟨front, rfl, madeFirst, covered⟩ := decodeInto_eq_ok_iff.mp readFirst
  obtain ⟨fields, rfl, madeSecond, coveredSecond⟩ := decodeInto_eq_ok_iff.mp readSecond
  obtain ⟨after, made, merged⟩ := merges (maximumDepth - 1) schema fields alone madeSecond before
  refine ⟨fields, after, rfl, ?_, ?_, merged⟩
  · refine decodeInto_eq_ok_iff.mpr ⟨front ++ fields, (WireField.join_append _ _).symm, ?_, ?_⟩
    · exact (schema.made_append front fields schema.blank after).mpr ⟨before, madeFirst, made⟩
    · exact covered.append fields
  · exact decodeInto_eq_ok_iff.mpr ⟨fields, rfl, made, coveredSecond⟩

/-- An object with a number, a list, a text that may be missing, and an object inside. -/
def noteSchema : Schema :=
  .optional 1 "number" .u32 <|
  .optional 2 "list" (.repeated .u32) <|
  .optional 3 "text" (.optional .text) <|
  .required 4 "node" (.object <| .optional 1 "level" .u32 <| .optional 2 "tag" .text .nil) .nil

set_option synthInstance.maxSize 1000 in
instance : DecidableEq noteSchema.Record :=
  inferInstanceAs
    (DecidableEq (UInt32 × List UInt32 × Option String × (UInt32 × String × Unit) × Unit))

/-- The number stays, the list grows, the text is replaced, and the node gets its tag. -/
theorem decode_append_of_notes :
    noteSchema.decode [8, 1, 16, 5, 26, 1, 97, 34, 2, 8, 7] =
        .ok ((1 : UInt32), [(5 : UInt32)], some "a", ((7 : UInt32), "", ()), ()) ∧
      noteSchema.decode [16, 6, 26, 1, 98, 26, 1, 99, 34, 3, 18, 1, 100] =
        .ok ((0 : UInt32), [(6 : UInt32)], some "c", ((0 : UInt32), "d", ()), ()) ∧
      ∃ fields, [16, 6, 26, 1, 98, 26, 1, 99, 34, 3, 18, 1, 100] = WireField.join fields ∧
        noteSchema.decode ([8, 1, 16, 5, 26, 1, 97, 34, 2, 8, 7] ++
            [16, 6, 26, 1, 98, 26, 1, 99, 34, 3, 18, 1, 100]) =
          .ok ((1 : UInt32), [(5 : UInt32), (6 : UInt32)], some "c", ((7 : UInt32), "d", ()), ()) ∧
        noteSchema.Merged (maximumDepth - 1) fields
          ((1 : UInt32), [(5 : UInt32)], some "a", ((7 : UInt32), "", ()), ())
          ((0 : UInt32), [(6 : UInt32)], some "c", ((0 : UInt32), "d", ()), ())
          ((1 : UInt32), [(5 : UInt32), (6 : UInt32)], some "c", ((7 : UInt32), "d", ()), ()) := by
  have readFirst : noteSchema.decode [8, 1, 16, 5, 26, 1, 97, 34, 2, 8, 7] =
      .ok ((1 : UInt32), [(5 : UInt32)], some "a", ((7 : UInt32), "", ()), ()) := by
    decide +kernel
  have readSecond : noteSchema.decode [16, 6, 26, 1, 98, 26, 1, 99, 34, 3, 18, 1, 100] =
      .ok ((0 : UInt32), [(6 : UInt32)], some "c", ((0 : UInt32), "d", ()), ()) := by
    decide +kernel
  have readBoth : noteSchema.decode ([8, 1, 16, 5, 26, 1, 97, 34, 2, 8, 7] ++
      [16, 6, 26, 1, 98, 26, 1, 99, 34, 3, 18, 1, 100]) =
        .ok ((1 : UInt32), [(5 : UInt32), (6 : UInt32)], some "c", ((7 : UInt32), "d", ()),
          ()) := by
    decide +kernel
  obtain ⟨fields, after, joined, read, _, merged⟩ := decode_append readFirst readSecond
  rw [readBoth] at read
  cases read
  exact ⟨readFirst, readSecond, fields, joined, readBoth, merged⟩

end Schema
end SecurityKey
