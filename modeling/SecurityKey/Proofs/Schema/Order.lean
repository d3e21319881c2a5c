import SecurityKey.Proofs.Schema.Places

/-!
# The order of fields

It does not matter in which order the fields of a body come, as long as fields with the same
number keep theirs (`WireField.Reordered`).  Such an order is reached by exchanging neighbours
with different numbers, one pair after the other (`WireField.exchanged_of_reordered`).

Two neighbours with different numbers go to different places in the object, or are passed over,
so each is read into the same storage whichever comes first, and the draft behind both is the
same (`takeField_exchange`).  This holds for every shape: what is merged in place or appended
comes from fields with one number, and these are never exchanged.  Only which of two broken
fields is reported first depends on the order.

The main statement is `Schema.decode_reordered`.
-/

set_option autoImplicit false

namespace SecurityKey

variable {nested : Option NestedDecoder}

namespace WireField

/-! ## Orders of fields -/

/-- Two orders of the same fields in which the fields with one number come in the same order. -/
def Reordered (first second : List WireField) : Prop :=
  first.Perm second ∧
    ∀ id : UInt32, first.filter (fun field => field.id = id) =
      second.filter fun field => field.id = id

/-- Two orders of the same fields of which one is reached from the other by exchanging
neighbours with different numbers. -/
inductive Exchanged : List WireField → List WireField → Prop where
  | refl (fields : List WireField) : Exchanged fields fields
  | cons (field : WireField) {first second : List WireField} (others : Exchanged first second) :
      Exchanged (field :: first) (field :: second)
  | swap (field another : WireField) (others : List WireField) (apart : field.id ≠ another.id) :
      Exchanged (field :: another :: others) (another :: field :: others)
  | trans {first between second : List WireField} (earlier : Exchanged first between)
      (later : Exchanged between second) : Exchanged first second

/-- A field comes to the front past fields with other numbers. -/
theorem exchanged_front (field : WireField) (front others : List WireField)
    (apart : ∀ another ∈ front, another.id ≠ field.id) :
    Exchanged (field :: (front ++ others)) (front ++ field :: others) := by
  induction front with
  | nil => exact .refl _
  | cons another front hypothesis =>
      rw [List.forall_mem_cons] at apart
      exact .trans (.swap field another _ apart.1.symm) (.cons another (hypothesis apart.2))

theorem exchanged_of_reordered {first second : List WireField}
    (reordered : Reordered first second) : Exchanged first second := by
  induction first generalizing second with
  | nil =>
      obtain ⟨same, _⟩ := reordered
      rw [List.nil_perm.mp same]
      exact .refl []
  | cons field rest hypothesis =>
      obtain ⟨same, order⟩ := reordered
      -- The first field with this number in the other order is the same field.
      have here := order field.id
      rw [List.filter_cons_of_pos (by simp), eq_comm, List.filter_eq_cons_iff] at here
      obtain ⟨front, behind, rfl, apart, _, filtered⟩ := here
      have others : Reordered rest (front ++ behind) := by
        refine ⟨(same.trans List.perm_middle).cons_inv, fun id => ?_⟩
        by_cases number : field.id = id
        · subst number
          have none : front.filter (fun another => another.id = field.id) = [] := by
            simpa using apart
          rw [List.filter_append, none, List.nil_append, filtered]
        · have kept := order id
          simpa [List.filter_append, number] using kept
      have apart : ∀ another ∈ front, another.id ≠ field.id := by simpa using apart
      exact .trans (.cons field (hypothesis others)) (exchanged_front field front behind apart)

end WireField

namespace Schema

/-! ## Neighbours -/

variable {schema : Schema}

/-- Two fields with different numbers can be taken the other way round. -/
theorem takeField_exchange {field another : WireField} (apart : field.id ≠ another.id)
    {draft between result : schema.Draft}
    (first : schema.takeField nested draft field = .ok between)
    (second : schema.takeField nested between another = .ok result) :
    ∃ other, schema.takeField nested draft another = .ok other ∧
      schema.takeField nested other field = .ok result := by
  by_cases listed : field.id ∈ schema.ids
  · obtain ⟨shape, ⟨place⟩⟩ := exists_place schema listed
    obtain ⟨value, read, rfl⟩ := (takeField_eq_ok_iff place).mp first
    by_cases listedToo : another.id ∈ schema.ids
    · obtain ⟨shapeToo, ⟨others⟩⟩ := exists_place schema listedToo
      obtain ⟨valueToo, readToo, rfl⟩ := (takeField_eq_ok_iff others).mp second
      rw [Place.get_set_of_ne others place _ _ apart.symm] at readToo
      refine ⟨_, (takeField_eq_ok_iff others).mpr ⟨valueToo, readToo, rfl⟩, ?_⟩
      refine (takeField_eq_ok_iff place).mpr ⟨value, ?_, ?_⟩
      · rw [Place.get_set_of_ne place others _ _ apart]
        exact read
      · exact Place.set_comm place others _ _ draft apart
    · rw [takeField_unlisted _ listedToo] at second
      cases second
      exact ⟨draft, takeField_unlisted draft listedToo, first⟩
  · rw [takeField_unlisted draft listed] at first
    cases first
    exact ⟨result, second, takeField_unlisted result listed⟩

theorem foldlM_takeField_exchanged {first second : List WireField}
    (exchanged : WireField.Exchanged first second) (draft result : schema.Draft) :
    first.foldlM (schema.takeField nested) draft = .ok result ↔
      second.foldlM (schema.takeField nested) draft = .ok result := by
  induction exchanged generalizing draft with
  | refl fields => exact Iff.rfl
  | cons field _ hypothesis =>
      rw [List.foldlM_cons, List.foldlM_cons, bind_eq_ok, bind_eq_ok]
      exact exists_congr fun between => and_congr_right fun _ => hypothesis between
  | swap field another others apart =>
      simp only [List.foldlM_cons, bind_eq_ok]
      constructor
      · rintro ⟨between, first, behind, second, rest⟩
        obtain ⟨other, earlier, later⟩ := takeField_exchange apart first second
        exact ⟨other, earlier, behind, later, rest⟩
      · rintro ⟨between, first, behind, second, rest⟩
        obtain ⟨other, earlier, later⟩ := takeField_exchange apart.symm first second
        exact ⟨other, earlier, behind, later, rest⟩
  | trans _ _ earlier later => exact (earlier draft).trans (later draft)

/-! ## Whole objects -/

theorem decodeBody_join (schema : Schema) (storage : schema.Record) (fields : List WireField) :
    schema.decodeBody nested storage (WireField.join fields) =
      fields.foldlM (schema.takeField nested) (schema.draft storage) >>= schema.finish := by
  rw [decodeBody, ← List.append_nil (WireField.join fields), decodeFields_join]
  cases fields.foldlM (schema.takeField nested) (schema.draft storage) with
  | error error => rfl
  | ok draft =>
      change (schema.decodeFields nested draft [] >>= schema.finish) = _
      rw [decodeFields_nil]

theorem decodeBody_reordered {first second : List WireField}
    (reordered : WireField.Reordered first second) (storage record : schema.Record) :
    schema.decodeBody nested storage (WireField.join first) = .ok record ↔
      schema.decodeBody nested storage (WireField.join second) = .ok record := by
  rw [decodeBody_join, decodeBody_join, bind_eq_ok, bind_eq_ok]
  have exchanged := WireField.exchanged_of_reordered reordered
  exact exists_congr fun draft =>
    and_congr_left fun _ => foldlM_takeField_exchanged exchanged (schema.draft storage) draft

theorem decodeAt_reordered (room : Nat) {first second : List WireField}
    (reordered : WireField.Reordered first second) (storage record : schema.Record) :
    decodeAt room schema storage (WireField.join first) = .ok record ↔
      decodeAt room schema storage (WireField.join second) = .ok record := by
  obtain ⟨nested, same⟩ := exists_decodeBody room
  rw [same]
  exact decodeBody_reordered reordered storage record

/-- **The order of fields does not matter.**  Two bodies that hold the same fields, with the same
order of the fields under every number, are both read, and then as the same object, or neither of
them is.  It is so for a root object and for an object at any depth, read into whatever is
there. -/
theorem decode_reordered (schema : Schema) {first second : List WireField}
    (reordered : WireField.Reordered first second) :
    (∀ record : schema.Record, schema.decode (WireField.join first) = .ok record ↔
      schema.decode (WireField.join second) = .ok record) ∧
    ∀ (room : Nat) (storage record : schema.Record),
      decodeAt room schema storage (WireField.join first) = .ok record ↔
        decodeAt room schema storage (WireField.join second) = .ok record :=
  ⟨decodeAt_reordered (maximumDepth - 1) reordered schema.blank,
    fun room => decodeAt_reordered room reordered⟩

/-- An object with a list, and with an object inside that is read in place. -/
def mergedSchema : Schema :=
  .optional 3 "list" (.repeated .u32) <|
  .required 2 "node" (.object <| .optional 1 "level" .u32 <| .optional 2 "tag" .text .nil) .nil

instance : DecidableEq mergedSchema.Record :=
  inferInstanceAs (DecidableEq (List UInt32 × (UInt32 × String × Unit) × Unit))

/-- An element of the list. -/
def elementField (value : UInt32) : WireField where
  id := 3
  wire := .varint
  payload := Varint.encode value.toNat
  small := by decide
  complete := ⟨value.toNat, by have bound := value.toNat_lt; omega, rfl⟩

/-- A part of the object inside. -/
def partField (body : Bytes) (fits : body.length < 2 ^ 64) : WireField :=
  .delimited 2 body (by decide) fits

/-- Elements of the list and parts of the object inside in turn, and all parts of the object
before the elements. -/
theorem decode_reordered_of_parts :
    mergedSchema.decode [24, 5, 18, 2, 8, 7, 24, 6, 18, 3, 18, 1, 97] =
        .ok ([(5 : UInt32), (6 : UInt32)], ((7 : UInt32), "a", ()), ()) ∧
      mergedSchema.decode [18, 2, 8, 7, 18, 3, 18, 1, 97, 24, 5, 24, 6] =
        .ok ([(5 : UInt32), (6 : UInt32)], ((7 : UInt32), "a", ()), ()) := by
  let level := partField [8, 7] (by decide)
  let tag := partField [18, 1, 97] (by decide)
  have reordered : WireField.Reordered [elementField 5, level, elementField 6, tag]
      [level, tag, elementField 5, elementField 6] := by
    constructor
    · have behind : ([elementField 5, elementField 6] ++ [tag]).Perm
          ([tag] ++ [elementField 5, elementField 6]) := List.perm_append_comm
      exact (List.Perm.swap level (elementField 5) _).trans (behind.cons level)
    · intro id
      have numbers : (elementField 5).id = 3 ∧ (elementField 6).id = 3 ∧ level.id = 2 ∧
        tag.id = 2 := ⟨rfl, rfl, rfl, rfl⟩
      by_cases first : 3 = id
      · subst first
        simp [numbers]
      · simp [List.filter_cons, numbers, first]
  have inTurn : WireField.join [elementField 5, level, elementField 6, tag] =
      [24, 5, 18, 2, 8, 7, 24, 6, 18, 3, 18, 1, 97] := by decide +kernel
  have apart : WireField.join [level, tag, elementField 5, elementField 6] =
      [18, 2, 8, 7, 18, 3, 18, 1, 97, 24, 5, 24, 6] := by decide +kernel
  have read : mergedSchema.decode [24, 5, 18, 2, 8, 7, 24, 6, 18, 3, 18, 1, 97] =
      .ok ([(5 : UInt32), (6 : UInt32)], ((7 : UInt32), "a", ()), ()) := by decide +kernel
  obtain ⟨same, _⟩ := decode_reordered mergedSchema reordered
  rw [inTurn, apart] at same
  exact ⟨read, (same _).mp read⟩

end Schema
end SecurityKey
