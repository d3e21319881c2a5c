import Mathlib.Data.List.Forall2
import SecurityKey.Proofs.Schema.RoundTrip

/-!
# The leaves that are read back

Containers leave no bytes, so a value that is read need not be the one that was written: the
elements of a repetition of repetitions come back one by one.  What could be kept are its
leaves.  A repetition keeps them, whatever is inside it, because every occurrence makes an
element of its own.  An option does not: every occurrence makes a new value of it, and of the
leaves of a repetition inside an option only the last one is still there at the end
(`Shape.survivors`).

The main statement is `Schema.sameLeaves_iff_of_decode`.  Of an object that was written and
read, `Schema.Recalled` says which leaves are there, and they are those that were written
(`Schema.SameLeaves`) if and only if no option had more than one and no member of an
enumeration stands for the ordinal of another (`Schema.Kept`).
-/

set_option autoImplicit false

namespace SecurityKey

/-! ## Which leaves are kept -/

namespace Shape

/-- Whether a value keeps every occurrence that is read into it. -/
def gathers : Shape → Bool
  | .repeated _ => true
  | .boxed item => item.gathers
  | _ => false

/-- The leaves of a value that are still there when all of them have been read: all of a
repetition, and the last one of everything else. -/
def survivors (shape : Shape) (value : shape.Value) : List shape.base.Value :=
  if shape.gathers then shape.leaves value else (shape.leaves value).getLast?.toList

end Shape

mutual
/-- What is read of a leaf that was written: of an object its fields, of an enumeration the
member that its ordinal stands for, and of everything else the leaf itself. -/
def Shape.Recalled : (shape : Shape) → (written read : shape.base.Value) → Prop
  | .optional item, written, read | .repeated item, written, read
  | .boxed item, written, read => item.Recalled written read
  | .enumeration table, written, read => read = table.ofOrdinal written.ordinal
  | .object schema, written, read => schema.Recalled written read
  | .u32, written, read | .u64, written, read | .i32, written, read | .i64, written, read
  | .boolean, written, read | .text, written, read | .blob, written, read
  | .fixed _, written, read | .nest, written, read => read = written

/-- The same for the surviving leaves of every field of an object. -/
def Schema.Recalled : (schema : Schema) → (written read : schema.Record) → Prop
  | .nil, _, _ => True
  | .field _ _ _ shape others, (value, record), (readValue, readRecord) =>
      List.Forall₂ shape.Recalled (shape.survivors value) (shape.leaves readValue) ∧
        others.Recalled record readRecord
end

mutual
/-- Whether two leaves are the same, where objects are the same when their leaves are. -/
def Shape.SameLeaf : (shape : Shape) → (written read : shape.base.Value) → Prop
  | .optional item, written, read | .repeated item, written, read
  | .boxed item, written, read => item.SameLeaf written read
  | .object schema, written, read => schema.SameLeaves written read
  | .u32, written, read | .u64, written, read | .i32, written, read | .i64, written, read
  | .boolean, written, read | .text, written, read | .blob, written, read
  | .fixed _, written, read | .enumeration _, written, read | .nest, written, read =>
      read = written

/-- Whether every field of two objects has the same leaves in the same order. -/
def Schema.SameLeaves : (schema : Schema) → (written read : schema.Record) → Prop
  | .nil, _, _ => True
  | .field _ _ _ shape others, (value, record), (readValue, readRecord) =>
      List.Forall₂ shape.SameLeaf (shape.leaves value) (shape.leaves readValue) ∧
        others.SameLeaves record readRecord
end

mutual
/-- Whether a leaf comes back as it was written. -/
def Shape.Kept : (shape : Shape) → (leaf : shape.base.Value) → Prop
  | .optional item, leaf | .repeated item, leaf | .boxed item, leaf => item.Kept leaf
  | .enumeration table, leaf => table.ofOrdinal leaf.ordinal = leaf
  | .object schema, leaf => schema.Kept leaf
  | .u32, _ | .u64, _ | .i32, _ | .i64, _ | .boolean, _ | .text, _ | .blob, _ | .fixed _, _
  | .nest, _ => True

/-- Whether no field of an object loses a leaf, at any depth: what is not a repetition has one
leaf at most. -/
def Schema.Kept : (schema : Schema) → (record : schema.Record) → Prop
  | .nil, _ => True
  | .field _ _ _ shape others, (value, record) =>
      (shape.gathers = true ∨ (shape.leaves value).length ≤ 1) ∧
        (∀ leaf ∈ shape.leaves value, shape.Kept leaf) ∧ others.Kept record
end

/-! ## Leaves that are the same -/

/-- A relation in place of another one that differs by a condition on the first item. -/
theorem forall₂_iff_forall {α β : Type} {related other : α → β → Prop} {condition : α → Prop}
    (each : ∀ first second, related first second → (other first second ↔ condition first))
    {items : List α} {images : List β} (all : List.Forall₂ related items images) :
    List.Forall₂ other items images ↔ ∀ item ∈ items, condition item := by
  induction all with
  | nil => exact iff_of_true .nil fun _ member => by cases member
  | cons first _ hypothesis =>
      rw [List.forall₂_cons, List.forall_mem_cons]
      exact and_congr (each _ _ first) hypothesis

namespace Shape

/-- A repetition keeps all leaves, and so does everything that has one at most. -/
theorem survivors_eq {shape : Shape} {value : shape.Value}
    (few : shape.gathers = true ∨ (shape.leaves value).length ≤ 1) :
    shape.survivors value = shape.leaves value := by
  rw [survivors]
  by_cases gathers : shape.gathers = true
  · rw [if_pos gathers]
  · rw [if_neg gathers]
    have few := few.resolve_left gathers
    match found : shape.leaves value with
    | [] => rfl
    | [leaf] => rfl
    | _ :: _ :: _ =>
        rw [found] at few
        simp at few

/-- Everything else keeps fewer. -/
theorem length_survivors_lt {shape : Shape} {value : shape.Value}
    (many : ¬(shape.gathers = true ∨ (shape.leaves value).length ≤ 1)) :
    (shape.survivors value).length < (shape.leaves value).length := by
  obtain ⟨replaces, several⟩ := not_or.mp many
  rw [survivors, if_neg replaces]
  have last : (shape.leaves value).getLast?.toList.length ≤ 1 := Option.length_toList_le
  omega

end Shape

mutual
theorem Shape.sameLeaf_iff : (shape : Shape) → (written read : shape.base.Value) →
    shape.Recalled written read → (shape.SameLeaf written read ↔ shape.Kept written)
  | .optional item, written, read, recalled | .repeated item, written, read, recalled
  | .boxed item, written, read, recalled => Shape.sameLeaf_iff item written read recalled
  | .enumeration table, written, read, recalled => by
      obtain rfl : read = table.ofOrdinal written.ordinal := recalled
      exact Iff.rfl
  | .object schema, written, read, recalled => Schema.sameLeaves_iff schema written read recalled
  | .u32, _, _, recalled | .u64, _, _, recalled | .i32, _, _, recalled | .i64, _, _, recalled
  | .boolean, _, _, recalled | .text, _, _, recalled | .blob, _, _, recalled
  | .fixed _, _, _, recalled | .nest, _, _, recalled => iff_of_true recalled trivial

/-- The leaves that are read are those that were written when all of them survive and each of
them comes back as it was. -/
theorem Schema.sameLeaves_iff : (schema : Schema) → (written read : schema.Record) →
    schema.Recalled written read → (schema.SameLeaves written read ↔ schema.Kept written)
  | .nil, _, _, _ => Iff.rfl
  | .field _ _ _ shape others, (value, record), (readValue, readRecord), ⟨first, recalled⟩ => by
      have behind := Schema.sameLeaves_iff others record readRecord recalled
      rw [Schema.SameLeaves, Schema.Kept, behind, ← and_assoc]
      refine and_congr_left' ?_
      by_cases few : shape.gathers = true ∨ (shape.leaves value).length ≤ 1
      · rw [Shape.survivors_eq few] at first
        rw [and_iff_right few]
        exact forall₂_iff_forall (Shape.sameLeaf_iff shape) first
      · refine iff_of_false (fun same => ?_) fun kept => few kept.1
        have fewer := Shape.length_survivors_lt few
        rw [first.length_eq, ← same.length_eq] at fewer
        exact Nat.lt_irrefl _ fewer
end

/-! ## One leaf -/

namespace Shape

theorem under_blank : (shape : Shape) → shape.under shape.blank = shape.base.blank
  | .optional item | .repeated item | .boxed item => under_blank item
  | .u32 | .u64 | .i32 | .i64 | .boolean | .text | .blob | .fixed _ | .enumeration _ | .object _
  | .nest => rfl

/-- What is put into a blank value is its only leaf. -/
theorem leaves_put_blank : (shape : Shape) → (leaf : shape.base.Value) →
    shape.leaves (shape.put shape.blank leaf) = [leaf]
  | .optional item, leaf | .boxed item, leaf => leaves_put_blank item leaf
  | .repeated item, leaf => by
      change item.leaves (item.put item.blank leaf) ++ [] = [leaf]
      rw [leaves_put_blank item leaf]
      rfl
  | .u32, _ | .u64, _ | .i32, _ | .i64, _ | .boolean, _ | .text, _ | .blob, _ | .fixed _, _
  | .enumeration _, _ | .object _, _ | .nest, _ => rfl

end Shape

/-- Whether objects that are taken into a blank one have the leaves that survive of them. -/
def Recalls (absorber : Option Absorber) : Prop :=
  ∀ (schema : Schema) (written read : schema.Record),
    absorbNested absorber schema schema.blank written = .ok read → schema.Recalled written read

/-- A node comes back as it was. -/
theorem Nest.ofRecord_of_recalled {nest : Nest} {record : schema.Record}
    (recalled : schema.Recalled nest.toRecord record) : ofRecord record = nest := by
  obtain ⟨level, child, kids, tag⟩ := nest
  obtain ⟨readLevel, readChild, readKids, readTag, ⟨⟩⟩ := record
  obtain ⟨levels, children, kidLists, tags, _⟩ := recalled
  obtain rfl : readLevel = level := (List.forall₂_cons.mp levels).1
  obtain rfl : readTag = tag := (List.forall₂_cons.mp tags).1
  obtain rfl : readChild = child := by
    cases child with
    | none =>
        cases readChild with
        | none => rfl
        | some other => cases children
    | some child =>
        cases readChild with
        | none => cases children
        | some other => exact congrArg some (List.forall₂_cons.mp children).1
  obtain rfl : readKids = kids := by
    have leaves (nests : List Nest) : Shape.leaves (.repeated .nest) nests = nests :=
      List.flatMap_singleton' nests
    have same : List.Forall₂ Eq kids readKids := by
      rw [← leaves kids, ← leaves readKids]
      exact List.Forall₂.imp (fun _ _ equal => Eq.symm equal) kidLists
    rw [List.forall₂_eq_eq_eq] at same
    exact same.symm
  rfl

section Level

variable {absorber : Option Absorber} (recalls : Recalls absorber)
include recalls

/-- A leaf that is taken into blank storage. -/
theorem recalled_absorb : (shape : Shape) → (leaf read : shape.base.Value) →
    shape.base.absorb absorber shape.base.blank leaf = .ok read → shape.Recalled leaf read
  | .optional item, leaf, read, taken | .repeated item, leaf, read, taken
  | .boxed item, leaf, read, taken => recalled_absorb item leaf read taken
  | .object schema, leaf, read, taken => recalls schema leaf read taken
  | .nest, (leaf : Nest), _, taken => by
      obtain ⟨record, inner, rfl⟩ := map_eq_ok.mp taken
      exact Nest.ofRecord_of_recalled (recalls Nest.schema leaf.toRecord record inner)
  | .enumeration _, _, _, taken => by
      cases taken
      rfl
  | .u32, _, _, taken | .u64, _, _, taken | .i32, _, _, taken | .i64, _, _, taken
  | .boolean, _, _, taken | .text, _, _, taken | .blob, _, _, taken | .fixed _, _, _, taken => by
      cases taken
      rfl

/-- A blank value into which a leaf is taken has this one leaf. -/
theorem recalled_store {shape : Shape} {leaf : shape.base.Value} {value : shape.Value}
    (stored : shape.store absorber shape.blank leaf = .ok value) :
    List.Forall₂ shape.Recalled [leaf] (shape.leaves value) := by
  rw [Shape.store, Shape.under_blank] at stored
  obtain ⟨read, taken, rfl⟩ := map_eq_ok.mp stored
  rw [Shape.leaves_put_blank]
  exact .cons (recalled_absorb recalls shape leaf read taken) .nil

/-! ## All leaves of a value -/

/-- A repetition gathers the leaves behind the elements that are there. -/
theorem recalled_repeated (item : Shape) (leaves : List item.base.Value)
    (storage stored : List item.Value)
    (taken : leaves.foldlM (Shape.store absorber (.repeated item)) storage = .ok stored) :
    ∃ elements : List item.Value, stored = storage ++ elements ∧
      List.Forall₂ item.Recalled leaves (elements.flatMap item.leaves) := by
  induction leaves generalizing storage with
  | nil =>
      cases taken
      exact ⟨[], (List.append_nil _).symm, .nil⟩
  | cons leaf rest hypothesis =>
      obtain ⟨grown, first, taken⟩ := bind_eq_ok.mp taken
      rw [Shape.store_repeated] at first
      obtain ⟨element, made, rfl⟩ := map_eq_ok.mp first
      obtain ⟨elements, rfl, others⟩ := hypothesis (storage ++ [element]) taken
      refine ⟨element :: elements, List.append_assoc _ _ _, ?_⟩
      rw [List.flatMap_cons]
      exact List.rel_append (recalled_store recalls made) others

/-- An option keeps the last leaf, whatever was there before. -/
theorem recalled_optional (item : Shape) (leaves : List item.base.Value)
    (storage stored : Option item.Value) (some : leaves ≠ [])
    (taken : leaves.foldlM (Shape.store absorber (.optional item)) storage = .ok stored) :
    List.Forall₂ item.Recalled leaves.getLast?.toList (Shape.leaves (.optional item) stored) := by
  induction leaves generalizing storage with
  | nil => exact absurd rfl some
  | cons leaf rest hypothesis =>
      obtain ⟨replaced, first, taken⟩ := bind_eq_ok.mp taken
      cases rest with
      | nil =>
          cases taken
          rw [Shape.store_optional] at first
          obtain ⟨value, made, rfl⟩ := map_eq_ok.mp first
          exact recalled_store recalls made
      | cons next others =>
          rw [List.getLast?_cons_cons]
          exact hypothesis replaced (List.cons_ne_nil next others) taken

/-- Of all leaves of a value, taken into a blank one, those that survive are there. -/
theorem recalled_foldlM : (shape : Shape) → (value stored : shape.Value) →
    (shape.leaves value).foldlM (shape.store absorber) shape.blank = .ok stored →
      List.Forall₂ shape.Recalled (shape.survivors value) (shape.leaves stored)
  | .boxed item, value, stored, taken => recalled_foldlM item value stored taken
  | .repeated item, value, stored, taken => by
      obtain ⟨elements, rfl, recalled⟩ := recalled_repeated recalls item _ [] stored taken
      exact recalled
  | .optional item, value, stored, taken => by
      change List.Forall₂ item.Recalled (Shape.leaves (.optional item) value).getLast?.toList _
      by_cases nothing : Shape.leaves (.optional item) value = []
      · rw [nothing] at taken ⊢
        cases taken
        exact .nil
      · exact recalled_optional recalls item _ none stored nothing taken
  | .u32, _, _, taken | .u64, _, _, taken | .i32, _, _, taken | .i64, _, _, taken
  | .boolean, _, _, taken | .text, _, _, taken | .blob, _, _, taken | .fixed _, _, _, taken
  | .enumeration _, _, _, taken | .object _, _, _, taken | .nest, _, _, taken => by
      obtain ⟨read, made, taken⟩ := bind_eq_ok.mp taken
      cases taken
      exact recalled_store recalls made

end Level

/-! ## Whole objects -/

/-- A value that is not written is blank, and so is what is read of it. -/
theorem recalled_of_absent : (shape : Shape) → (value : shape.Value) →
    shape.isPresent value = false →
      List.Forall₂ shape.Recalled (shape.survivors value) (shape.leaves shape.blank)
  | .boxed item, value, absent => recalled_of_absent item value absent
  | .text, value, absent => .cons (eq_blank_of_absent .text value absent).symm .nil
  | .blob, value, absent => .cons (eq_blank_of_absent .blob value absent).symm .nil
  | .optional _, none, _ => .nil
  | .optional _, some _, absent => by cases absent
  | .repeated _, [], _ => .nil
  | .repeated _, _ :: _, absent => by cases absent
  | .u32, _, absent | .u64, _, absent | .i32, _, absent | .i64, _, absent
  | .boolean, _, absent | .fixed _, _, absent | .enumeration _, _, absent
  | .object _, _, absent | .nest, _, absent => by cases absent

namespace Schema

theorem recalled_finish {absorber : Option Absorber} (recalls : Recalls absorber) :
    (schema : Schema) → (written read : schema.Record) → (draft : schema.Draft) →
      schema.absorbFields absorber (schema.draft schema.blank) written = .ok draft →
        schema.finish draft = .ok read → schema.Recalled written read
  | .nil, _, _, _, _, _ => trivial
  | .field _ name required shape others, (value, written), (readValue, read), _, taken,
      finished => by
      obtain ⟨stored, first, taken⟩ := bind_eq_ok.mp taken
      obtain ⟨draft, behind, taken⟩ := bind_eq_ok.mp taken
      cases taken
      rw [finish] at finished
      split at finished
      · cases finished
      · obtain ⟨record, finishedOthers, finished⟩ := bind_eq_ok.mp finished
        cases finished
        refine ⟨?_, recalled_finish recalls others written read draft behind finishedOthers⟩
        rw [Shape.written] at first
        split at first
        · exact recalled_foldlM recalls shape value readValue first
        · rename_i unwritten
          cases first
          exact recalled_of_absent shape value (Shape.absent_of_unwritten unwritten)

theorem recalled_absorbBody {absorber : Option Absorber} (recalls : Recalls absorber)
    {schema : Schema} {written read : schema.Record}
    (taken : schema.absorbBody absorber schema.blank written = .ok read) :
    schema.Recalled written read := by
  obtain ⟨draft, taken, finished⟩ := bind_eq_ok.mp taken
  exact recalled_finish recalls schema written read draft taken finished

/-- At every depth. -/
theorem recalls_absorbAt (room : Nat) : Recalls (some (absorbAt room)) := by
  induction room with
  | zero =>
      have nothing : Recalls none := fun _ _ _ taken => by cases taken
      exact fun schema written read taken => recalled_absorbBody nothing taken
  | succ room hypothesis =>
      exact fun schema written read taken => recalled_absorbBody hypothesis taken

/-- When an object that was written can be read, the leaves that survive are there.  They are
all leaves that were written, in order, if and only if nothing but a repetition had more than
one and every member of an enumeration is what its ordinal stands for, at every depth. -/
theorem sameLeaves_iff_of_decode {schema : Schema} (numbered : schema.Numbered)
    {record result : schema.Record} {bytes : Bytes} (encoded : schema.encode record = .ok bytes)
    (short : bytes.length < 2 ^ 64) (decoded : schema.decode bytes = .ok result) :
    schema.Recalled record result ∧ (schema.SameLeaves record result ↔ schema.Kept record) := by
  have read := decodeAt_encodeAt (maximumDepth - 1) numbered schema.blank encoded short
  rw [decode, decodeInto, read] at decoded
  have recalled := recalls_absorbAt (maximumDepth - 1) schema record result decoded
  exact ⟨recalled, Schema.sameLeaves_iff schema record result recalled⟩

/-- An object with repetitions in repetitions, and options around them and in them. -/
def mixedSchema : Schema :=
  .optional 1 "rows" (.repeated (.repeated .u32)) <|
  .optional 2 "parts" (.repeated (.optional (.repeated .text))) <|
  .optional 3 "flag" (.optional (.optional .boolean)) <|
  .optional 4 "list" (.boxed (.optional (.repeated .u32))) .nil

/-- One of these objects, whose option around a repetition has one leaf. -/
def someMixed : mixedSchema.Record :=
  ([[(1 : UInt32), (2 : UInt32)], [], [(3 : UInt32)]], [some ["a"], some ["b", "c"]],
    some (some true), some [(7 : UInt32)], ())

/-- The same leaves in other groups, which is how that object comes back. -/
def someMixedAgain : mixedSchema.Record :=
  ([[(1 : UInt32)], [(2 : UInt32)], [(3 : UInt32)]], [some ["a"], some ["b"], some ["c"]],
    some (some true), some [(7 : UInt32)], ())

theorem sameLeaves_of_mixed :
    ∃ bytes, mixedSchema.encode someMixed = .ok bytes ∧
      mixedSchema.decode bytes = .ok someMixedAgain ∧
      mixedSchema.SameLeaves someMixed someMixedAgain := by
  have numbered : mixedSchema.Numbered := by
    simp [mixedSchema, Schema.Numbered, Shape.Numbered, Schema.ids]
  have kept : mixedSchema.Kept someMixed :=
    ⟨.inl rfl, fun _ _ => trivial, .inl rfl, fun _ _ => trivial, .inr (Nat.le_refl 1),
      fun _ _ => trivial, .inr (Nat.le_refl 1), fun _ _ => trivial, trivial⟩
  have size : (mixedSchema.encode someMixed).toOption.map List.length = some 19 := by
    decide +kernel
  cases encoded : mixedSchema.encode someMixed with
  | error error =>
      rw [encoded] at size
      cases size
  | ok bytes =>
      rw [encoded] at size
      have length : bytes.length = 19 := Option.some.inj size
      have short : bytes.length < 2 ^ 64 := by
        rw [length]
        decide
      have decoded : mixedSchema.decode bytes = .ok someMixedAgain :=
        decodeAt_encodeAt (maximumDepth - 1) numbered mixedSchema.blank encoded short
      obtain ⟨_, same⟩ := sameLeaves_iff_of_decode numbered encoded short decoded
      exact ⟨bytes, rfl, decoded, same.mpr kept⟩

/-- An object with an option around a repetition. -/
def listSchema : Schema := .optional 1 "list" (.optional (.repeated .u32)) .nil

/-- Of the elements of a repetition in an option only the last one is read. -/
theorem decode_forgets_elements :
    listSchema.Numbered ∧
      listSchema.encode (some [(1 : UInt32), (2 : UInt32), (3 : UInt32)], ()) =
        .ok [8, 1, 8, 2, 8, 3] ∧
      listSchema.decode [8, 1, 8, 2, 8, 3] = .ok (some [(3 : UInt32)], ()) ∧
      ¬listSchema.SameLeaves (some [(1 : UInt32), (2 : UInt32), (3 : UInt32)], ())
        (some [(3 : UInt32)], ()) := by
  have numbered : listSchema.Numbered := by
    simp [listSchema, Schema.Numbered, Shape.Numbered, Schema.ids]
  have encoded : listSchema.encode (some [(1 : UInt32), (2 : UInt32), (3 : UInt32)], ()) =
      .ok [8, 1, 8, 2, 8, 3] := by
    decide +kernel
  refine ⟨numbered, encoded, ?_, ?_⟩
  · exact decodeAt_encodeAt (maximumDepth - 1) numbered listSchema.blank encoded (by decide)
  · rintro ⟨same, _⟩
    cases same.length_eq

end Schema
end SecurityKey
