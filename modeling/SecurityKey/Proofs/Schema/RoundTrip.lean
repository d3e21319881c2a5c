import SecurityKey.Message.Catalogue
import SecurityKey.Proofs.Schema.Absorb

/-!
# Objects that come back as they were written

An object can be written, and reading what was written gives the object again, when nothing
in it gets lost on the way (`Schema.round_trip`).  Of its shapes this asks that no option is
around a repetition and no repetition around another (`Shape.Plain`), and of its values that
whatever has to be written is there (`Shape.Complete`).  At most `maximumDepth` objects may be
open at once (`Schema.depth`).

The proof is an induction on the objects that may still be open: what is one level deeper can
be written and comes back (`Returns`).  Because such an object is read by absorbing it, there are
no bytes in the part about reading (`absorbFields_blank`).
-/

set_option autoImplicit false

namespace SecurityKey

/-! ## Shapes and values from which nothing gets lost -/

mutual
/-- Whether a shape keeps what is read into it.  A `repeatable` shape may be read more than
once; an option, and an element of a repetition, is read from one occurrence.  Signed
integers have no form on the wire. -/
def Shape.Plain : Shape → (repeatable : Bool) → Prop
  | .i32, _ | .i64, _ => False
  | .enumeration table, _ => (table.members.map Prod.fst).Nodup
  | .optional item, _ => item.Plain false
  | .repeated item, repeatable => repeatable = true ∧ item.Plain false
  | .boxed item, repeatable => item.Plain repeatable
  | .object schema, _ => schema.Plain
  | _, _ => True

/-- Whether all fields of a schema keep what is read into them. -/
def Schema.Plain : Schema → Prop
  | .nil => True
  | .field _ _ _ shape others => shape.Plain true ∧ others.Plain
end

/-- Whether a value of an enumeration is what its ordinal stands for. -/
def Enumeration.Member.Proper {table : Enumeration} : table.Member → Prop
  | .listed _ => True
  | .unknown ordinal => ordinal ∉ table.members.map Prod.fst

mutual
/-- Whether a value has everything that is needed to write it: options are set, repetitions
have elements, and no ordinal that is declared is called unknown. -/
def Shape.Complete : (shape : Shape) → shape.Value → Prop
  | .enumeration _, member => member.Proper
  | .optional _, none => False
  | .optional item, some value => item.Complete value
  | .repeated item, (items : List item.Value) =>
      items ≠ [] ∧ ∀ value ∈ items, item.Complete value
  | .boxed item, value => item.Complete value
  | .object schema, record => schema.Complete record
  | _, _ => True

/-- Whether all fields of an object that are required or present are complete. -/
def Schema.Complete : (schema : Schema) → schema.Record → Prop
  | .nil, _ => True
  | .field _ _ required shape others, (value, record) =>
      ((required || shape.isPresent value) = true → shape.Complete value) ∧
        others.Complete record
end

/-! ## Depth -/

mutual
/-- The number of objects on the longest way into a node, itself included. -/
def Nest.depth : Nest → Nat
  | ⟨_, child, kids, _⟩ => 1 + max (Nest.childDepth child) (Nest.kidsDepth kids)

/-- The same for a child that may be missing. -/
def Nest.childDepth : Option Nest → Nat
  | none => 0
  | some child => child.depth

/-- The same for some kids. -/
def Nest.kidsDepth : List Nest → Nat
  | [] => 0
  | kid :: others => max kid.depth (Nest.kidsDepth others)
end

mutual
/-- The number of objects on the longest way into a value. -/
def Shape.depth : (shape : Shape) → shape.Value → Nat
  | .optional _, none => 0
  | .optional item, some value => item.depth value
  | .repeated item, items => (List.map item.depth items).foldr max 0
  | .boxed item, value => item.depth value
  | .object schema, record => schema.depth record
  | .nest, (nest : Nest) => nest.depth
  | _, _ => 0

/-- The number of objects on the longest way into an object, itself included. -/
def Schema.depth : (schema : Schema) → schema.Record → Nat
  | .nil, _ => 1
  | .field _ _ _ shape others, (value, record) =>
      max (1 + shape.depth value) (others.depth record)
end

theorem le_foldr_max {depths : List Nat} {depth : Nat} (member : depth ∈ depths) :
    depth ≤ depths.foldr max 0 := by
  induction member with
  | head others => exact Nat.le_max_left _ _
  | tail other _ hypothesis => exact Nat.le_trans hypothesis (Nat.le_max_right _ _)

theorem Schema.depth_pos : (schema : Schema) → (record : schema.Record) →
    1 ≤ schema.depth record
  | .nil, _ => Nat.le_refl 1
  | .field _ _ _ _ others, (_, record) =>
      Nat.le_trans (depth_pos others record) (Nat.le_max_right _ _)

/-! ## The recursive object -/

namespace Nest

theorem kidsDepth_eq (kids : List Nest) : kidsDepth kids = (kids.map depth).foldr max 0 := by
  induction kids with
  | nil => rfl
  | cons kid others hypothesis =>
      rw [kidsDepth, hypothesis]
      rfl

theorem depth_toRecord (nest : Nest) : schema.depth nest.toRecord = nest.depth := by
  obtain ⟨level, child, kids, tag⟩ := nest
  have record : schema.depth (toRecord ⟨level, child, kids, tag⟩) =
      max (1 + 0) (max (1 + childDepth child)
        (max (1 + (kids.map depth).foldr max 0) (max (1 + 0) 1))) := by
    cases child with
    | none => rfl
    | some child => rfl
  rw [record, depth, kidsDepth_eq]
  omega

theorem schema_plain : schema.Plain := by
  simp [schema, Schema.Plain, Shape.Plain]

/-- A node has everything that is needed to write it. -/
theorem complete_toRecord (nest : Nest) : schema.Complete nest.toRecord := by
  obtain ⟨level, child, kids, tag⟩ := nest
  refine ⟨fun _ => trivial, fun present => ?_, fun present => ?_, fun _ => trivial, trivial⟩
  · cases child with
    | none => cases present
    | some child => exact trivial
  · cases kids with
    | nil => cases present
    | cons kid others => exact ⟨List.cons_ne_nil _ _, fun _ _ => trivial⟩

end Nest

/-! ## Enumerations -/

theorem Enumeration.ofOrdinal_ordinal {table : Enumeration}
    (distinct : (table.members.map Prod.fst).Nodup) {member : table.Member}
    (proper : member.Proper) : table.ofOrdinal member.ordinal = member := by
  cases member with
  | listed position =>
      have found : (table.members.findFinIdx? fun other =>
          other.1 == table.members[position].1) = some position := by
        refine List.findFinIdx?_eq_some_iff.mpr ⟨beq_self_eq_true _, ?_⟩
        intro earlier before equal
        have apart := List.pairwise_iff_getElem.mp (List.pairwise_map.mp distinct) earlier.1
          position.1 earlier.isLt position.isLt before
        exact apart (eq_of_beq equal)
      rw [Member.ordinal, ofOrdinal, found]
  | unknown ordinal =>
      have found : (table.members.findFinIdx? fun other => other.1 == ordinal) = none := by
        refine List.findFinIdx?_eq_none_iff.mpr ?_
        intro other member equal
        exact proper (List.mem_map.mpr ⟨other, member, eq_of_beq equal⟩)
      rw [Member.ordinal, ofOrdinal, found]

/-! ## One level -/

theorem foldlM_cons_of_ok {α β : Type} {step : α → β → Except Error α} {start next : α} {item : β}
    (made : step start item = .ok next) (rest : List β) :
    (item :: rest).foldlM step start = rest.foldlM step next := by
  rw [List.foldlM_cons, made]
  rfl

/-- A step can be taken for all items if and only if it can be taken for each of them. -/
theorem exists_mapM_iff {α β : Type} {step : α → Except Error β} {items : List α} :
    (∃ results, List.mapM step items = .ok results) ↔
      ∀ item ∈ items, ∃ result, step item = .ok result := by
  induction items with
  | nil => exact iff_of_true ⟨[], rfl⟩ fun _ member => by cases member
  | cons item rest hypothesis =>
      rw [List.forall_mem_cons, ← hypothesis, List.mapM_cons]
      constructor
      · rintro ⟨results, made⟩
        obtain ⟨result, first, made⟩ := bind_eq_ok.mp made
        obtain ⟨others, behind, _⟩ := bind_eq_ok.mp made
        exact ⟨⟨result, first⟩, others, behind⟩
      · rintro ⟨⟨result, first⟩, others, behind⟩
        refine ⟨result :: others, bind_eq_ok.mpr ⟨result, first, ?_⟩⟩
        exact bind_eq_ok.mpr ⟨others, behind, rfl⟩

/-- Objects that are no deeper than `room` can be written, and a blank object takes them in as
they are. -/
def Returns (encoder : Option NestedEncoder) (absorber : Option Absorber) (room : Nat) : Prop :=
  ∀ (schema : Schema) (record : schema.Record), schema.Plain → schema.Complete record →
    schema.depth record ≤ room →
      (∀ id, ∃ bytes, encodeNested encoder id schema record = .ok bytes) ∧
      absorbNested absorber schema schema.blank record = .ok record

section Level

variable {encoder : Option NestedEncoder} {absorber : Option Absorber} {room : Nat}
  (returns : Returns encoder absorber room)
include returns

theorem Returns.nest {nest : Nest} (shallow : nest.depth ≤ room) :
    (∀ id, ∃ bytes, encodeNested encoder id Nest.schema nest.toRecord = .ok bytes) ∧
      absorbNested absorber Nest.schema Nest.schema.blank nest.toRecord = .ok nest.toRecord :=
  returns Nest.schema nest.toRecord Nest.schema_plain nest.complete_toRecord
    (nest.depth_toRecord.symm ▸ shallow)

/-- A complete value can be written. -/
theorem exists_encode (id : UInt32) : (shape : Shape) → (repeatable : Bool) →
    (value : shape.Value) → shape.Plain repeatable → shape.Complete value →
      shape.depth value ≤ room → ∃ bytes, shape.encode encoder id value = .ok bytes
  | .i32, _, _, plain, _, _ | .i64, _, _, plain, _, _ => plain.elim
  | .optional _, _, none, _, complete, _ => complete.elim
  | .optional item, _, some value, plain, complete, shallow =>
      exists_encode id item false value plain complete shallow
  | .repeated item, _, (items : List item.Value), plain, complete, shallow => by
      have each : ∀ value ∈ items, ∃ bytes, item.encode encoder id value = .ok bytes := by
        intro value member
        have below : item.depth value ≤ (items.map item.depth).foldr max 0 :=
          le_foldr_max (List.mem_map_of_mem member)
        exact exists_encode id item false value plain.2 (complete.2 value member)
          (Nat.le_trans below shallow)
      obtain ⟨fields, encoded⟩ := exists_mapM_iff.mpr each
      exact ⟨fields.flatten, bind_eq_ok.mpr ⟨fields, encoded, rfl⟩⟩
  | .boxed item, repeatable, value, plain, complete, shallow =>
      exists_encode id item repeatable value plain complete shallow
  | .object schema, _, record, plain, complete, shallow =>
      (returns schema record plain complete shallow).1 id
  | .nest, _, _, _, _, shallow => (returns.nest shallow).1 id
  | .u32, _, _, _, _, _ | .u64, _, _, _, _, _ | .boolean, _, _, _, _, _ | .text, _, _, _, _, _
  | .blob, _, _, _, _, _ | .fixed _, _, _, _, _, _ | .enumeration _, _, _, _, _, _ => ⟨_, rfl⟩

/-- An object with all its fields can be written. -/
theorem exists_encodeFields : (schema : Schema) → (record : schema.Record) → schema.Plain →
    schema.Complete record → schema.depth record ≤ room + 1 →
      ∃ bytes, schema.encodeFields encoder record = .ok bytes
  | .nil, _, _, _, _ => ⟨[], rfl⟩
  | .field id name required shape others, (value, record), plain, complete, shallow => by
      rw [Schema.depth] at shallow
      obtain ⟨rest, encodedRest⟩ :=
        exists_encodeFields others record plain.2 complete.2 (by omega)
      rw [Schema.encodeFields_field, encodedRest]
      by_cases present : (required || shape.isPresent value) = true
      · obtain ⟨first, encodedFirst⟩ :=
          exists_encode returns id shape true value plain.1 (complete.1 present) (by omega)
        rw [if_pos present, encodedFirst]
        exact ⟨_, rfl⟩
      · rw [if_neg present]
        exact ⟨_, rfl⟩

/-- A value that is read from one occurrence has one leaf, from which it comes back. -/
theorem store_blank : (shape : Shape) → (value : shape.Value) → shape.Plain false →
    shape.Complete value → shape.depth value ≤ room →
      ∃ leaf, shape.leaves value = [leaf] ∧ shape.store absorber shape.blank leaf = .ok value
  | .i32, _, plain, _, _ | .i64, _, plain, _, _ => plain.elim
  | .optional _, none, _, complete, _ => complete.elim
  | .optional item, some value, plain, complete, shallow => by
      obtain ⟨leaf, single, stored⟩ := store_blank item value plain complete shallow
      refine ⟨leaf, single, ?_⟩
      have back := Shape.store_optional absorber item none leaf
      rw [stored] at back
      exact back
  | .repeated _, _, plain, _, _ => absurd plain.1 Bool.false_ne_true
  | .boxed item, value, plain, complete, shallow =>
      store_blank item value plain complete shallow
  | .enumeration table, member, plain, complete, _ => by
      refine ⟨member, rfl, ?_⟩
      exact congrArg Except.ok (Enumeration.ofOrdinal_ordinal plain complete)
  | .object schema, record, plain, complete, shallow => by
      refine ⟨record, rfl, ?_⟩
      have taken := (returns schema record plain complete shallow).2
      change (fun leaf => leaf) <$> absorbNested absorber schema schema.blank record = .ok record
      rw [taken]
      rfl
  | .nest, nest, _, _, shallow => by
      refine ⟨nest, rfl, ?_⟩
      have taken := (returns.nest shallow).2
      change (fun leaf => leaf) <$> Nest.ofRecord <$>
        absorbNested absorber Nest.schema Nest.schema.blank nest.toRecord = .ok nest
      rw [taken]
      exact congrArg Except.ok (Nest.ofRecord_toRecord nest)
  | .u32, value, _, _, _ | .u64, value, _, _, _ | .boolean, value, _, _, _
  | .text, value, _, _, _ | .blob, value, _, _, _ | .fixed _, value, _, _, _ => ⟨value, rfl, rfl⟩

/-- The elements of a repetition come back one after the other, behind those that are there. -/
theorem foldlM_store_repeated {item : Shape} (plain : item.Plain false)
    (items : List item.Value) (complete : ∀ value ∈ items, item.Complete value)
    (shallow : ∀ value ∈ items, item.depth value ≤ room) (storage : List item.Value) :
    (items.flatMap item.leaves).foldlM (Shape.store absorber (.repeated item)) storage =
      .ok (storage ++ items) := by
  induction items generalizing storage with
  | nil =>
      rw [List.append_nil]
      rfl
  | cons value rest hypothesis =>
      obtain ⟨leaf, single, stored⟩ := store_blank returns item value plain
        (complete value (List.mem_cons_self ..)) (shallow value (List.mem_cons_self ..))
      have back := Shape.store_repeated absorber item storage leaf
      rw [stored] at back
      have others := hypothesis
        (fun other member => complete other (List.mem_cons_of_mem _ member))
        (fun other member => shallow other (List.mem_cons_of_mem _ member)) (storage ++ [value])
      rw [List.append_assoc] at others
      rw [List.flatMap_cons, single]
      exact (foldlM_cons_of_ok back (rest.flatMap item.leaves)).trans others

/-- All leaves of a complete value, taken into a blank one, give the value. -/
theorem foldlM_store_blank : (shape : Shape) → (value : shape.Value) → shape.Plain true →
    shape.Complete value → shape.depth value ≤ room →
      (shape.leaves value).foldlM (shape.store absorber) shape.blank = .ok value
  | .repeated item, (items : List item.Value), plain, complete, shallow => by
      have below : ∀ value ∈ items, item.depth value ≤ room := by
        intro value member
        exact Nat.le_trans (le_foldr_max (List.mem_map_of_mem member)) shallow
      exact foldlM_store_repeated returns plain.2 items complete.2 below []
  | .boxed item, value, plain, complete, shallow =>
      foldlM_store_blank item value plain complete shallow
  | .optional _, value, plain, complete, shallow | .u32, value, plain, complete, shallow
  | .u64, value, plain, complete, shallow | .i32, value, plain, complete, shallow
  | .i64, value, plain, complete, shallow | .boolean, value, plain, complete, shallow
  | .text, value, plain, complete, shallow | .blob, value, plain, complete, shallow
  | .fixed _, value, plain, complete, shallow | .enumeration _, value, plain, complete, shallow
  | .object _, value, plain, complete, shallow | .nest, value, plain, complete, shallow => by
      obtain ⟨leaf, single, stored⟩ := store_blank returns _ value plain complete shallow
      rw [single]
      exact foldlM_cons_of_ok stored []

end Level

/-! ## Fields that are not written -/

/-- A complete value has something that is written. -/
theorem leaves_ne_nil : (shape : Shape) → (value : shape.Value) → shape.Complete value →
    shape.leaves value ≠ []
  | .optional _, none, complete => complete.elim
  | .optional item, some value, complete => leaves_ne_nil item value complete
  | .repeated _, [], complete => absurd rfl complete.1
  | .repeated item, value :: rest, complete => by
      have first := leaves_ne_nil item value (complete.2 value (List.mem_cons_self ..))
      intro nothing
      exact first (List.append_eq_nil_iff.mp nothing).1
  | .boxed item, value, complete => leaves_ne_nil item value complete
  | .u32, _, _ | .u64, _, _ | .i32, _, _ | .i64, _, _ | .boolean, _, _ | .text, _, _
  | .blob, _, _ | .fixed _, _, _ | .enumeration _, _, _ | .object _, _, _ | .nest, _, _ =>
      List.cons_ne_nil _ _

/-- A value that is not present is the blank one. -/
theorem eq_blank_of_absent : (shape : Shape) → (value : shape.Value) →
    shape.isPresent value = false → value = shape.blank
  | .text, _, absent => String.isEmpty_iff.mp (Bool.not_eq_eq_eq_not.mp absent)
  | .blob, _, absent => List.isEmpty_iff.mp (Bool.not_eq_eq_eq_not.mp absent)
  | .optional _, none, _ => rfl
  | .optional _, some _, absent => by cases absent
  | .repeated _, [], _ => rfl
  | .repeated _, _ :: _, absent => by cases absent
  | .boxed item, value, absent => eq_blank_of_absent item value absent
  | .u32, _, absent | .u64, _, absent | .i32, _, absent | .i64, _, absent
  | .boolean, _, absent | .fixed _, _, absent | .enumeration _, _, absent
  | .object _, _, absent | .nest, _, absent => by cases absent

/-! ## Whole objects -/

/-- A blank object takes in the fields of a complete one, and none of them is missing. -/
theorem absorbFields_blank {encoder : Option NestedEncoder} {absorber : Option Absorber}
    {room : Nat} (returns : Returns encoder absorber room) :
    (schema : Schema) → (record : schema.Record) → schema.Plain → schema.Complete record →
      schema.depth record ≤ room + 1 →
        ∃ draft, schema.absorbFields absorber (schema.draft schema.blank) record = .ok draft ∧
          schema.finish draft = .ok record
  | .nil, _, _, _, _ => ⟨(), rfl, rfl⟩
  | .field id name required shape others, (value, record), plain, complete, shallow => by
      rw [Schema.depth] at shallow
      obtain ⟨draft, taken, finished⟩ :=
        absorbFields_blank returns others record plain.2 complete.2 (by omega)
      have first : (shape.written required value).foldlM (shape.store absorber) shape.blank =
          .ok value := by
        rw [Shape.written]
        by_cases present : (required || shape.isPresent value) = true
        · rw [if_pos present]
          exact foldlM_store_blank returns shape value plain.1 (complete.1 present) (by omega)
        · rw [if_neg present, eq_blank_of_absent shape value (Shape.absent_of_unwritten present)]
          rfl
      have known : (required && !(false || !(shape.written required value).isEmpty)) = false := by
        cases required with
        | false => rfl
        | true =>
            have filled : (shape.leaves value).isEmpty = false :=
              List.isEmpty_eq_false_iff.mpr (leaves_ne_nil shape value (complete.1 rfl))
            rw [Shape.written_required, filled]
            rfl
      refine ⟨((value, false || !(shape.written required value).isEmpty), draft), ?_, ?_⟩
      · exact bind_eq_ok.mpr ⟨value, first, bind_eq_ok.mpr ⟨draft, taken, rfl⟩⟩
      · rw [Schema.finish, known, if_neg Bool.false_ne_true]
        exact bind_eq_ok.mpr ⟨record, finished, rfl⟩

theorem returns_succ {encoder : Option NestedEncoder} {absorber : Option Absorber} {room : Nat}
    (returns : Returns encoder absorber room) :
    Returns (some fun schema record => schema.encodeFields encoder record)
      (some (Schema.absorbBody absorber)) (room + 1) := by
  intro schema record plain complete shallow
  obtain ⟨body, encoded⟩ := exists_encodeFields returns schema record plain complete shallow
  obtain ⟨draft, taken, finished⟩ := absorbFields_blank returns schema record plain complete shallow
  refine ⟨fun id => ⟨_, bind_eq_ok.mpr ⟨body, encoded, rfl⟩⟩, ?_⟩
  exact bind_eq_ok.mpr ⟨draft, taken, finished⟩

/-- At every depth. -/
theorem returns_at (room : Nat) :
    Returns (some (Schema.encodeAt room)) (some (Schema.absorbAt room)) (room + 1) := by
  induction room with
  | zero =>
      have nothing : Returns none none 0 := by
        intro schema record _ _ shallow
        have positive := schema.depth_pos record
        omega
      exact returns_succ nothing
  | succ room hypothesis => exact returns_succ hypothesis

/-- The schemas of the catalogue have fields that can be told apart and keep what is read. -/
theorem MessageKind.schema_numbered (kind : MessageKind) : kind.schema.Numbered := by
  cases kind <;> simp [MessageKind.schema, Schema.Numbered, Shape.Numbered, Schema.ids,
    Initialize.schema, Success.schema, Failure.schema, GetPublicKey.schema, PublicKey.schema,
    HdNode.schema, Features.schema, PinMatrixRequest.schema, PinMatrixAck.schema,
    ButtonRequest.schema, ButtonAck.schema, PassphraseRequest.schema, PassphraseAck.schema,
    SignIdentity.schema, Identity.schema, SignedIdentity.schema, GetEcdhSessionKey.schema,
    EcdhSessionKey.schema]

theorem MessageKind.schema_plain (kind : MessageKind) : kind.schema.Plain := by
  have failures : (failureType.members.map Prod.fst).Nodup := by decide
  have requests : (buttonRequestType.members.map Prod.fst).Nodup := by decide
  cases kind <;> simp [MessageKind.schema, Schema.Plain, Shape.Plain, failures, requests,
    Initialize.schema, Success.schema, Failure.schema, GetPublicKey.schema, PublicKey.schema,
    HdNode.schema, Features.schema, PinMatrixRequest.schema, PinMatrixAck.schema,
    ButtonRequest.schema, ButtonAck.schema, PassphraseRequest.schema, PassphraseAck.schema,
    SignIdentity.schema, Identity.schema, SignedIdentity.schema, GetEcdhSessionKey.schema,
    EcdhSessionKey.schema]

namespace Schema

/-- A complete object that is not too deep. -/
theorem round_trip_of_plain {schema : Schema} (numbered : schema.Numbered)
    (plain : schema.Plain) {record : schema.Record} (complete : schema.Complete record)
    (shallow : schema.depth record ≤ maximumDepth) :
    ∃ bytes, schema.encode record = .ok bytes ∧
      (bytes.length < 2 ^ 64 → schema.decode bytes = .ok record) := by
  obtain ⟨written, taken⟩ := returns_at (maximumDepth - 1) schema record plain complete shallow
  obtain ⟨field, encoded⟩ := written 0
  obtain ⟨bytes, encoded, _⟩ := bind_eq_ok.mp encoded
  refine ⟨bytes, encoded, ?_⟩
  intro short
  exact (decodeAt_encodeAt (maximumDepth - 1) numbered schema.blank encoded short).trans taken

/-- Every object of every schema whose fields can be told apart, and of every schema of the
catalogue, can be written and comes back, when no shape in it loses anything, everything that
has to be written is there, and at most `maximumDepth` objects are open at once.  The bytes
must be no more than a length prefix can count. -/
theorem round_trip :
    (∀ (schema : Schema) (record : schema.Record), schema.Numbered → schema.Plain →
      schema.Complete record → schema.depth record ≤ maximumDepth →
        ∃ bytes, schema.encode record = .ok bytes ∧
          (bytes.length < 2 ^ 64 → schema.decode bytes = .ok record)) ∧
    ∀ (kind : MessageKind) (record : kind.schema.Record), kind.schema.Complete record →
      kind.schema.depth record ≤ maximumDepth →
        ∃ bytes, kind.schema.encode record = .ok bytes ∧
          (bytes.length < 2 ^ 64 → kind.schema.decode bytes = .ok record) := by
  refine ⟨?_, ?_⟩
  · intro schema record numbered plain complete shallow
    exact round_trip_of_plain numbered plain complete shallow
  · intro kind record complete shallow
    exact round_trip_of_plain kind.schema_numbered kind.schema_plain complete shallow

/-- An object with a path, a reason, a tree and an identity. -/
def treeSchema : Schema :=
  .required 1 "path" (.repeated (.optional .u32)) <|
  .optional 2 "reason" (.optional (.boxed (.enumeration failureType))) <|
  .required 3 "tree" (.boxed .nest) <|
  .optional 4 "owner" (.object Identity.schema) .nil

/-- One of these objects. -/
def someTree : treeSchema.Record :=
  ([some (44 : UInt32), some (300 : UInt32)], some (.unknown 4242),
    ⟨1, some ⟨2, none, [], "leaf"⟩, [⟨3, none, [], ""⟩, ⟨4, none, [], "kid"⟩], "root"⟩,
    ("ssh", "alice", "", ()), ())

theorem round_trip_of_tree :
    ∃ bytes, treeSchema.encode someTree = .ok bytes ∧ treeSchema.decode bytes = .ok someTree := by
  have numbered : treeSchema.Numbered := by
    simp [treeSchema, Schema.Numbered, Shape.Numbered, Schema.ids, Identity.schema]
  have plain : treeSchema.Plain := by
    have distinct : (failureType.members.map Prod.fst).Nodup := by decide
    simp [treeSchema, Schema.Plain, Shape.Plain, Identity.schema, distinct]
  have complete : treeSchema.Complete someTree := by
    refine ⟨fun _ => ⟨List.cons_ne_nil _ _, ?_⟩, fun _ => ?_, fun _ => trivial,
      fun _ => ⟨fun _ => trivial, fun _ => trivial, fun _ => trivial, trivial⟩, trivial⟩
    · exact List.forall_mem_cons.mpr ⟨trivial, List.forall_mem_singleton.mpr trivial⟩
    · show (4242 : UInt64) ∉ failureType.members.map Prod.fst
      decide
  have shallow : treeSchema.depth someTree ≤ maximumDepth := by decide +kernel
  obtain ⟨bytes, encoded, back⟩ := round_trip.1 treeSchema someTree numbered plain complete
    shallow
  have size : (treeSchema.encode someTree).toOption.map List.length = some 57 := by
    decide +kernel
  rw [encoded] at size
  have short : bytes.length = 57 := Option.some.inj size
  exact ⟨bytes, encoded, back (by rw [short]; decide)⟩

end Schema
end SecurityKey
