import SecurityKey.Proofs.Schema.Leaves
import SecurityKey.Proofs.Wire.Spelled

/-!
# Objects on a writer

A writer is driven over an object by the schema of the object: the root is opened, every field
that is required or present is announced by its key and written, an array item by item, a nested
object as an object of its own, and the object is closed (`Schema.writeObject`).

The object is written from the outside to the inside, whereas `Schema.encode` puts the bodies
together from the inside to the outside.  Both come to the same: at every depth the writer appends
to the innermost body what is encoded of the value, or both fail with the same error
(`Writer.Appends`).  The bodies further out, and the keys that their objects were opened under,
are left as they are.  The main statement is `Schema.outcome_writeObject`.

A nested object is written with one level less, and what is done when no level is left is of no
interest: the writer refuses an object for its depth before that.
-/

set_option autoImplicit false

namespace SecurityKey

/-! ## The steps of an object -/

/-- How the objects nested inside an object are written. -/
abbrev NestedWriter := (schema : Schema) → schema.Record → Writing Unit

/-- Writes a value under the pending key. -/
def Shape.write (nested : NestedWriter) : (shape : Shape) → shape.Value → Writing Unit
  | .u32, (value : UInt32) => Writer.unsigned value.toUInt64
  | .u64, (value : UInt64) => Writer.unsigned value
  | .i32, (value : Int32) => Writer.integer value.toInt64
  | .i64, (value : Int64) => Writer.integer value
  | .boolean, (value : Bool) => Writer.boolean value
  | .text, (value : String) => Writer.text value
  | .blob, (value : Bytes) => Writer.blob value
  | .fixed _, value => Writer.blob value.bytes
  | .enumeration _, value => Writer.ordinal value.ordinal
  | .optional _, none => throw (.state .requiredUnset)
  | .optional item, some value => item.write nested value
  | .repeated item, items => do
      Writer.startArray
      List.forM items (item.write nested)
      Writer.endArray
  | .boxed item, value => item.write nested value
  | .object schema, record => nested schema record
  | .nest, value => nested Nest.schema value.toRecord

/-- Writes a field that is required or present, and passes over any other. -/
def Shape.writeField (nested : NestedWriter) (id : UInt32) (required : Bool) (shape : Shape)
    (value : shape.Value) : Writing Unit :=
  if required || shape.isPresent value then do
    Writer.key id
    shape.write nested value
  else
    pure ()

/-- Writes the fields of an object, in order. -/
def Schema.writeFields (nested : NestedWriter) : (schema : Schema) → schema.Record → Writing Unit
  | .nil, _ => pure ()
  | .field id _ required shape others, (value, record) => do
      shape.writeField nested id required value
      others.writeFields nested record

/-- Writes an object with objects inside one another at `levels` levels.  Those further in are
left to `deeper`. -/
def Schema.writeObject (deeper : NestedWriter) : (levels : Nat) → NestedWriter
  | 0 => deeper
  | levels + 1 => fun schema record => do
      Writer.startObject
      schema.writeFields (writeObject deeper levels) record
      Writer.endObject

namespace Writer

/-! ## What is appended to the innermost object -/

/-- A writer in whose innermost object, at the depth `level`, fields can be written. -/
structure Ready (level : Nat) (writer : Writer) : Prop where
  depth : writer.depth = level + 1
  emptied : Emptied writer.bodies (level + 1)

/-- The innermost object, at the depth `level`, has grown by some bytes. -/
structure Grown (level : Nat) (before : Writer) (bytes : Bytes) (after : Writer) : Prop where
  kept : Kept before after
  body : after.bodies[level]? = before.bodies[level]?.map (· ++ bytes)
  others : ∀ other : Nat, other ≠ level → after.bodies[other]? = before.bodies[other]?

/-- What steps come to that append some fields to the innermost object, or fail.  Behind them one
of the keys `last` is pending. -/
inductive Appends (level : Nat) (before : Writer) (last : Option UInt32 → Prop) :
    Except Error Bytes → EStateM.Result Error Writer Unit → Prop where
  | ok {bytes : Bytes} {after : Writer} (grown : Grown level before bytes after)
      (pending : last after.pending) : Appends level before last (.ok bytes) (.ok () after)
  | error {error : Error} {left : Writer} :
      Appends level before last (.error error) (.error error left)

variable {level : Nat} {before between after : Writer} {id : UInt32}
  {last middle : Option UInt32 → Prop}

theorem Ready.inside (ready : Ready level before) : level < maximumDepth := by
  have bound := before.depth_le
  rw [ready.depth] at bound
  exact bound

/-- The key that is pending has no part in it. -/
theorem Ready.keyed (ready : Ready level before) (pending : Option UInt32) :
    Ready level { before with pending := pending } :=
  ⟨ready.depth, ready.emptied⟩

theorem Grown.ready {bytes : Bytes} (grown : Grown level before bytes after)
    (ready : Ready level before) : Ready level after where
  depth := grown.kept.depth.trans ready.depth
  emptied := by
    intro other inside beyond
    have same := grown.others other (by omega)
    rw [Vector.getElem?_eq_getElem inside, Vector.getElem?_eq_getElem inside,
      ready.emptied other inside beyond] at same
    exact Option.some.inj same

theorem Grown.trans {first second : Bytes} (grown : Grown level before first between)
    (others : Grown level between second after) : Grown level before (first ++ second) after where
  kept := grown.kept.trans others.kept
  body := by
    rw [others.body, grown.body, Option.map_map]
    refine congrArg (fun append => before.bodies[level]?.map append) (funext fun body => ?_)
    exact List.append_assoc body first second
  others := fun other apart => (others.others other apart).trans (grown.others other apart)

theorem grown_nil (before : Writer) : Grown level before [] before where
  kept := .refl before
  body := by
    cases before.bodies[level]? with
    | none => rfl
    | some body => exact congrArg some (List.append_nil body).symm
  others := fun _ _ => rfl

/-- Nothing is appended by doing nothing. -/
theorem appends_pure (pending : last before.pending) :
    Appends level before last (.ok []) ((pure () : Writing Unit) before) :=
  .ok (grown_nil before) pending

/-- Some fields and those behind them. -/
theorem Appends.bind {first second : Except Error Bytes} {step next : Writing Unit}
    (appends : Appends level before middle first (step before))
    (others : ∀ (bytes : Bytes) (between : Writer), Grown level before bytes between →
      middle between.pending → Appends level between last second (next between)) :
    Appends level before last
      (do let fields ← first; let behind ← second; pure (fields ++ behind))
      ((step >>= fun _ => next) before) := by
  cases ran : step before with
  | error error left =>
      rw [ran] at appends
      rw [run_bind_of_error ran]
      cases appends
      exact .error
  | ok result between =>
      rw [ran] at appends
      rw [run_bind_of_ok ran]
      cases appends with
      | ok grown pending =>
          have behind := others _ between grown pending
          cases came : next between with
          | error error left =>
              rw [came] at behind
              cases behind
              exact .error
          | ok result after =>
              rw [came] at behind
              cases behind with
              | ok further pending => exact .ok (grown.trans further) pending

/-- What is pending before has no part in what is appended. -/
theorem Appends.of_keyed {result : Except Error Bytes} {run : EStateM.Result Error Writer Unit}
    {pending : Option UInt32}
    (appends : Appends level { before with pending := pending } middle result run)
    (weaker : ∀ key, middle key → last key) : Appends level before last result run := by
  cases appends with
  | ok grown pending =>
      obtain ⟨⟨depth, finished, keys⟩, body, others⟩ := grown
      exact .ok ⟨⟨depth, finished, keys⟩, body, others⟩ (weaker _ pending)
  | error => exact .error

/-- A value that is no object is one field under the pending key. -/
theorem appends_append (ready : Ready level before) (waiting : before.pending = some id)
    (field : UInt32 → Bytes) :
    Appends level before (· = some id) (.ok (field id)) (append field before) := by
  have inside := ready.inside
  obtain ⟨bodies, keys, depth, depth_le, pending, finished⟩ := before
  obtain ⟨depth, _⟩ := ready
  cases depth
  cases waiting
  refine .ok ⟨⟨rfl, rfl, fun _ _ _ => rfl⟩, ?_, ?_⟩ rfl
  · change (bodies.set level (bodies[level] ++ field id) inside)[level]? = _
    rw [Vector.getElem?_set_self inside, Vector.getElem?_eq_getElem inside]
    rfl
  · intro other apart
    exact Vector.getElem?_set_ne inside (Ne.symm apart)

theorem appends_number (ready : Ready level before) (waiting : before.pending = some id)
    {value : Nat} :
    Appends level before (· = some id) (.ok (Bytes.ofVarintField id value))
      (append (fun id => Bytes.ofVarintField id value) before) :=
  appends_append ready waiting fun id => Bytes.ofVarintField id value

theorem appends_body (ready : Ready level before) (waiting : before.pending = some id)
    {body : Bytes} :
    Appends level before (· = some id) (.ok (Bytes.ofDelimitedField id body))
      (append (fun id => Bytes.ofDelimitedField id body) before) :=
  appends_append ready waiting fun id => Bytes.ofDelimitedField id body

/-! ## Nested objects -/

theorem startObject_of_full (full : before.depth = maximumDepth) :
    startObject before = .error tooDeep before := dif_pos full

theorem startObject_of_pending (waiting : before.pending = some id) (nested : 0 < before.depth)
    (room : before.depth < maximumDepth) :
    startObject before = .ok () (before.nestedUnder id room) := by
  obtain ⟨_, started, _⟩ := run_map_eq_ok.mp (run_startObject waiting nested room)
  exact started

/-- A nested object is opened on an empty body. -/
theorem Ready.nestedUnder (ready : Ready level before) (room : before.depth < maximumDepth) :
    Ready (level + 1) (before.nestedUnder id room) ∧
      (before.nestedUnder id room).bodies[level + 1]? = some [] := by
  have inside : level + 1 < maximumDepth := ready.depth ▸ room
  refine ⟨⟨congrArg (· + 1) ready.depth, fun other within beyond => ?_⟩, ?_⟩
  · exact ready.emptied other within (Nat.le_of_succ_le beyond)
  · change before.bodies[level + 1]? = some []
    rw [Vector.getElem?_eq_getElem inside, ready.emptied (level + 1) inside (Nat.le_refl _)]

/-- When a nested object is closed, it is a field of the object around it. -/
theorem Grown.endObject {body : Bytes} {told : Writer} (ready : Ready level before)
    (room : before.depth < maximumDepth)
    (grown : Grown (level + 1) (before.nestedUnder id room) body told) :
    Appends level before (· = some id) (.ok (Bytes.ofDelimitedField id body))
      (endObject told) := by
  obtain ⟨_, clear⟩ := ready.nestedUnder room
  have inside : level + 1 < maximumDepth := ready.depth ▸ room
  have within : level < maximumDepth := ready.inside
  have depth : told.depth = level + 2 :=
    grown.kept.depth.trans (congrArg (· + 1) ready.depth)
  have opener : told.keys[level + 1] = id := by
    rw [grown.kept.keys (level + 1) inside (Nat.lt_succ_of_le (Nat.le_of_eq ready.depth.symm))]
    simp only [Writer.nestedUnder, ready.depth]
    exact Vector.getElem_set_self inside
  have child : told.bodies[level + 1] = body := by
    have written := grown.body
    rw [clear, Vector.getElem?_eq_getElem inside] at written
    exact Option.some.inj written
  have around : some told.bodies[level] = before.bodies[level]? := by
    rw [← Vector.getElem?_eq_getElem within]
    exact grown.others level (Nat.ne_of_lt (Nat.lt_succ_self level))
  obtain ⟨kept, _, others⟩ := grown
  obtain ⟨bodies, keys, _, _, pending, finished⟩ := told
  cases depth
  refine .ok ⟨⟨ready.depth.symm, kept.finished, ?_⟩, ?_, ?_⟩ (congrArg some opener)
  · intro other bound opened
    refine (kept.keys other bound (Nat.lt_succ_of_lt opened)).trans ?_
    exact Vector.getElem_set_ne room bound (Nat.ne_of_gt opened)
  · change ((bodies.set level (bodies[level] ++
      Bytes.ofDelimitedField keys[level + 1] bodies[level + 1]) within).set (level + 1) []
        inside)[level]? = _
    rw [Vector.getElem?_set_ne inside (Nat.succ_ne_self level), Vector.getElem?_set_self within,
      ← around, opener, child]
    rfl
  · intro other apart
    change ((bodies.set level _ within).set (level + 1) [] inside)[other]? = _
    by_cases closed : other = level + 1
    · subst closed
      rw [Vector.getElem?_set_self inside]
      exact clear.symm
    · rw [Vector.getElem?_set_ne inside (Ne.symm closed),
        Vector.getElem?_set_ne within (Ne.symm apart)]
      exact others other closed

/-- An object is written by opening it, writing its fields and closing it. -/
theorem Appends.endObject {body : Except Error Bytes} {step : Writing Unit}
    (ready : Ready level before) (room : before.depth < maximumDepth)
    (appends : Appends (level + 1) (before.nestedUnder id room) last body
      (step (before.nestedUnder id room))) :
    Appends level before (· = some id)
      (do let body ← body; pure (Bytes.ofDelimitedField id body))
      ((step >>= fun _ => Writer.endObject) (before.nestedUnder id room)) := by
  cases ran : step (before.nestedUnder id room) with
  | error error left =>
      rw [ran] at appends
      rw [run_bind_of_error ran]
      cases appends
      exact .error
  | ok result told =>
      rw [ran] at appends
      rw [run_bind_of_ok ran]
      cases appends with
      | ok grown _ => exact grown.endObject ready room

end Writer

/-! ## Values -/

open Writer

/-- A nested object is written, inside an object at the depth `level`, as what is encoded of
it. -/
def Writer.Follows (level : Nat) (encoder : Option NestedEncoder) (writer : NestedWriter) : Prop :=
  ∀ (schema : Schema) (record : schema.Record) (before : Writer) (id : UInt32),
    Ready level before → before.pending = some id →
      Appends level before (· = some id) (encodeNested encoder id schema record)
        (writer schema record before)

section Values

variable {level : Nat} {encoder : Option NestedEncoder} {writer : NestedWriter}

/-- Items are written one after the other under the same key. -/
theorem Writer.appends_forM {α : Type} {encode : α → Except Error Bytes} {id : UInt32}
    {write : α → Writing Unit}
    (each : ∀ (value : α) (before : Writer), Ready level before → before.pending = some id →
      Appends level before (· = some id) (encode value) (write value before))
    (items : List α) (before : Writer) (ready : Ready level before)
    (waiting : before.pending = some id) :
    Appends level before (· = some id)
      (do let fields ← items.mapM encode; pure fields.flatten) (items.forM write before) := by
  induction items generalizing before with
  | nil => exact appends_pure waiting
  | cons value others hypothesis =>
      have parts : (do let fields ← (value :: others).mapM encode; pure fields.flatten) =
          (do
            let first ← encode value
            let behind ← (do let fields ← others.mapM encode; pure fields.flatten)
            pure (first ++ behind)) := by
        simp [List.mapM_cons]
      rw [parts]
      exact (each value before ready waiting).bind fun bytes between grown pending =>
        hypothesis between (grown.ready ready) pending

/-- A value is written as what is encoded of it. -/
theorem Shape.appends_write (follows : Writer.Follows level encoder writer) {id : UInt32} :
    (shape : Shape) → (value : shape.Value) → (before : Writer) → Ready level before →
      before.pending = some id →
        Appends level before (· = some id) (shape.encode encoder id value)
          (shape.write writer value before)
  | .u32, _, _, ready, waiting | .u64, _, _, ready, waiting | .boolean, _, _, ready, waiting
  | .enumeration _, _, _, ready, waiting => appends_number ready waiting
  | .text, _, _, ready, waiting | .blob, _, _, ready, waiting
  | .fixed _, _, _, ready, waiting => appends_body ready waiting
  | .i32, _, _, _, _ | .i64, _, _, _, _ | .optional _, none, _, _, _ => .error
  | .optional item, some value, before, ready, waiting =>
      item.appends_write follows value before ready waiting
  | .repeated item, items, before, ready, waiting => by
      have written := appends_forM (item.appends_write follows) items before ready waiting
      change Appends _ _ _ _ ((List.forM items (item.write writer) >>= fun _ => pure ()) before)
      rwa [bind_pure_unit]
  | .boxed item, value, before, ready, waiting =>
      item.appends_write follows value before ready waiting
  | .object schema, record, before, ready, waiting => follows schema record before id ready waiting
  | .nest, value, before, ready, waiting =>
      follows Nest.schema (Nest.toRecord value) before id ready waiting

/-! ## Objects -/

theorem Shape.appends_writeField (follows : Writer.Follows level encoder writer) (id : UInt32)
    (required : Bool) (shape : Shape) (value : shape.Value) (before : Writer)
    (ready : Ready level before) :
    Appends level before (fun _ => True)
      (if required || shape.isPresent value then shape.encode encoder id value else pure [])
      (shape.writeField writer id required value before) := by
  rw [Shape.writeField]
  split
  · exact (shape.appends_write follows value _ (ready.keyed (some id)) rfl).of_keyed
      fun _ _ => trivial
  · exact appends_pure trivial

/-- The fields of an object are written as what is encoded of them. -/
theorem Schema.appends_writeFields (follows : Writer.Follows level encoder writer) :
    (schema : Schema) → (record : schema.Record) → (before : Writer) → Ready level before →
      Appends level before (fun _ => True) (schema.encodeFields encoder record)
        (schema.writeFields writer record before)
  | .nil, _, _, _ => appends_pure trivial
  | .field id name required shape others, (value, record), before, ready => by
      have first := shape.appends_writeField follows id required value before ready
      have written := first.bind fun bytes between grown _ =>
        others.appends_writeFields follows record between (grown.ready ready)
      rw [Schema.encodeFields_field]
      exact written

end Values

/-! ## Objects inside objects -/

/-- The encoder of the objects inside an object inside which `room` more may be open. -/
def Schema.encoderAt : Nat → Option NestedEncoder
  | 0 => none
  | room + 1 => some (Schema.encodeAt room)

theorem Schema.encodeAt_eq (room : Nat) (schema : Schema) (record : schema.Record) :
    Schema.encodeAt room schema record = schema.encodeFields (Schema.encoderAt room) record := by
  cases room with
  | zero => rfl
  | succ room => rfl

/-- With as many levels as there is room for objects, and one more, a nested object is written as
what is encoded of it, or refused as it is by the encoder. -/
theorem Writer.follows_writeObject (deeper : NestedWriter) (room : Nat) {level levels : Nat}
    (full : level + 1 + room = maximumDepth) (enough : room < levels) :
    Writer.Follows level (Schema.encoderAt room) (Schema.writeObject deeper levels) := by
  induction room generalizing level levels with
  | zero =>
      obtain ⟨levels, rfl⟩ := Nat.exists_eq_add_one.mpr enough
      intro schema record before id ready waiting
      have refused := startObject_of_full (ready.depth.trans full)
      change Appends _ _ _ _ ((startObject >>= fun _ => _) before)
      rw [run_bind_of_error refused]
      exact .error
  | succ room hypothesis =>
      obtain ⟨levels, rfl⟩ := Nat.exists_eq_add_one.mpr (Nat.zero_lt_of_lt enough)
      intro schema record before id ready waiting
      have opens : before.depth < maximumDepth := by rw [ready.depth]; omega
      have nested : 0 < before.depth := by rw [ready.depth]; omega
      have started := startObject_of_pending waiting nested opens
      have follows : Writer.Follows (level + 1) (Schema.encoderAt room)
          (Schema.writeObject deeper levels) := hypothesis (by omega) (by omega)
      have inside := schema.appends_writeFields follows record (before.nestedUnder id opens)
        (ready.nestedUnder opens).1
      rw [← Schema.encodeAt_eq] at inside
      change Appends _ _ _ _ ((startObject >>= fun _ => _) before)
      rw [run_bind_of_ok started]
      exact inside.endObject ready opens

theorem Writer.exists_root :
    ∃ root, startObject Writer.empty = .ok () root ∧ Ready 0 root ∧ root.bodies[0]? = some [] := by
  have clear : ∀ (level : Nat) (inside : level < maximumDepth),
      Writer.empty.bodies[level] = [] := fun _ inside => Vector.getElem_replicate inside
  refine ⟨_, rfl, ⟨rfl, fun level inside _ => ?_⟩, Vector.getElem?_set_self maximumDepth_pos⟩
  exact (Vector.getElem_set_ne maximumDepth_pos inside (by omega)).trans (clear level inside)

/-- A root that is closed can be taken. -/
theorem Writer.takeBytes_of_told {told : Writer} (depth : told.depth = 1) {body : Bytes}
    (written : told.bodies[0]? = some body) :
    ∃ after, (endObject >>= fun _ => takeBytes) told = .ok body after := by
  rw [Vector.getElem?_eq_getElem maximumDepth_pos] at written
  cases Option.some.inj written
  obtain ⟨bodies, keys, _, _, pending, finished⟩ := told
  cases depth
  exact ⟨_, rfl⟩

/-- **A writer that is driven over an object gives the bytes of the object.**  Whatever the object
is, the root is opened, written and taken as what `Schema.encode` gives, and when that refuses the
object, the writer fails with the same error.  It does not matter how many levels of objects are
written, as long as there are more than can be open at once, nor what is done beyond them. -/
theorem Schema.outcome_writeObject (deeper : NestedWriter) (levels : Nat) (schema : Schema)
    (record : schema.Record) :
    outcome ((do
      Schema.writeObject deeper (maximumDepth + 1 + levels) schema record
      Writer.takeBytes) Writer.empty) = schema.encode record := by
  have count : maximumDepth + 1 + levels = maximumDepth + levels + 1 := by omega
  have follows : Writer.Follows 0 (Schema.encoderAt (maximumDepth - 1))
      (Schema.writeObject deeper (maximumDepth + levels)) :=
    follows_writeObject deeper (maximumDepth - 1) (by decide) (by have := maximumDepth_pos; omega)
  obtain ⟨root, opened, ready, clear⟩ := exists_root
  have appends := schema.appends_writeFields follows record root ready
  rw [← Schema.encodeAt_eq] at appends
  rw [count, Schema.writeObject]
  simp only [bind_assoc]
  rw [run_bind_of_ok opened]
  change _ = Schema.encodeAt (maximumDepth - 1) schema record
  cases ran : schema.writeFields (Schema.writeObject deeper (maximumDepth + levels)) record
      root with
  | error error left =>
      rw [ran] at appends
      rw [run_bind_of_error ran]
      generalize Schema.encodeAt (maximumDepth - 1) schema record = encoded at appends ⊢
      cases appends
      rfl
  | ok result told =>
      rw [ran] at appends
      rw [run_bind_of_ok ran]
      generalize Schema.encodeAt (maximumDepth - 1) schema record = encoded at appends ⊢
      cases appends with
      | @ok body _ grown _ =>
          have written : told.bodies[0]? = some body := by rw [grown.body, clear]; rfl
          obtain ⟨after, taken⟩ := takeBytes_of_told (grown.kept.depth.trans ready.depth) written
          rw [taken]
          rfl

end SecurityKey
