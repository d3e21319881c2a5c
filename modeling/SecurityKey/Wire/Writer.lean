import SecurityKey.Wire.Kind
import SecurityKey.Wire.Varint

/-!
# Writing an object step by step

A `Writer` has one body for every depth, used again by each object that is open at that
depth.  A value is written under the pending key into the body of the innermost object.
When a nested object closes, its body goes length-prefixed into the body around it, under
the key that was pending when it opened, and is emptied.  That key is pending again, so
that the next element of a repeated object needs no new key.

The finished root object stays in the outermost body until it is taken.  As long as it is
there, no other root is opened.

A step that fails changes nothing.
-/

set_option autoImplicit false

namespace SecurityKey

/-! ## Encoded values -/

/-- A field with a varint value. -/
def Bytes.ofVarintField (id : UInt32) (value : Nat) : Bytes :=
  Varint.encode (WireType.varint.tag id) ++ Varint.encode value

/-- A field with a length-delimited value. -/
def Bytes.ofDelimitedField (id : UInt32) (body : Bytes) : Bytes :=
  Varint.encode (WireType.lengthDelimited.tag id) ++ Varint.encode body.length ++ body

/-- The state of writing one root object. -/
structure Writer where
  /-- The body for each depth, outermost first. -/
  bodies : Vector Bytes maximumDepth
  /-- The key that the object at each depth was opened under; at the root it is not used. -/
  keys : Vector UInt32 maximumDepth
  /-- How many objects are open. -/
  depth : Nat
  depth_le : depth ≤ maximumDepth
  /-- The key under which the next value is written. -/
  pending : Option UInt32
  /-- Whether a root object is there to be taken. -/
  finished : Bool

/-- A step of a writer. -/
abbrev Writing := EStateM Error Writer

theorem maximumDepth_pos : 0 < maximumDepth := by decide

namespace Writer

/-- A writer that has written nothing. -/
def empty : Writer where
  bodies := Vector.replicate maximumDepth []
  keys := Vector.replicate maximumDepth 0
  depth := 0
  depth_le := Nat.zero_le maximumDepth
  pending := none
  finished := false

/-! ## Values -/

/-- Sets the key of the next value. -/
def key (id : UInt32) : Writing Unit := fun writer =>
  .ok () { writer with pending := some id }

/-- Appends the field that `field` makes of the pending key to the innermost object. -/
def append (field : UInt32 → Bytes) : Writing Unit := fun writer =>
  match writer.depth, writer.depth_le, writer.pending with
  | level + 1, inside, some id =>
      let body := writer.bodies[level] ++ field id
      .ok () { writer with bodies := writer.bodies.set level body inside }
  | _, _, _ => .error (.state .valueOutsideObject) writer

/-- Writes an unsigned integer. -/
def unsigned (value : UInt64) : Writing Unit :=
  append fun id => Bytes.ofVarintField id value.toNat

/-- Refuses a signed integer, for which the format has no form yet. -/
def integer (_value : Int64) : Writing Unit := throw .signedVarint

/-- Writes a boolean. -/
def boolean (value : Bool) : Writing Unit :=
  append fun id => Bytes.ofVarintField id value.toNat

/-- Writes a text. -/
def text (value : String) : Writing Unit :=
  append fun id => Bytes.ofDelimitedField id (Bytes.ofText value)

/-- Writes a blob. -/
def blob (value : Bytes) : Writing Unit :=
  append fun id => Bytes.ofDelimitedField id value

/-- Writes the ordinal of an enumeration. -/
def ordinal (value : UInt64) : Writing Unit := unsigned value

/-- Begins an array.  Every element is a field of its own, so nothing is written. -/
def startArray : Writing Unit := pure ()

/-- Ends an array, for which nothing is written either. -/
def endArray : Writing Unit := pure ()

/-! ## Objects -/

/-- Opens an object: the root, into an empty body, or one nested under the pending key. -/
def startObject : Writing Unit := fun writer =>
  if full : writer.depth = maximumDepth then
    .error tooDeep writer
  else
    have room : writer.depth < maximumDepth := Nat.lt_of_le_of_ne writer.depth_le full
    if writer.depth = 0 then
      if writer.finished then
        .error (.state .valueOutsideObject) writer
      else
        .ok () { writer with
          bodies := writer.bodies.set 0 [] maximumDepth_pos
          depth := writer.depth + 1
          depth_le := room
          pending := none }
    else
      match writer.pending with
      | some id =>
          .ok () { writer with
            keys := writer.keys.set writer.depth id room
            depth := writer.depth + 1
            depth_le := room
            pending := none }
      | none => .error (.state .valueOutsideObject) writer

/-- Closes the innermost object. -/
def endObject : Writing Unit := fun writer =>
  match writer.depth, writer.depth_le with
  | 0, _ => .error (.state .unbalancedEnd) writer
  | 1, _ =>
      .ok () { writer with
        depth := 0
        depth_le := Nat.zero_le maximumDepth
        pending := none
        finished := true }
  | level + 2, inside =>
      have outer : level + 1 ≤ maximumDepth := Nat.le_of_succ_le inside
      let id := writer.keys[level + 1]
      let body := writer.bodies[level] ++ Bytes.ofDelimitedField id writer.bodies[level + 1]
      .ok () { writer with
        bodies := (writer.bodies.set level body outer).set (level + 1) [] inside
        depth := level + 1
        depth_le := outer
        pending := some id }

/-- Takes the finished root object. -/
def takeBytes : Writing Bytes := fun writer =>
  have positive := maximumDepth_pos
  if writer.finished ∧ writer.depth = 0 then
    .ok writer.bodies[0] { writer with
      bodies := writer.bodies.set 0 [] positive
      finished := false }
  else
    .error (.state .incompleteOutput) writer

end Writer

end SecurityKey
