import SecurityKey.Wire.Cursor

/-!
# Reading an object step by step

A `Reader` holds one view for every container that is open, innermost first.
Opening a nested container carves its body out of the view around it, so that no
step inside the container can see past its end.  Every step works on the
innermost view alone.

A step that fails leaves the reader exactly where it noticed the failure: what
was consumed stays consumed, and a start that is refused for its depth consumes
nothing.
-/

set_option autoImplicit false

namespace SecurityKey

/-- The state of reading one root object. -/
structure Reader where
  /-- The bytes of the root object, until it is opened. -/
  input : Bytes
  /-- What is left of each open container, innermost first. -/
  views : List Bytes
  /-- The wire type of the value that the last key announced. -/
  pending : Option WireType

/-- A step of a reader. -/
abbrev Reading := EStateM Error Reader

namespace Reader

/-- A reader at the start of its input. -/
def ofBytes (input : Bytes) : Reader := ⟨input, [], none⟩

/-- How many containers are open. -/
def depth (reader : Reader) : Nat := reader.views.length

/-! ## The innermost view -/

/-- Runs a scan on the innermost view. -/
def onView {α : Type} (scan : Scan α) : Reading α := fun reader =>
  match reader.views with
  | [] => .error (.state .readOutsideObject) reader
  | view :: outer =>
      match scan view with
      | .ok value rest => .ok value { reader with views := rest :: outer }
      | .error error rest => .error error { reader with views := rest :: outer }

/-- Reads a value of the pending key, in one of the wire types that the
expectation admits. -/
def value {α : Type} (expectation : Expectation) (scan : WireType → Scan α) : Reading α :=
  fun reader =>
    match reader.pending with
    | none => .error (.state .readOutsideObject) reader
    | some wire =>
        match expectation.require wire with
        | .error error => .error error reader
        | .ok () => onView (scan wire) reader

/-! ## Values -/

/-- Reads an unsigned integer. -/
def unsigned : Reading UInt64 := value .unsignedInteger Scan.unsigned

/-- Reads a signed integer. -/
def integer : Reading Int64 := value .integer Scan.integer

/-- Reads a boolean. -/
def boolean : Reading Bool := value .boolean fun _ => Scan.boolean

/-- Reads a text. -/
def text : Reading String := value .string fun _ => Scan.text

/-- Reads a blob of any size. -/
def blob : Reading Bytes := value .binary fun _ => Scan.delimited

/-- Reads a blob of exactly `size` bytes. -/
def fixedBytes (size : Nat) : Reading (FixedBytes size) :=
  value .binary fun _ => Scan.fixedBytes size

/-- Reads the ordinal of an enumeration. -/
def ordinal : Reading UInt64 := value .enumeration fun _ => Scan.ordinal

/-! ## Containers -/

/-- Opens a container: the whole input at the root, a length-delimited body below it. -/
def openContainer : Reading Unit := fun reader =>
  if reader.depth = maximumDepth then
    .error tooDeep reader
  else
    match reader.views with
    | [] => .ok () { reader with input := [], views := [reader.input] }
    | _ :: _ =>
        match value .object (fun _ => Scan.delimited) reader with
        | .ok body reader => .ok () { reader with views := body :: reader.views }
        | .error error reader => .error error reader

/-- Closes the innermost container, whose body must be used up. -/
def closeContainer : Reading Unit := fun reader =>
  match reader.views with
  | [] => .error (.state .unbalancedEnd) reader
  | [] :: outer => .ok () { reader with views := outer }
  | (_ :: _) :: _ => .error (.encoding .incompleteParse) reader

/-- Opens an object; its values need a key first. -/
def startObject : Reading Unit := do
  openContainer
  modify fun reader => { reader with pending := none }

/-- Opens a packed run; its elements are varints. -/
def startArray : Reading Unit := do
  openContainer
  modify fun reader => { reader with pending := some .varint }

/-- Closes the innermost object. -/
def endObject : Reading Unit := closeContainer

/-- Closes the innermost packed run. -/
def endArray : Reading Unit := closeContainer

/-- Whether the innermost container is used up. -/
def isArrayEnd : Reading Bool := fun reader =>
  match reader.views with
  | [] => .error (.state .readOutsideObject) reader
  | view :: _ => .ok view.isEmpty reader

/-- Whether the pending value may be a packed run. -/
def isPacked (reader : Reader) : Bool := reader.pending == some .lengthDelimited

/-- Refuses a reader that has input left or a container open. -/
def checkComplete : Reading Unit := fun reader =>
  if reader.views.isEmpty && reader.input.isEmpty then
    .ok () reader
  else
    .error (.encoding .incompleteParse) reader

/-! ## Keys -/

/-- Looks in a body for the next field whose number is known, passing over the
others.  The answer is the position of the number in `known`, or nothing at the
end of the body, together with the pending wire type and the rest. -/
def seek (known : List UInt32) (pending : Option WireType) (body : Bytes) :
    Except Error (Option Nat) × Option WireType × Bytes :=
  if body.isEmpty then
    (.ok none, none, body)
  else
    match _tagged : Scan.tag body with
    | .error error rest => (.error error, pending, rest)
    | .ok (id, wire) rest =>
        match known.idxOf? id with
        | some position => (.ok (some position), some wire, rest)
        | none =>
            match _skipped : Scan.skip wire rest with
            | .error error left => (.error error, some wire, left)
            | .ok () left => seek known (some wire) left
termination_by body.length
decreasing_by
  exact Nat.lt_of_le_of_lt (Scan.narrows_skip _ _ _ _ _skipped) (Scan.shrinks_tag _ _ _ _tagged)

/-- Goes to the next known key of the innermost object. -/
def key (known : List UInt32) : Reading (Option Nat) := fun reader =>
  match reader.views with
  | [] => .error (.state .readOutsideObject) reader
  | view :: outer =>
      match seek known reader.pending view with
      | (.ok position, pending, rest) =>
          .ok position { reader with views := rest :: outer, pending := pending }
      | (.error error, pending, rest) =>
          .error error { reader with views := rest :: outer, pending := pending }

end Reader

end SecurityKey
