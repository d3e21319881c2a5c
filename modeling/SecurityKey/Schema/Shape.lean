import SecurityKey.Bytes

/-!
# Shapes and schemas

A `Shape` says what kind of value a field holds, and a `Schema` lists the fields
of an object: a number, a name, whether the field is required, and a shape.  The
values of a shape have the type `Shape.Value`, and an object of a schema is a
`Schema.Record`, the tuple of its fields in order.  The types are computed from
the shapes, so an option of a shape is an `Option` and a repeated shape a `List`,
and no value can fail to fit its shape.

The shape `boxed` stands for a value behind an indirection.  It has the values of
what it wraps.  The shape `nest` is the one recursive object, of which trees of
any height exist; its fields are listed by `Nest.schema`.
-/

set_option autoImplicit false

namespace SecurityKey

/-! ## Enumerations -/

/-- The members of an enumeration, each with its ordinal on the wire. -/
structure Enumeration where
  members : List (UInt64 × String)

/-- A value of an enumeration: a listed member, or an ordinal that is not known. -/
inductive Enumeration.Member (enumeration : Enumeration) where
  | listed (position : Fin enumeration.members.length)
  | unknown (ordinal : UInt64)

namespace Enumeration

variable {enumeration : Enumeration}

/-- The ordinal of a value on the wire. -/
def Member.ordinal : enumeration.Member → UInt64
  | .listed position => enumeration.members[position].1
  | .unknown ordinal => ordinal

/-- The name of a value. -/
def Member.name : enumeration.Member → String
  | .listed position => enumeration.members[position].2
  | .unknown ordinal => "Unknown(" ++ toString ordinal.toNat ++ ")"

/-- The value with a given ordinal: the first member that has it, if any. -/
def ofOrdinal (enumeration : Enumeration) (ordinal : UInt64) : enumeration.Member :=
  match enumeration.members.findFinIdx? fun member => member.1 == ordinal with
  | some position => .listed position
  | none => .unknown ordinal

end Enumeration

/-! ## Shapes -/

mutual
/-- The kind of value that a field holds. -/
inductive Shape where
  | u32
  | u64
  | i32
  | i64
  | boolean
  | text
  | blob
  | fixed (size : Nat)
  | enumeration (table : Enumeration)
  | optional (item : Shape)
  | repeated (item : Shape)
  | boxed (item : Shape)
  | object (schema : Schema)
  | nest

/-- The fields of an object, in order. -/
inductive Schema where
  | nil
  | field (id : UInt32) (name : String) (required : Bool) (shape : Shape) (others : Schema)
end

namespace Schema

/-- The schema that begins with a required field. -/
abbrev required (id : UInt32) (name : String) (shape : Shape) (others : Schema) : Schema :=
  .field id name true shape others

/-- The schema that begins with a field that may be absent. -/
abbrev optional (id : UInt32) (name : String) (shape : Shape) (others : Schema) : Schema :=
  .field id name false shape others

/-- The numbers of the fields, in order. -/
def ids : Schema → List UInt32
  | .nil => []
  | .field id _ _ _ others => id :: others.ids

/-- The names of the fields, in order. -/
def names : Schema → List String
  | .nil => []
  | .field _ name _ _ others => name :: others.names

end Schema

/-! ## Values -/

/-- The recursive object: a node with a level and a tag, which may have a child of
its own kind and any number of kids of its own kind. -/
structure Nest where
  level : UInt32
  child : Option Nest
  kids : List Nest
  tag : String

mutual
/-- The type of the values of a shape. -/
def Shape.Value : Shape → Type
  | .u32 => UInt32
  | .u64 => UInt64
  | .i32 => Int32
  | .i64 => Int64
  | .boolean => Bool
  | .text => String
  | .blob => Bytes
  | .fixed size => FixedBytes size
  | .enumeration table => table.Member
  | .optional item => Option item.Value
  | .repeated item => List item.Value
  | .boxed item => item.Value
  | .object schema => schema.Record
  | .nest => Nest

/-- The type of the objects of a schema: the values of its fields, in order. -/
def Schema.Record : Schema → Type
  | .nil => Unit
  | .field _ _ _ shape others => shape.Value × others.Record
end

mutual
/-- The value that a field has before anything is read into it. -/
def Shape.blank : (shape : Shape) → shape.Value
  | .u32 => (0 : UInt32)
  | .u64 => (0 : UInt64)
  | .i32 => (0 : Int32)
  | .i64 => (0 : Int64)
  | .boolean => false
  | .text => ""
  | .blob => ([] : Bytes)
  | .fixed size => FixedBytes.zero size
  | .enumeration _ => Enumeration.Member.unknown 0
  | .optional _ => none
  | .repeated _ => []
  | .boxed item => item.blank
  | .object schema => schema.blank
  | .nest => Nest.mk 0 none [] ""

/-- The object before anything is read into it. -/
def Schema.blank : (schema : Schema) → schema.Record
  | .nil => ()
  | .field _ _ _ shape others => (shape.blank, others.blank)
end

/-! ## The recursive object -/

namespace Nest

/-- The fields of the recursive object. -/
def schema : Schema :=
  .required 1 "level" .u32 <|
  .optional 2 "child" (.optional (.boxed .nest)) <|
  .optional 3 "kids" (.repeated .nest) <|
  .optional 4 "tag" .text .nil

/-- The fields of a node as a tuple. -/
def toRecord (nest : Nest) : schema.Record :=
  (nest.level, nest.child, nest.kids, nest.tag, ())

/-- The node with the given fields. -/
def ofRecord : schema.Record → Nest
  | (level, child, kids, tag, ()) => ⟨level, child, kids, tag⟩

theorem ofRecord_toRecord (nest : Nest) : ofRecord nest.toRecord = nest := by
  cases nest
  rfl

end Nest

/-! ## Properties of shapes -/

/-- Whether a length-delimited occurrence of a repeated shape is a packed run of its
items, rather than one item. -/
def Shape.packable : Shape → Bool
  | .u32 | .u64 | .boolean => true
  | _ => false

/-- Whether an optional field with this value is written. -/
def Shape.isPresent : (shape : Shape) → shape.Value → Bool
  | .text, (value : String) => !value.isEmpty
  | .blob, (value : Bytes) => !value.isEmpty
  | .optional _, (value : Option _) => value.isSome
  | .repeated _, (value : List _) => !value.isEmpty
  | .boxed item, value => item.isPresent value
  | _, _ => true

end SecurityKey
