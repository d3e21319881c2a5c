import SecurityKey.Toml.Scanner
import SecurityKey.Toml.Value

/-!
# Tables under construction

A document says what its tables hold piece by piece, and not every table may be added to
in every way.  How a table came about decides that: its `Origin`.  A table with a header of
its own must not get a second one and must not be added to by dotted keys from outside; a
table that only occurred on the way to another one may still get its header; a table that
dotted keys made is closed to headers of its own.

A table is a list of slots, where a slot holds a value, a table that may still grow, or a
series of tables of which the last one may still grow.  `Table.insert`, `Table.declare` and
`Table.append` are the three ways to add to a table, and `Table.close` gives the finished
value.
-/

set_option autoImplicit false

namespace SecurityKey.Toml

/-- How a table came about. -/
inductive Origin where
  /-- It has a header, or it is the whole document, or it is written in braces. -/
  | declared
  /-- It lies on the way to a table with a header. -/
  | implied
  /-- It lies on the way of a dotted key. -/
  | dotted
  deriving DecidableEq, Repr

mutual
/-- A table that may still grow. -/
inductive Table where
  | mk (origin : Origin) (slots : Slots)

/-- The slots of a table, each under its key. -/
inductive Slots where
  | nil
  | cons (key : String) (slot : Slot) (rest : Slots)

/-- What a key of a growing table holds. -/
inductive Slot where
  | value (value : Value)
  | table (table : Table)
  /-- A series of tables, of which only the last one may grow. -/
  | series (earlier : List Value) (last : Table)
end

/-! ## Slots -/

namespace Slots

/-- The slot at a key. -/
def find? (key : String) : Slots → Option Slot
  | .nil => none
  | .cons other slot rest => if other = key then some slot else find? key rest

/-- The slots with another slot at a key. -/
def set (key : String) (slot : Slot) : Slots → Slots
  | .nil => .cons key slot .nil
  | .cons other old rest =>
      if other = key then .cons key slot rest else .cons other old (set key slot rest)

end Slots

namespace Table

/-- How a table came about. -/
def origin : Table → Origin
  | .mk origin _ => origin

/-- The slots of a table. -/
def slots : Table → Slots
  | .mk _ slots => slots

/-- A table without slots. -/
def empty (origin : Origin) : Table := .mk origin .nil

/-! ## Growing -/

/-- Changes the table at the end of a path.  Tables that are missing on the way are made;
`dotted` says whether the path is one of a dotted key, which must not lead through tables
that have a header. -/
def atPath (dotted : Bool) (change : Table → Except Fault Table) :
    List String → Table → Except Fault Table
  | [], table => change table
  | key :: path, .mk origin slots =>
      match slots.find? key with
      | none => do
          let table ← atPath dotted change path (empty (if dotted then .dotted else .implied))
          return .mk origin (slots.set key (.table table))
      | some (.value _) => throw (.notATable key)
      | some (.series earlier last) => do
          let last ← atPath dotted change path last
          return .mk origin (slots.set key (.series earlier last))
      | some (.table table) => do
          if dotted ∧ table.origin = .declared then
            throw (.duplicateKey key)
          let table ← atPath dotted change path table
          return .mk origin (slots.set key (.table table))

/-- Puts a value at a key that is free. -/
def put (key : String) (value : Value) : Table → Except Fault Table
  | .mk origin slots =>
      match slots.find? key with
      | none => .ok (.mk origin (slots.set key (.value value)))
      | some _ => .error (.duplicateKey key)

/-- Puts a value at a dotted key.  The table that gets the value has to be the one where
the key begins, or one that dotted keys have made. -/
def insert (path : List String) (key : String) (value : Value) : Table → Except Fault Table :=
  atPath true (fun table =>
    if path ≠ [] ∧ table.origin ≠ .dotted then .error (.duplicateKey key)
    else put key value table) path

/-- Gives a table its header. -/
def declare (path : List String) (key : String) : Table → Except Fault Table :=
  atPath false (fun table =>
    match table.slots.find? key with
    | none => .ok (.mk table.origin (table.slots.set key (.table (empty .declared))))
    | some (.table (.mk .implied slots)) =>
        .ok (.mk table.origin (table.slots.set key (.table (.mk .declared slots))))
    | some _ => .error (.duplicateKey key)) path

/-! ## Finished tables -/

mutual
/-- The finished value of a table. -/
def close : Table → Value
  | .mk _ slots => .table (closeSlots slots)

/-- The finished entries of some slots. -/
def closeSlots : Slots → List (String × Value)
  | .nil => []
  | .cons key slot rest => (key, closeSlot slot) :: closeSlots rest

/-- The finished value of a slot. -/
def closeSlot : Slot → Value
  | .value value => value
  | .table table => close table
  | .series earlier last => .array (earlier ++ [close last])
end

/-- Begins the next table of a series. -/
def append (path : List String) (key : String) : Table → Except Fault Table :=
  atPath false (fun table =>
    match table.slots.find? key with
    | none => .ok (.mk table.origin (table.slots.set key (.series [] (empty .declared))))
    | some (.series earlier last) =>
        .ok (.mk table.origin
          (table.slots.set key (.series (earlier ++ [close last]) (empty .declared))))
    | some _ => .error (.duplicateKey key)) path

end Table

end SecurityKey.Toml
