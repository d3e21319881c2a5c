import SecurityKey.Toml.Number
import SecurityKey.Toml.Table
import SecurityKey.Toml.Text

/-!
# Documents

A document is a sequence of lines: comments, headers and keys with values.  A header names
the table that the keys after it belong to, and a header in double brackets begins the next
table of a series.  `Value.parse` gives the table that a document describes.

Arrays and tables in braces may be nested to a fixed depth.
-/

set_option autoImplicit false

namespace SecurityKey.Toml

namespace Scanner

/-! ## Values -/

/-- Takes the items of an array, after the bracket that opens it. -/
def arrayItems (item : Scanner Value) : Scanner (List Value) := do
  gap
  if ← accept [']'] then
    return []
  repeatWhile do
    let value ← item
    gap
    if ← accept [','] then
      gap
      return (value, !(← accept [']']))
    else
      expect ']'
      return (value, false)

/-- Takes a key, the equals sign and a value. -/
def entry (item : Scanner Value) : Scanner ((List String × String) × Value) := do
  let key ← key
  expect '='
  blanks
  return (key, ← item)

/-- Takes the entries of a table in braces, after the brace that opens it. -/
def braceEntries (item : Scanner Value) : Scanner (List ((List String × String) × Value)) := do
  blanks
  if ← accept ['\x7d'] then
    return []
  repeatWhile do
    let entry ← entry item
    blanks
    if ← accept [','] then
      return (entry, true)
    else
      expect '\x7d'
      return (entry, false)

/-- The table in braces that has some entries. -/
def ofEntries (entries : List ((List String × String) × Value)) : Except Fault Value := do
  let table ← entries.foldlM
    (fun table entry => table.insert entry.1.1 entry.1.2 entry.2) (Table.empty .declared)
  return table.close

/-- Takes a word that has to come next. -/
def word (chars : List Char) (value : Value) : Scanner Value := do
  if ← accept chars then
    return value
  throw (.expected (String.ofList chars))

/-- Takes a value; `inner` takes a value that is nested in it, if there may be one. -/
def valueWith (inner : Option (Scanner Value)) : Scanner Value := do
  match ← peek with
  | some '\x22' => .string <$> Quoting.basic.anyText
  | some '\x27' => .string <$> Quoting.literal.anyText
  | some '[' =>
      match inner with
      | none => throw .tooDeep
      | some inner =>
          expect '['
          .array <$> arrayItems inner
  | some '\x7b' =>
      match inner with
      | none => throw .tooDeep
      | some inner =>
          expect '\x7b'
          let entries ← braceEntries inner
          match ofEntries entries with
          | .ok value => return value
          | .error fault => throw fault
  | some 't' => word "true".toList (.boolean true)
  | some 'f' => word "false".toList (.boolean false)
  | some char =>
      if char.isDigit ∨ char ∈ ['+', '-', 'i', 'n'] then
        numberOrMoment
      else
        throw (.expected "value")
  | none => throw (.expected "value")

/-- Takes a value in which arrays and tables are nested to a depth. -/
def value : (depth : Nat) → Scanner Value
  | 0 => valueWith none
  | depth + 1 => valueWith (some (value depth))

/-- How deep arrays and tables may be nested. -/
def maximumDepth : Nat := 79

end Scanner

/-! ## What has been read -/

/-- What has been read of a document. -/
structure Draft where
  root : Table
  /-- The table that keys belong to. -/
  current : List String

namespace Draft

/-- Nothing has been read. -/
def empty : Draft := ⟨Table.empty .declared, []⟩

/-- Adds a key with a value. -/
def insert (key : List String × String) (value : Value) (draft : Draft) :
    Except Fault Draft := do
  let root ← draft.root.atPath false (Table.insert key.1 key.2 value) draft.current
  return { draft with root }

/-- Adds a header, of a series if `series` says so. -/
def header (series : Bool) (key : List String × String) (draft : Draft) :
    Except Fault Draft := do
  let root ← if series then draft.root.append key.1 key.2 else draft.root.declare key.1 key.2
  return ⟨root, key.1 ++ [key.2]⟩

end Draft

/-! ## Lines -/

namespace Scanner

/-- A result that was computed without scanning. -/
def lift {α : Type} (result : Except Fault α) : Scanner α := fun chars =>
  match result with
  | .ok value => .ok (value, chars)
  | .error fault => .error fault

/-- Takes a line with a header. -/
def headerLine (draft : Draft) : Scanner Draft := do
  expect '['
  let series ← accept ['[']
  let key ← key
  expect ']'
  if series then
    expect ']'
  lineEnd
  lift (draft.header series key)

/-- Takes a line with a key and a value. -/
def entryLine (draft : Draft) : Scanner Draft := do
  let (key, value) ← entry (value maximumDepth)
  lineEnd
  lift (draft.insert key value)

/-- Takes the lines of a document, at most `bound` of them. -/
def lines : (bound : Nat) → Draft → Scanner Draft
  | 0, _ => throw (.expected "less")
  | bound + 1, draft => do
      blanks
      match ← peek with
      | none => return draft
      | some '\n' | some '\r' =>
          newline
          lines bound draft
      | some '#' =>
          lineEnd
          lines bound draft
      | some '[' => do
          let draft ← headerLine draft
          lines bound draft
      | some _ => do
          let draft ← entryLine draft
          lines bound draft

/-- Takes a whole document.  A byte order mark may begin it. -/
def document : Scanner Draft := fun chars =>
  let chars := if chars.head? = some '\ufeff' then chars.tail else chars
  lines (chars.length + 1) Draft.empty chars

end Scanner

/-- The table that a document describes. -/
def Value.parse (text : String) : Except Fault Value := do
  let (draft, _) ← Scanner.document text.toList
  return draft.root.close

end SecurityKey.Toml
