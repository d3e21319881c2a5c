import SecurityKey.Log.Record
import SecurityKey.Text.Quoted

/-!
# Log lines

A record is written as a line for readers or as an object.  The text of a device may hold
anything.  In a line for readers its line breaks are kept, so that the record may take
several lines, and the other characters that a terminal could take for a command are
spelled out.

The time is not part of a line; it is left to whoever writes it.
-/

set_option autoImplicit false

namespace SecurityKey.Log

/-- How the records of a log are written. -/
structure LineFormat where
  /-- Whether a record is an object. -/
  object : Bool
  /-- Whether a line has colours and other styles. -/
  styled : Bool
  /-- Whether the target of a record is shown. -/
  showTarget : Bool
  deriving DecidableEq, Repr

/-! ## Styles -/

/-- What makes a part of a line stand out. -/
inductive Style where
  | bold
  | dimmed
  | slanted
  | level (level : Level)

/-- The number of a style on a terminal. -/
def Style.number : Style → Nat
  | .bold => 1
  | .dimmed => 2
  | .slanted => 3
  | .level .error => 31
  | .level .warn => 33
  | .level .info => 32
  | .level .debug => 34
  | .level .trace => 35

/-- A text in a style, if there are any. -/
def Style.paint (styled : Bool) (style : Style) (text : String) : String :=
  if styled then "\x1b[" ++ toString style.number ++ "m" ++ text ++ "\x1b[0m" else text

/-! ## Lines for readers -/

/-- A value in a line. -/
def Value.shown : Value → String
  | .flag value => toString value
  | .number value => toString value
  | .text value => value
  | .quoted value => Quoted.legible value

/-- A value with its name. -/
def Field.shown (styled : Bool) (field : Field) : String :=
  Style.slanted.paint styled field.name ++ Style.dimmed.paint styled "=" ++ field.value.shown

/-- A span in front of a record. -/
def Span.shown (styled : Bool) (span : Span) : String :=
  let fields := " ".intercalate (span.fields.map (Field.shown styled))
  let braced := Style.bold.paint styled "\x7b" ++ fields ++ Style.bold.paint styled "\x7d"
  Style.bold.paint styled span.name ++ (if span.fields.isEmpty then "" else braced) ++
    Style.dimmed.paint styled ":"

/-- A character of what a device said: escape, bell, backspace, form feed, delete and the
control characters above them are spelled out. -/
def saidChar (char : Char) : List Char :=
  let number := char.toNat
  if [0x07, 0x08, 0x0c, 0x1b, 0x7f].contains number then
    '\\' :: 'x' :: Quoted.hexDigits 2 number
  else if 0x80 ≤ number && number < 0xa0 then
    Quoted.numbered char
  else
    [char]

/-- The name of a level, as long as the longest one. -/
def Level.shown (styled : Bool) (level : Level) : String :=
  (Style.level level).paint styled
    (String.ofList (List.replicate (5 - level.name.length) ' ') ++ level.name)

/-- A record as a line for readers. -/
def Record.text (format : LineFormat) (record : Record) : String :=
  let styled := format.styled
  let spans := String.join (record.scope.map (Span.shown styled))
  let target :=
    Style.dimmed.paint styled record.target ++ Style.dimmed.paint styled ":" ++ " "
  let said := record.said.map fun text => String.ofList (text.toList.flatMap saidChar)
  record.level.shown styled ++ " " ++
    (if record.scope.isEmpty then "" else spans ++ " ") ++
    (if format.showTarget then target else "") ++
    " ".intercalate (record.sentence :: record.fields.map (Field.shown styled) ++ said.toList)

/-! ## Objects -/

/-- An object of values that are written already. -/
def object (values : List (String × String)) : String :=
  "\x7b" ++ ",".intercalate (values.map fun value => Quoted.object value.1 ++ ":" ++ value.2) ++
    "\x7d"

/-- A value in an object. -/
def Value.inObject : Value → String
  | .flag value => toString value
  | .number value => toString value
  | .text value | .quoted value => Quoted.object value

/-- Fields in an object, in the order of their names. -/
def fieldValues (fields : List Field) : List (String × String) :=
  (fields.mergeSort fun first second => decide (first.name ≤ second.name)).map fun field =>
    (field.name, field.value.inObject)

/-- A span as an object. -/
def Span.object (span : Span) : String :=
  Log.object (fieldValues span.fields ++ [("name", Quoted.object span.name)])

/-- A record as an object, which takes one line.  Its message is what the device said, if it
said something. -/
def Record.object (format : LineFormat) (record : Record) : String :=
  let message : Field := ⟨"message", .text (record.said.getD record.sentence)⟩
  let target := if format.showTarget then [("target", Quoted.object record.target)] else []
  let spans := match record.scope.getLast? with
    | none => []
    | some span => [
        ("span", span.object),
        ("spans", "[" ++ ",".intercalate (record.scope.map Span.object) ++ "]")]
  Log.object ([
    ("level", Quoted.object record.level.name),
    ("fields", Log.object (fieldValues (message :: record.fields)))] ++ target ++ spans)

/-- A record as it is written. -/
def Record.written (format : LineFormat) (record : Record) : String :=
  if format.object then record.object format else record.text format

end SecurityKey.Log
