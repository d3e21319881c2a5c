import SecurityKey.Log.Record
import SecurityKey.Pattern.Reader
import SecurityKey.Pattern.Search

/-!
# Log filters

A filter decides which records a log shows.  It is written as directives with commas
between them.  A directive is a level, or names what it is about and then the level:
targets that begin with a text, in brackets the name of a span, and in braces a field
that is there, with a value that it has.

What a directive says about targets and fields holds for the records with such a target
and such a field, and of two directives the more specific one decides.  What it says
about spans and their fields holds for all records inside such a span, and there the more
verbose one decides.

What is shown is the record itself in some of its spans.
-/

set_option autoImplicit false

namespace SecurityKey.Log

/-! ## Verbosity -/

/-- How many of the levels are shown: none at 0, only the gravest at 1, all at 5. -/
abbrev Verbosity := Nat

/-- The verbosity that shows everything. -/
def Verbosity.all : Verbosity := 5

/-- The verbosity that a text names.  No text names the gravest level. -/
def Verbosity.ofText? (text : String) : Option Verbosity :=
  match (Literal.word? text).map UInt64.toNat, text.toLower with
  | some number, _ => if number ≤ Verbosity.all then some number else none
  | none, "off" => some 0
  | none, "" | none, "error" => some Level.error.rank
  | none, "warn" => some Level.warn.rank
  | none, "info" => some Level.info.rank
  | none, "debug" => some Level.debug.rank
  | none, "trace" => some Level.trace.rank
  | none, _ => none

/-! ## Fields -/

/-- What the value of a field has to be. -/
inductive ValueTest where
  | flag (value : Bool)
  | number (value : Nat)
  /-- A number that is no value of a field. -/
  | otherNumber (text : String)
  /-- A text that fits a pattern, which is spelled like this. -/
  | text (spelling : String) (pattern : Pattern)
  deriving DecidableEq, Repr

/-- The test that a text spells. -/
def ValueTest.ofText? (text : String) : Option ValueTest :=
  match Literal.flag? text, Literal.word? text with
  | some value, _ => some (.flag value)
  | none, some value => some (.number value.toNat)
  | none, none =>
      if Literal.isDecimal text then some (.otherNumber text)
      else (Pattern.ofText? text).map (.text text)

/-- Whether a value passes a test. -/
def ValueTest.accepts : ValueTest → Value → Bool
  | .flag expected, .flag value => expected == value
  | .number expected, .number value => expected == value
  | .text _ pattern, .text value | .text _ pattern, .quoted value => pattern.fits value
  | _, _ => false

/-- A field that has to be there, and what its value has to be. -/
structure FieldTest where
  name : String
  value : Option ValueTest
  deriving DecidableEq, Repr

namespace FieldTest

/-- The test that a text spells: a name, and behind an equals sign a value. -/
def ofText? (text : String) : Option FieldTest :=
  match text.splitOn "=" with
  | name :: value :: _ => (ValueTest.ofText? value).map fun value => ⟨name, some value⟩
  | _ => some ⟨text, none⟩

/-- Whether some fields have the value of a test. -/
def accepts (test : FieldTest) (fields : List Field) : Bool :=
  test.value.all fun value =>
    fields.any fun field => field.name == test.name && value.accepts field.value

end FieldTest

/-! ## Directives -/

/-- What a filter says about some records. -/
structure Directive where
  /-- What the target begins with. -/
  target : Option String
  /-- The name of a span. -/
  span : Option String
  /-- A field. -/
  field : Option FieldTest
  verbosity : Verbosity
  deriving DecidableEq, Repr

namespace Directive

/-- A directive about everything. -/
def everything (verbosity : Verbosity) : Directive := ⟨none, none, none, verbosity⟩

/-- Whether a directive is about a target. -/
def isAbout (target : String) (directive : Directive) : Bool :=
  directive.target.all fun start => start.toList.isPrefixOf target.toList

/-- Whether a directive speaks of the records themselves. -/
def ofRecords (directive : Directive) : Bool :=
  directive.span.isNone && directive.field.all fun field => field.value.isNone

/-- Whether a directive speaks of the records inside some spans. -/
def ofSpans (directive : Directive) : Bool := directive.span.isSome || directive.field.isSome

/-- Whether two directives speak of the same. -/
def sameSubject (first second : Directive) : Bool :=
  first.target == second.target && first.span == second.span && first.field == second.field

/-- Whether a directive is at least as specific as another: its target is longer, or it
names a field and the other does not.  Of two names the later one in order decides. -/
def isAsSpecific (first second : Directive) : Bool :=
  let name := fun directive : Directive => directive.field.elim "" fun field => field.name
  ((compare (first.target.map String.length) (second.target.map String.length)).then
    ((compare first.field.isSome.toNat second.field.isSome.toNat).then
      (compare (name first) (name second)))).isGE

end Directive

/-! ## Reading a directive -/

/-- The part of a directive that is being read, with what has been read of it. -/
inductive Part where
  | start
  /-- A target, or a level alone. -/
  | head (piece : List Char)
  | span (piece : List Char)
  | field (piece : List Char)
  | fieldEnd
  | spanEnd
  | level (piece : List Char)
  deriving DecidableEq, Repr

/-- How far the reading of a directive is. -/
structure Reading where
  directive : Directive
  part : Part
  deriving DecidableEq, Repr

namespace Reading

/-- Nothing has been read. -/
def begin : Reading := ⟨.everything Verbosity.all, .start⟩

/-- Whether a target may begin with a character. -/
def startsTarget (char : Char) : Bool :=
  Category.alphanumeric.contains char || ['-', ':', '_'].contains char

/-- Goes on by one character.  `mark` decides what is read, and `piece` is kept of it. -/
def step (reading : Reading) (mark piece : Char) : Option Reading :=
  let directive := reading.directive
  match reading.part, mark with
  | .start, '[' => some ⟨directive, .span []⟩
  | .start, mark => if startsTarget mark then some ⟨directive, .head [piece]⟩ else none
  | .head target, '=' => some ⟨{ directive with target := some (.ofList target) }, .level []⟩
  | .head target, '[' => some ⟨{ directive with target := some (.ofList target) }, .span []⟩
  | .head target, _ => some ⟨directive, .head (target ++ [piece])⟩
  | .span name, ']' => some ⟨{ directive with span := some (.ofList name) }, .spanEnd⟩
  | .span [], '\x7b' => some ⟨directive, .field []⟩
  | .span name, '\x7b' => some ⟨{ directive with span := some (.ofList name) }, .field []⟩
  | .span name, _ => some ⟨directive, .span (name ++ [piece])⟩
  | .field [], '\x7d' => none
  | .field text, '\x7d' =>
      (FieldTest.ofText? (.ofList text)).map fun test =>
        ⟨{ directive with field := some test }, .fieldEnd⟩
  | .field text, _ => some ⟨directive, .field (text ++ [piece])⟩
  | .fieldEnd, ']' => some ⟨directive, .spanEnd⟩
  | .spanEnd, '=' => some ⟨directive, .level []⟩
  | .level text, _ => some ⟨directive, .level (text ++ [piece])⟩
  | .fieldEnd, _ | .spanEnd, _ => none

/-- The directive that has been read before the last characters, which are no marks. -/
def finish (reading : Reading) (last : List Char) : Option Directive :=
  let directive := reading.directive
  match reading.part with
  | .head piece =>
      let text := String.ofList (piece ++ last)
      match Verbosity.ofText? text with
      | some verbosity => some { directive with verbosity }
      | none => some { directive with target := some text }
  | .level piece =>
      let text := String.ofList (piece ++ last)
      if text.isEmpty then some directive
      else (Verbosity.ofText? text).map fun verbosity => { directive with verbosity }
  | .spanEnd => some directive
  | .start | .span _ | .field _ | .fieldEnd => none

end Reading

/-- The directive that a text spells.  Blanks around it are no marks; the pieces are cut
from the whole text at the places that the marks have without them. -/
def Directive.ofText? (text : String) : Option Directive := do
  let pieces := text.toList
  let marks := Blank.trimList pieces
  let reading ← (marks.zip pieces).foldlM (fun reading char => reading.step char.1 char.2)
    Reading.begin
  reading.finish (pieces.drop marks.length)

/-! ## Filters -/

/-- Directives, in the order in which they are written. -/
structure Filter where
  directives : List Directive
  deriving DecidableEq, Repr

namespace Filter

/-- The filter that a text spells.  Without directives only the gravest level is shown. -/
def ofText? (text : String) : Option Filter :=
  match (text.splitOn ",").filter fun piece => !piece.isEmpty with
  | [] => some ⟨[.everything Level.error.rank]⟩
  | pieces => (pieces.mapM Directive.ofText?).map .mk

/-- The most specific of some directives; of two that are the same, the later one. -/
def mostSpecific (directives : List Directive) : Option Directive :=
  directives.foldl (fun best directive =>
    if best.all directive.isAsSpecific then some directive else best) none

/-- How verbose a filter is about something, whatever span it is in. -/
def verbosity (filter : Filter) (applies : Directive → Bool) : Verbosity :=
  (mostSpecific (filter.directives.filter fun directive =>
    directive.ofRecords && applies directive)).elim 0 Directive.verbosity

/-- How verbose a filter is about a record, whatever span it is in. -/
def recordVerbosity (filter : Filter) (record : Record) : Verbosity :=
  filter.verbosity fun directive =>
    directive.isAbout record.target && directive.field.all fun field =>
      field.name == "message" || record.fields.any fun other => other.name == field.name

/-- Directives without those that a later one about the same replaces. -/
def latest : List Directive → List Directive
  | [] => []
  | directive :: rest =>
      if rest.any directive.sameSubject then latest rest else directive :: latest rest

/-- The directives about the records inside a span. -/
def spanDirectives (filter : Filter) (span : Span) : List Directive :=
  (latest (filter.directives.filter Directive.ofSpans)).filter fun directive =>
    directive.isAbout span.target && directive.span.all (· == span.name) &&
      directive.field.all fun field => span.fields.any fun other => other.name == field.name

/-- The verbosity beyond which nothing is looked at.  Everything is, if the value of a
field may decide. -/
def limit (filter : Filter) : Verbosity :=
  if filter.directives.any fun directive =>
      directive.field.any fun field => field.value.isSome then
    Verbosity.all
  else
    (filter.directives.map Directive.verbosity).foldl max 0

/-- The spans around a record that the log shows, and how verbose they make it. -/
structure Surrounding where
  spans : List Span
  verbosity : Verbosity
  deriving DecidableEq, Repr

/-- Goes into a span.  A directive about it counts if it has the value that is asked for;
the span itself is shown in any case. -/
def enter (filter : Filter) (outer : Surrounding) (span : Span) : Surrounding :=
  let directives := filter.spanDirectives span
  let rank := span.level.rank
  if rank ≤ filter.limit && (!directives.isEmpty || rank ≤ outer.verbosity ||
      rank ≤ filter.verbosity (Directive.isAbout span.target)) then
    let accepting := directives.filter fun directive =>
      directive.field.all fun field => field.accepts span.fields
    ⟨outer.spans ++ [span], (accepting.map Directive.verbosity).foldl max outer.verbosity⟩
  else
    outer

/-- The record as the log shows it, if it does: in the spans that it shows. -/
def view? (filter : Filter) (record : Record) : Option Record :=
  let surrounding := record.scope.foldl filter.enter ⟨[], 0⟩
  let rank := record.level.rank
  if rank ≤ filter.limit && (rank ≤ surrounding.verbosity ||
      rank ≤ filter.recordVerbosity record) then
    some { record with scope := surrounding.spans }
  else
    none

end Filter

end SecurityKey.Log
