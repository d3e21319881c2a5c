/-!
# Log records

A record says that something has happened: how grave it is, which part of the program
noticed it, one sentence, and the values that belong to it.  It may hold what the device
said.  Spans are the activities that it happened in; their values belong to every record
inside.

A journal holds what a run has to tell, in order: records for the log, and lines for the
user, which no log settings hide.
-/

set_option autoImplicit false

namespace SecurityKey.Log

/-! ## Levels -/

/-- How grave a record is, the gravest first. -/
inductive Level where
  | error
  | warn
  | info
  | debug
  | trace
  deriving DecidableEq, Repr

/-- The place of a level, the gravest first. -/
def Level.rank : Level → Nat
  | .error => 1
  | .warn => 2
  | .info => 3
  | .debug => 4
  | .trace => 5

/-- The name of a level. -/
def Level.name : Level → String
  | .error => "ERROR"
  | .warn => "WARN"
  | .info => "INFO"
  | .debug => "DEBUG"
  | .trace => "TRACE"

/-! ## Values -/

/-- A value that a record names. -/
inductive Value where
  | flag (value : Bool)
  | number (value : Nat)
  /-- A text that is written as it is. -/
  | text (value : String)
  /-- A text that is written between quotes. -/
  | quoted (value : String)
  deriving DecidableEq, Repr

/-- A value with its name. -/
structure Field where
  name : String
  value : Value
  deriving DecidableEq, Repr

/-! ## Spans and records -/

/-- An activity in which records are made. -/
structure Span where
  level : Level
  /-- The part of the program that it belongs to. -/
  target : String
  name : String
  fields : List Field
  deriving DecidableEq, Repr

/-- Something that has happened. -/
structure Record where
  /-- The activities that it happened in, the outermost first. -/
  scope : List Span
  level : Level
  /-- The part of the program that noticed it. -/
  target : String
  sentence : String
  fields : List Field
  /-- What the device said. -/
  said : Option String
  deriving DecidableEq, Repr

/-! ## Journals -/

/-- Something that a run has to tell. -/
inductive Remark where
  /-- A line for the user. -/
  | line (text : String)
  /-- A record for the log. -/
  | logged (record : Record)
  deriving DecidableEq, Repr

/-- What a run has to tell, in order. -/
abbrev Journal := List Remark

/-- A record in an activity. -/
def Record.within (span : Span) (record : Record) : Record :=
  { record with scope := span :: record.scope }

/-- A remark in an activity.  The user does not see activities. -/
def Remark.within (span : Span) : Remark → Remark
  | .line text => .line text
  | .logged record => .logged (record.within span)

end SecurityKey.Log
