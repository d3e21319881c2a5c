/-!
# TOML values

What a TOML document can hold.  Fractional numbers and moments in time are kept as they
were written, because nothing here computes with them.  A table is a list of keys and
values, in which no key occurs twice.
-/

set_option autoImplicit false

namespace SecurityKey.Toml

/-- A value of a document. -/
inductive Value where
  | string (text : String)
  | integer (number : Int)
  | fraction (written : String)
  | boolean (flag : Bool)
  | moment (written : String)
  | array (items : List Value)
  | table (entries : List (String × Value))

/-- The value at a key of a list of entries. -/
def find? (key : String) (entries : List (String × Value)) : Option Value :=
  entries.findSome? fun entry => if entry.1 = key then some entry.2 else none

/-- What a value is, in messages. -/
def Value.kind : Value → String
  | .string _ => "string"
  | .integer _ => "integer"
  | .fraction _ => "float"
  | .boolean _ => "boolean"
  | .moment _ => "datetime"
  | .array _ => "array"
  | .table _ => "table"

end SecurityKey.Toml
