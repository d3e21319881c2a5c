import SecurityKey.Toml.Text
import SecurityKey.Toml.Value

/-!
# Writing documents

A document that is written consists of sections: a header and keys with single values.

Text is written in the plainest of the four kinds of quotes that can hold it: the chain in
`TextForm.choose`.  Only when none can hold the text as it stands are characters escaped
that are not printable.
-/

set_option autoImplicit false

namespace SecurityKey.Toml

/-! ## Which quotes -/

/-- What matters about a text for the choice of quotes. -/
structure TextTraits where
  /-- The longest row of single quotes. -/
  singleQuotes : Nat
  /-- The longest row of double quotes. -/
  doubleQuotes : Nat
  /-- Whether there is a character that cannot be written as it is. -/
  unprintable : Bool
  backslash : Bool
  newline : Bool
  deriving DecidableEq, Repr

namespace TextTraits

/-- The length of the longest row of a character, where `current` have come directly before. -/
def longestRow (char : Char) : (current : Nat) → List Char → Nat
  | current, [] => current
  | current, other :: rest =>
      if other = char then longestRow char (current + 1) rest
      else max current (longestRow char 0 rest)

/-- What matters about a text. -/
def ofChars (chars : List Char) : TextTraits where
  singleQuotes := longestRow '\x27' 0 chars
  doubleQuotes := longestRow '\x22' 0 chars
  unprintable := chars.any fun char => char != '\n' && !Scanner.isPrintable char
  backslash := chars.contains '\\'
  newline := chars.contains '\n'

end TextTraits

/-- The kind of quotes for a text. -/
def Quoting.choose (traits : TextTraits) : Quoting :=
  if !traits.unprintable && !traits.backslash && traits.doubleQuotes == 0 && !traits.newline then
    .basic
  else if !traits.unprintable && traits.singleQuotes == 0 && !traits.newline then
    .literal
  else if !traits.unprintable && !traits.backslash && traits.doubleQuotes ≤ 2 then
    Quoting.basic.overLines
  else if !traits.unprintable && traits.singleQuotes ≤ 2 then
    Quoting.literal.overLines
  else if traits.newline then
    Quoting.basic.overLines
  else
    .basic

/-! ## Escape sequences -/

/-- A hexadecimal digit. -/
def hexDigit (value : Nat) : Char :=
  if value < 10 then Char.ofNat ('0'.toNat + value) else Char.ofNat ('A'.toNat + value - 10)

/-- The escape sequence with four digits for a character. -/
def codePointEscape (char : Char) : List Char :=
  let code := char.toNat
  ['\\', 'u', hexDigit (code / 4096 % 16), hexDigit (code / 256 % 16), hexDigit (code / 16 % 16),
    hexDigit (code % 16)]

/-- The escape sequence for a character, if it needs one; a double quote never does. -/
def escaped? (multiline : Bool) (char : Char) : Option (List Char) :=
  match char with
  | '\x08' => some ['\\', 'b']
  | '\t' => some ['\\', 't']
  | '\n' => if multiline then none else some ['\\', 'n']
  | '\x0c' => some ['\\', 'f']
  | '\r' => some ['\\', 'r']
  | '\\' => some ['\\', '\\']
  | char => if Scanner.isPrintable char then none else some (codePointEscape char)

/-- The double quotes that may stand in a row without closing a text. -/
def rowLimit (multiline : Bool) : Nat := if multiline then 2 else 0

/-- The characters of a text with escape sequences, where `row` double quotes have come
directly before. -/
def escapedChars (multiline : Bool) : (row : Nat) → List Char → List Char
  | _, [] => []
  | row, char :: rest =>
      if char = '\x22' then
        if row < rowLimit multiline then char :: escapedChars multiline (row + 1) rest
        else '\\' :: char :: escapedChars multiline 0 rest
      else
        (escaped? multiline char).getD [char] ++ escapedChars multiline 0 rest

/-- A text with its quotes. -/
def quoted (chars : List Char) : List Char :=
  let traits := TextTraits.ofChars chars
  let quoting := Quoting.choose traits
  let fence := if quoting.multiline then quoting.fence else [quoting.quote]
  let start := if quoting.multiline && traits.newline then ['\n'] else []
  let body := if quoting.escapes then escapedChars quoting.multiline 0 chars else chars
  fence ++ start ++ body ++ fence

/-! ## Documents -/

/-- A single value. -/
inductive Scalar where
  | string (text : String)
  | integer (number : Int)
  | boolean (flag : Bool)
  deriving DecidableEq, Repr

namespace Scalar

/-- The value that a scalar is. -/
def value : Scalar → Value
  | .string text => .string text
  | .integer number => .integer number
  | .boolean flag => .boolean flag

/-- A scalar as it is written. -/
def print : Scalar → String
  | .string text => String.ofList (quoted text.toList)
  | .integer number => toString number
  | .boolean true => "true"
  | .boolean false => "false"

end Scalar

/-- A header with keys and values. -/
structure Section where
  name : String
  entries : List (String × Scalar)
  deriving DecidableEq, Repr

namespace Section

/-- A section as it is written, one line for the header and one for each key. -/
def print (part : Section) : String :=
  "[" ++ part.name ++ "]\n" ++
    String.join (part.entries.map fun entry => entry.1 ++ " = " ++ entry.2.print ++ "\n")

/-- The table that a section describes. -/
def value (part : Section) : Value :=
  .table (part.entries.map fun entry => (entry.1, entry.2.value))

/-- A document as it is written, with an empty line between sections. -/
def printAll (parts : List Section) : String := "\n".intercalate (parts.map print)

end Section

end SecurityKey.Toml
