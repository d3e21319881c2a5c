import SecurityKey.Text.Literal
import SecurityKey.Toml.Scanner

/-!
# Quoted text

A document has four kinds of quoted text.  They differ in the quote, in whether a
backslash begins an escape sequence, and in whether the text may go over several lines and
is closed by three quotes: that is a `Quoting`.

One automaton reads all of them.  `Phase.step` takes one character; it says which
characters of the text that gives and what the automaton expects next, or that the text is
over.
-/

set_option autoImplicit false

namespace SecurityKey.Toml

/-! ## Kinds of quoted text -/

/-- A kind of quoted text. -/
structure Quoting where
  quote : Char
  /-- Whether a backslash begins an escape sequence. -/
  escapes : Bool
  /-- Whether the text may have several lines and three quotes close it. -/
  multiline : Bool
  deriving DecidableEq, Repr

namespace Quoting

/-- Text in double quotes. -/
def basic : Quoting := ⟨'\x22', true, false⟩

/-- Text in single quotes, as it stands. -/
def literal : Quoting := ⟨'\x27', false, false⟩

/-- The same kind of text over several lines. -/
def overLines (quoting : Quoting) : Quoting := { quoting with multiline := true }

end Quoting

/-! ## The automaton -/

/-- What the automaton expects next. -/
inductive Phase where
  /-- A character of the text. -/
  | text
  /-- The line feed after a carriage return, which together end a line of the text. -/
  | lineFeed
  /-- What follows a backslash. -/
  | escape
  /-- More hexadecimal digits of an escape sequence. -/
  | digits (left value : Nat)
  /-- The end of a line whose end is escaped. -/
  | lineBreak
  /-- The line feed after a carriage return, in white space that is passed over. -/
  | passedLineFeed
  /-- More white space that is passed over. -/
  | passing
  /-- What follows some quotes in a row, which may close the text. -/
  | quotes (count : Nat)
  deriving DecidableEq, Repr

/-- What comes of one character. -/
inductive Turn where
  /-- Some characters of the text, and more is expected. -/
  | more (chars : List Char) (phase : Phase)
  /-- Some characters of the text, which the taken character closes. -/
  | closed (chars : List Char)
  /-- Some characters of the text, which was closed before the character. -/
  | closedBefore (chars : List Char)
  | refused (fault : Fault)
  deriving DecidableEq, Repr

/-- Puts characters in front of what comes of a character. -/
def Turn.after (front : List Char) : Turn → Turn
  | .more chars phase => .more (front ++ chars) phase
  | .closed chars => .closed (front ++ chars)
  | .closedBefore chars => .closedBefore (front ++ chars)
  | .refused fault => .refused fault

namespace Quoting

/-- What comes of a character of the text. -/
def textStep (quoting : Quoting) (char : Char) : Turn :=
  if char = quoting.quote then
    if quoting.multiline then .more [] (.quotes 1) else .closed []
  else if quoting.escapes ∧ char = '\\' then
    .more [] .escape
  else if quoting.multiline ∧ char = '\n' then
    .more ['\n'] .text
  else if quoting.multiline ∧ char = '\r' then
    .more [] .lineFeed
  else if Scanner.isPrintable char then
    .more [char] .text
  else
    .refused .badText

/-- What comes of a character after a backslash. -/
def escapeStep (quoting : Quoting) (char : Char) : Turn :=
  match char with
  | 'b' => .more ['\x08'] .text
  | 'f' => .more ['\x0c'] .text
  | 'n' => .more ['\n'] .text
  | 'r' => .more ['\r'] .text
  | 't' => .more ['\t'] .text
  | '\\' => .more ['\\'] .text
  | '\x22' => .more ['\x22'] .text
  | 'u' => .more [] (.digits 4 0)
  | 'U' => .more [] (.digits 8 0)
  | char =>
      if quoting.multiline then
        match char with
        | ' ' | '\t' => .more [] .lineBreak
        | '\n' => .more [] .passing
        | '\r' => .more [] .passedLineFeed
        | _ => .refused .badEscape
      else
        .refused .badEscape

/-- What comes of a hexadecimal digit, of which `left` are to come. -/
def digitStep (left value : Nat) (char : Char) : Turn :=
  match Literal.hexDigit? char with
  | none => .refused .badEscape
  | some digit =>
      let value := value * 16 + digit
      if left ≤ 1 then
        match Literal.char? value with
        | some char => .more [char] .text
        | none => .refused .badCodePoint
      else
        .more [] (.digits (left - 1) value)

/-- What comes of a character. -/
def step (quoting : Quoting) (phase : Phase) (char : Char) : Turn :=
  match phase with
  | .text => quoting.textStep char
  | .lineFeed => if char = '\n' then .more ['\n'] .text else .refused .badText
  | .escape => quoting.escapeStep char
  | .digits left value => digitStep left value char
  | .lineBreak =>
      match char with
      | ' ' | '\t' => .more [] .lineBreak
      | '\n' => .more [] .passing
      | '\r' => .more [] .passedLineFeed
      | _ => .refused .badEscape
  | .passedLineFeed => if char = '\n' then .more [] .passing else .refused .badText
  | .passing =>
      match char with
      | ' ' | '\t' | '\n' => .more [] .passing
      | '\r' => .more [] .passedLineFeed
      | char => quoting.textStep char
  | .quotes count =>
      if char = quoting.quote then
        if count < 4 then .more [] (.quotes (count + 1)) else .closed [char, char]
      else if count < 3 then
        (quoting.textStep char).after (List.replicate count quoting.quote)
      else
        .closedBefore (List.replicate (count - 3) quoting.quote)

/-- Takes the rest of a text; gives its characters. -/
def scan (quoting : Quoting) : Phase → Scanner (List Char)
  | phase, [] =>
      match phase with
      | .quotes count =>
          if count < 3 then .error .badText
          else .ok (List.replicate (count - 3) quoting.quote, [])
      | _ => .error .badText
  | phase, char :: rest =>
      match quoting.step phase char with
      | .more chars phase =>
          match scan quoting phase rest with
          | .ok (others, rest) => .ok (chars ++ others, rest)
          | .error fault => .error fault
      | .closed chars => .ok (chars, rest)
      | .closedBefore chars => .ok (chars, char :: rest)
      | .refused fault => .error fault

/-- The characters that open and close a text over several lines. -/
def fence (quoting : Quoting) : List Char := List.replicate 3 quoting.quote

/-- Takes a text that begins at the next character, over several lines if three quotes
open it.  A line end directly after them is not part of the text. -/
def anyText (quoting : Quoting) : Scanner String := do
  if ← Scanner.accept quoting.fence then
    match ← get with
    | '\n' :: rest => set rest
    | '\r' :: '\n' :: rest => set rest
    | _ => pure ()
    String.ofList <$> quoting.overLines.scan .text
  else
    Scanner.expect quoting.quote
    String.ofList <$> quoting.scan .text

/-- Takes a text on one line. -/
def lineText (quoting : Quoting) : Scanner String := do
  Scanner.expect quoting.quote
  String.ofList <$> quoting.scan .text

end Quoting

/-! ## Keys -/

namespace Scanner

/-- Whether a character may stand in a key without quotes. -/
def isBare (char : Char) : Bool := char.isAlphanum || char == '-' || char == '_'

/-- Takes one part of a key. -/
def keyPart : Scanner String := do
  match ← peek with
  | some '\x22' => Quoting.basic.lineText
  | some '\x27' => Quoting.literal.lineText
  | _ =>
      let chars ← takeWhile isBare
      if chars.isEmpty then
        throw (.expected "key")
      return String.ofList chars

/-- The most parts that a key may have. -/
def maximumKeyParts : Nat := 79

/-- Takes a key, whose parts are separated by dots; gives all but the last part and the
last one. -/
def key : Scanner (List String × String) := do
  let parts ← repeatWhile do
    blanks
    let part ← keyPart
    blanks
    return (part, ← accept ['.'])
  if maximumKeyParts < parts.length then
    throw .tooDeep
  return (parts.dropLast, parts.getLastD "")

end Scanner

end SecurityKey.Toml
