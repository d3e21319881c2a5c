/-!
# Scanning a document

A `Scanner` takes characters from the front of a document and leaves the rest, or refuses
the document with a `Fault`.  What comes next is always decided by looking at the next few
characters, so a scanner never has to go back.
-/

set_option autoImplicit false

namespace SecurityKey.Toml

/-! ## Faults -/

/-- Why a document is refused. -/
inductive Fault where
  | expected (what : String)
  | badText
  | badEscape
  | badCodePoint
  | outOfRange
  | tooDeep
  | duplicateKey (key : String)
  | notATable (key : String)
  | wrongKind (wanted found : String)
  deriving DecidableEq, Repr

/-- The sentence for a fault. -/
def Fault.message : Fault → String
  | .expected what => "expected " ++ what
  | .badText => "invalid or unterminated string"
  | .badEscape => "invalid escape sequence"
  | .badCodePoint => "escape sequence for a value that is not a character"
  | .outOfRange => "value is out of range"
  | .tooDeep => "recursion limit exceeded"
  | .duplicateKey key => "duplicate key " ++ key
  | .notATable key => "key " ++ key ++ " does not hold a table"
  | .wrongKind wanted found => "invalid type: " ++ found ++ ", expected " ++ wanted

/-- A reader of the front of a document. -/
abbrev Scanner := StateT (List Char) (Except Fault)

namespace Scanner

variable {α : Type}

/-! ## Single characters -/

/-- The next character, which is left where it is. -/
def peek : Scanner (Option Char) := fun chars => .ok (chars.head?, chars)

/-- Takes the given characters if they come next, and says whether they do. -/
def accept (expected : List Char) : Scanner Bool := fun chars =>
  if expected.isPrefixOf chars then
    .ok (true, chars.drop expected.length)
  else
    .ok (false, chars)

/-- Takes the next character if it satisfies a condition, and says whether it does. -/
def acceptWhere (condition : Char → Bool) : Scanner Bool := fun chars =>
  match chars with
  | char :: rest => .ok (if condition char then (true, rest) else (false, chars))
  | [] => .ok (false, chars)

/-- Takes a character that has to come next. -/
def expect (char : Char) : Scanner Unit := fun chars =>
  if chars.head? = some char then
    .ok ((), chars.tail)
  else
    .error (.expected char.toString)

/-- Takes characters as long as they satisfy a condition. -/
def takeWhile (condition : Char → Bool) : Scanner (List Char) := fun chars =>
  .ok (chars.takeWhile condition, chars.dropWhile condition)

/-- Takes one character that has to satisfy a condition. -/
def satisfy (condition : Char → Bool) (what : String) : Scanner Char := fun chars =>
  match chars with
  | char :: rest => if condition char then .ok (char, rest) else .error (.expected what)
  | [] => .error (.expected what)

/-- Takes the given number of characters, which all have to satisfy a condition. -/
def exactly (condition : Char → Bool) (what : String) : Nat → Scanner (List Char)
  | 0 => pure []
  | count + 1 => do
      let char ← satisfy condition what
      let rest ← exactly condition what count
      return char :: rest

/-! ## Blanks and lines -/

/-- Whether a character is a space or a tab. -/
def isBlank (char : Char) : Bool := char == ' ' || char == '\t'

/-- Whether a character may stand in a comment: no control character but the tab. -/
def isPrintable (char : Char) : Bool :=
  char == '\t' || (0x20 ≤ char.toNat && char.toNat ≠ 0x7f)

/-- Takes spaces and tabs. -/
def blanks : Scanner Unit := fun chars => .ok ((), chars.dropWhile isBlank)

/-- Takes an end of line that has to come next. -/
def newline : Scanner Unit := fun chars =>
  match chars with
  | '\n' :: rest => .ok ((), rest)
  | '\r' :: '\n' :: rest => .ok ((), rest)
  | _ => .error (.expected "newline")

/-- Takes a comment, which begins at the next character. -/
def comment : Scanner Unit := fun chars => .ok ((), chars.dropWhile isPrintable)

/-- Takes blanks and a comment if there is one. -/
def blanksAndComment : Scanner Unit := do
  blanks
  if (← peek) = some '#' then
    comment

/-- Takes the end of a line, which the end of the document is too. -/
def lineEnd : Scanner Unit := do
  blanksAndComment
  if (← peek) ≠ none then
    newline

/-! ## Repetition -/

/-- Repeats a step that gives a value and says whether there is more.  Each step takes
something, so the number of characters bounds the number of steps. -/
def repeatBounded (step : Scanner (α × Bool)) : Nat → Scanner (List α)
  | 0 => throw (.expected "less")
  | bound + 1 => do
      let (value, more) ← step
      if more then
        let rest ← repeatBounded step bound
        return value :: rest
      else
        return [value]

/-- Repeats a step that takes something until it says that there is no more. -/
def repeatWhile (step : Scanner (α × Bool)) : Scanner (List α) := fun chars =>
  repeatBounded step (chars.length + 1) chars

/-- Takes blanks, comments and ends of lines. -/
def gap : Scanner Unit := do
  let _ ← repeatWhile do
    blanksAndComment
    match ← peek with
    | some '\n' | some '\r' =>
        newline
        return ((), true)
    | _ => return ((), false)

end Scanner

end SecurityKey.Toml
