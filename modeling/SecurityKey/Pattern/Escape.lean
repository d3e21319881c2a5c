import SecurityKey.Pattern.Options
import SecurityKey.Text.Category

/-!
# Escapes

A backslash changes what the character behind it stands for.  A mark stands for itself.
Some letters stand for a control character, a set or a look, and some for the character
whose code point comes next.  All other escapes are refused.

Words and the sets that letters name depend on which characters there are: of the basic
ones alone they are the usual letters, digits and blanks.  What looks for words needs the
basic characters.
-/

set_option autoImplicit false

namespace SecurityKey.Pattern

/-- What an escape stands for. -/
inductive Meaning where
  | literal (char : Char)
  | set (members : CharSet)
  | look (condition : Look)
  deriving DecidableEq, Repr

/-! ## Sets with names -/

/-- The sets of basic characters that are named by words. -/
def basicSet? (name : String) : Option CharSet :=
  match name with
  | "alnum" => some (.ofTable ["30-39 41-5a 61-7a"])
  | "alpha" => some (.ofTable ["41-5a 61-7a"])
  | "ascii" => some (.ofTable ["0-7f"])
  | "blank" => some (.ofTable ["9 20"])
  | "cntrl" => some (.ofTable ["0-1f 7f"])
  | "digit" => some (.ofTable ["30-39"])
  | "graph" => some (.ofTable ["21-7e"])
  | "lower" => some (.ofTable ["61-7a"])
  | "print" => some (.ofTable ["20-7e"])
  | "punct" => some (.ofTable ["21-2f 3a-40 5b-60 7b-7e"])
  | "space" => some (.ofTable ["9-d 20"])
  | "upper" => some (.ofTable ["41-5a"])
  | "word" => some (.ofTable ["30-39 41-5a 5f 61-7a"])
  | "xdigit" => some (.ofTable ["30-39 41-46 61-66"])
  | _ => none

/-- The set that a letter names: digits, blanks or the characters of words. -/
def letterSet? (repertoire : Repertoire) (letter : Char) : Option CharSet :=
  match repertoire, letter with
  | .basic, 'd' => basicSet? "digit"
  | .basic, 's' => basicSet? "space"
  | .basic, 'w' => basicSet? "word"
  | .full, 'd' => some (Category.established Category.decimals)
  | .full, 's' => some Category.whiteSpace
  | .full, 'w' => some (Category.established Category.wordChars)
  | _, _ => none

/-! ## Characters -/

/-- The number that a count of digits in base sixteen spells, and what is left. -/
def readDigits (options : Options) : (count : Nat) → (value : Nat) → List Char →
    Option (Nat × List Char)
  | 0, value, chars => some (value, chars)
  | count + 1, value, chars =>
      match options.skip chars with
      | [] => none
      | char :: rest => do
          readDigits options count (value * 16 + (← Literal.hexDigit? char)) rest

/-- The character whose code point comes next, in a count of digits.  Two digits stand for
one byte, which has to be a basic character if there are no others. -/
def readCodePoint (options : Options) (count : Nat) (chars : List Char) :
    Option (Meaning × List Char) := do
  let (code, rest) ← readDigits options count 0 chars
  let char ← Literal.char? code
  if count = 2 && !options.repertoire.has char then
    none
  else
    return (.literal char, rest)

/-- The control character that a letter stands for. -/
def control? (letter : Char) : Option Char :=
  match letter with
  | 'a' => some '\x07'
  | 'f' => some '\x0c'
  | 't' => some '\t'
  | 'n' => some '\n'
  | 'r' => some '\r'
  | 'v' => some '\x0b'
  | _ => none

/-- Whether a character stands for itself behind a backslash. -/
def isMark (char : Char) : Bool :=
  Repertoire.basic.has char && !char.isAlphanum && char != '<' && char != '>'

/-! ## Looks -/

/-- The look that a character stands for. -/
def look? (repertoire : Repertoire) (char : Char) : Option Look :=
  match repertoire, char with
  | _, 'A' => some .textStart
  | _, 'z' => some .textEnd
  | .basic, 'b' => some .wordEdge
  | .basic, 'B' => some .noWordEdge
  | .basic, '<' => some .wordStart
  | .basic, '>' => some .wordEnd
  | _, _ => none

/-! ## Escapes -/

/-- What a character behind a backslash stands for by itself. -/
def meaning? (options : Options) (char : Char) : Option Meaning :=
  if isMark char then
    some (.literal char)
  else if char ∈ ['D', 'S', 'W'] ∧ options.repertoire = .full then
    (letterSet? .full char.toLower).map fun set => .set (.complement set)
  else
    (control? char).map .literal <|> (letterSet? options.repertoire char).map .set <|>
      (look? options.repertoire char).map .look

/-- Reads what stands behind a backslash. -/
def readEscape (options : Options) : List Char → Option (Meaning × List Char)
  | [] => none
  | 'x' :: rest => readCodePoint options 2 rest
  | 'u' :: rest => readCodePoint options 4 rest
  | 'U' :: rest => readCodePoint options 8 rest
  | 'p' :: rest => category false rest
  | 'P' :: rest => category true rest
  | char :: rest => (meaning? options char).map fun meaning => (meaning, rest)
where
  /-- Reads the letter of a category. -/
  category (negated : Bool) (rest : List Char) : Option (Meaning × List Char) :=
    match options.repertoire, options.skip rest with
    | .full, letter :: rest => do
        let set ← options.finish negated (← Category.ofLetter? letter)
        return (.set set, rest)
    | _, _ => none

end SecurityKey.Pattern
