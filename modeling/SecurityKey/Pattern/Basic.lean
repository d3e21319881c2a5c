import SecurityKey.Text.CharSet

/-!
# Patterns

A pattern describes pieces of texts.  It is made of sets, each of which stands for one
character, and of looks, which stand for no character and say what has to be before and
behind a place.

The order in a pattern matters: of two alternatives the first is preferred, and of a
repetition it is said whether more of it are preferred or fewer.  Where a pattern occurs in
a text is decided by this order (`SecurityKey.Pattern.Search`).
-/

set_option autoImplicit false

namespace SecurityKey

/-! ## Looks -/

/-- A condition on a place in a text. -/
inductive Look where
  | textStart
  | textEnd
  /-- The start of a line, where lines end with a line feed. -/
  | lineStart
  | lineEnd
  /-- The start of a line, where a carriage return, a line feed or both end a line. -/
  | anyLineStart
  | anyLineEnd
  /-- A place where a word starts or ends. -/
  | wordEdge
  | noWordEdge
  | wordStart
  | wordEnd
  deriving DecidableEq, Repr

namespace Look

/-- Whether a character is one of a word.  Only basic characters are. -/
def isWordChar (char : Char) : Bool := char.isAlphanum || char == '_'

/-- Whether a look holds between a character and the next one; at the ends of a text there
is none. -/
def holds (before after : Option Char) (look : Look) : Bool :=
  let wordBefore := before.any isWordChar
  let wordAfter := after.any isWordChar
  match look with
  | .textStart => before.isNone
  | .textEnd => after.isNone
  | .lineStart => before.all (· == '\n')
  | .lineEnd => after.all (· == '\n')
  | .anyLineStart =>
      before.all (· == '\n') || (before == some '\r' && after != some '\n')
  | .anyLineEnd =>
      after.all (· == '\r') || (after == some '\n' && before != some '\r')
  | .wordEdge => wordBefore != wordAfter
  | .noWordEdge => wordBefore == wordAfter
  | .wordStart => !wordBefore && wordAfter
  | .wordEnd => wordBefore && !wordAfter

/-- Whether a look holds behind a character, whatever comes next. -/
def isSettled (before : Option Char) : Look → Bool
  | .textStart => before.isNone
  | .lineStart | .anyLineStart => before.all (· == '\n')
  | _ => false

end Look

/-! ## Patterns -/

/-- How many of something there may be. -/
inductive Count where
  | atMostOne
  | many
  | atLeastOne
  deriving DecidableEq, Repr

/-- A description of pieces of texts. -/
inductive Pattern where
  | empty
  /-- One character of a set. -/
  | one (set : CharSet)
  /-- No character, at a place of a kind. -/
  | look (condition : Look)
  | sequence (first second : Pattern)
  /-- One of two alternatives; the first is preferred. -/
  | either (first second : Pattern)
  /-- Several of one kind; more are preferred if it is greedy. -/
  | repeated (item : Pattern) (count : Count) (greedy : Bool)
  deriving DecidableEq, Repr

namespace Pattern

/-- Whether a pattern may describe the empty text. -/
def canBeEmpty : Pattern → Bool
  | .empty | .look _ => true
  | .one _ => false
  | .sequence first second => first.canBeEmpty && second.canBeEmpty
  | .either first second => first.canBeEmpty || second.canBeEmpty
  | .repeated item .atLeastOne _ => item.canBeEmpty
  | .repeated _ _ _ => true

/-- The patterns of a list, one behind the other. -/
def inOrder : List Pattern → Pattern
  | [] => .empty
  | [pattern] => pattern
  | pattern :: rest => .sequence pattern (inOrder rest)

/-- The patterns of a list as alternatives, the first preferred. -/
def anyOf : List Pattern → Pattern
  | [] => .empty
  | [pattern] => pattern
  | pattern :: rest => .either pattern (anyOf rest)

end Pattern

end SecurityKey
