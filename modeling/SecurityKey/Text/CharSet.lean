import SecurityKey.Text.Blank
import SecurityKey.Text.CaseFolding
import SecurityKey.Text.Literal

/-!
# Sets of characters

A set of characters is given by ranges of code points, or made of other sets.  It is kept
as it was made, and `CharSet.contains` asks the sets that it is made of.

`CharSet.ofTable` reads ranges as tables of characters list them: in base sixteen, with
blanks between them.
-/

set_option autoImplicit false

namespace SecurityKey

/-- A set of characters. -/
inductive CharSet where
  /-- The characters with code points in some ranges, the ends included. -/
  | ofRanges (list : List (Nat × Nat))
  | union (first second : CharSet)
  | intersection (first second : CharSet)
  | complement (set : CharSet)
  /-- The characters that differ at most by case from one of a set. -/
  | caseless (repertoire : Repertoire) (set : CharSet)
  deriving DecidableEq, Repr

namespace CharSet

/-! ## Members -/

/-- Whether a character is in a set. -/
def contains : CharSet → Char → Bool
  | .ofRanges list, char =>
      list.any fun range => range.1 ≤ char.toNat && char.toNat ≤ range.2
  | .union first second, char => first.contains char || second.contains char
  | .intersection first second, char => first.contains char && second.contains char
  | .complement set, char => !set.contains char
  | .caseless repertoire set, char =>
      (CaseFolding.variants repertoire char).any fun variant => set.contains variant

/-! ## Making sets -/

/-- The set of no character. -/
def empty : CharSet := .ofRanges []

/-- The characters from one to another. -/
def between (first last : Char) : CharSet := .ofRanges [(first.toNat, last.toNat)]

/-- The set of one character. -/
def single (char : Char) : CharSet := between char char

/-- The characters of one set that are not in another. -/
def difference (first second : CharSet) : CharSet := .intersection first (.complement second)

/-- The characters that are in one of two sets and not in both. -/
def symmetricDifference (first second : CharSet) : CharSet :=
  difference (.union first second) (.intersection first second)

/-- The range that a word of a table stands for. -/
def range? (word : String) : Option (Nat × Nat) := do
  let first ← Literal.hex? (word.toList.takeWhile (· ≠ '-'))
  match word.toList.dropWhile (· ≠ '-') with
  | [] => return (first, first)
  | _ :: last => return (first, ← Literal.hex? last)

/-- The set of the characters that a table lists. -/
def ofTable (lines : List String) : CharSet :=
  .ofRanges (lines.flatMap fun line => (Blank.words line).filterMap range?)

end CharSet

end SecurityKey
