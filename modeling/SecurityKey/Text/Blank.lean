/-!
# Blanks

A blank is a character with the Unicode property `White_Space`.  Words are what blanks
separate, and trimming takes the blanks off both ends of a text.
-/

set_option autoImplicit false

namespace SecurityKey.Blank

/-- The code points of white space, in ranges. -/
def ranges : List (Nat × Nat) := [
  (0x9, 0xd), (0x20, 0x20), (0x85, 0x85), (0xa0, 0xa0), (0x1680, 0x1680), (0x2000, 0x200a),
  (0x2028, 0x2029), (0x202f, 0x202f), (0x205f, 0x205f), (0x3000, 0x3000)]

/-- Whether a character is white space. -/
def isBlank (char : Char) : Bool :=
  ranges.any fun range => range.1 ≤ char.toNat && char.toNat ≤ range.2

/-! ## Words -/

/-- Puts a character in front of a word that is under way and the words after it. -/
def step (char : Char) (state : List Char × List (List Char)) :
    List Char × List (List Char) :=
  if isBlank char then
    ([], if state.1.isEmpty then state.2 else state.1 :: state.2)
  else
    (char :: state.1, state.2)

/-- The words of a text as lists of characters. -/
def wordLists (chars : List Char) : List (List Char) :=
  let state := chars.foldr step ([], [])
  if state.1.isEmpty then state.2 else state.1 :: state.2

/-- The words of a text, which blanks separate. -/
def words (text : String) : List String := (wordLists text.toList).map String.ofList

/-! ## Trimming -/

/-- A list of characters without the blanks at its ends. -/
def trimList (chars : List Char) : List Char :=
  ((chars.dropWhile isBlank).reverse.dropWhile isBlank).reverse

/-- A text without the blanks at its ends. -/
def trim (text : String) : String := String.ofList (trimList text.toList)

end SecurityKey.Blank
