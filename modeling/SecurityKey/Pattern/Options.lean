import SecurityKey.Pattern.Basic

/-!
# Options of patterns

A pattern is read with options, which it may change in itself.  Where it is spaced, blanks
and comments in it mean nothing.

What has been read has a depth, which counts the things that stand in each other.
-/

set_option autoImplicit false

namespace SecurityKey.Pattern

/-! ## Options -/

/-- What the characters of a pattern mean. -/
structure Options where
  /-- Case makes no difference. -/
  caseless : Bool
  /-- The marks for the ends of the text stand for the ends of lines. -/
  lines : Bool
  /-- A dot stands for the end of a line as well. -/
  dotAll : Bool
  /-- Repetitions are greedy where they would not be. -/
  swapped : Bool
  /-- A carriage return ends a line as well. -/
  returns : Bool
  /-- Blanks and comments mean nothing. -/
  spaced : Bool
  /-- The characters that sets are made of. -/
  repertoire : Repertoire
  deriving DecidableEq, Repr

namespace Options

/-- The options that a pattern begins with. -/
def usual : Options := ⟨false, false, false, false, false, false, .full⟩

/-- The options with one of them changed, which a letter names. -/
def set? (letter : Char) (value : Bool) (options : Options) : Option Options :=
  match letter with
  | 'i' => some { options with caseless := value }
  | 'm' => some { options with lines := value }
  | 's' => some { options with dotAll := value }
  | 'U' => some { options with swapped := value }
  | 'R' => some { options with returns := value }
  | 'x' => some { options with spaced := value }
  | 'u' => some { options with repertoire := if value then .full else .basic }
  | _ => none

/-- A set with the other cases of its characters, if case makes no difference. -/
def fold (options : Options) (set : CharSet) : CharSet :=
  if options.caseless then .caseless options.repertoire set else set

/-- A set or its complement.  Of the basic characters there is no complement. -/
def finish (options : Options) (negated : Bool) (set : CharSet) : Option CharSet :=
  if !negated then some (options.fold set)
  else if options.repertoire = .full then some (.complement (options.fold set))
  else none

/-- What a dot stands for. -/
def dot (options : Options) : Option CharSet :=
  let ends := if options.dotAll then CharSet.empty
    else if options.returns then .union (.single '\n') (.single '\r')
    else .single '\n'
  if options.repertoire = .full then some (.complement ends) else none

/-- What the mark for the start stands for. -/
def startMark (options : Options) : Look :=
  if !options.lines then .textStart else if options.returns then .anyLineStart else .lineStart

/-- What the mark for the end stands for. -/
def endMark (options : Options) : Look :=
  if !options.lines then .textEnd else if options.returns then .anyLineEnd else .lineEnd

end Options

/-! ## Blanks -/

/-- Characters without the blanks and comments that come first.  A comment goes from a hash
sign to the end of the line. -/
def skipBlanks : (inComment : Bool) → List Char → List Char
  | _, [] => []
  | true, char :: rest => skipBlanks (char ≠ '\n') rest
  | false, char :: rest =>
      if Blank.isBlank char then skipBlanks false rest
      else if char = '#' then skipBlanks true rest
      else char :: rest

/-- Characters without what means nothing in front of them. -/
def Options.skip (options : Options) (chars : List Char) : List Char :=
  if options.spaced then skipBlanks false chars else chars

/-- The character that counts for the meaning of a dash in front of some characters.  Blanks
are passed over, and one hash sign. -/
def Options.peek (options : Options) (chars : List Char) : Option Char :=
  if options.spaced then
    let rest := chars.dropWhile Blank.isBlank
    let rest := if rest.head? = some '#' then rest.tail.dropWhile Blank.isBlank else rest
    rest.head? <|> chars.head?
  else
    chars.head?

/-! ## Depth -/

/-- Something that has been read, and how many things stand in each other in it. -/
structure Deep (α : Type) where
  value : α
  depth : Nat
  deriving DecidableEq, Repr

/-- The depth of a list of things with some depths.  A single thing is not in a list. -/
def depthOfList : List Nat → Nat
  | [] => 0
  | [depth] => depth
  | depths => 1 + depths.foldl max 0

/-- How deep a pattern may be. -/
def maximumDepth : Nat := 250

end SecurityKey.Pattern
