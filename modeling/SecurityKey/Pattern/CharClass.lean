import SecurityKey.Pattern.Escape

/-!
# Sets in brackets

Between brackets stand characters, ranges of characters, escapes and other sets, which all
count together.  Two such lists with an operator between them are a set as well; of several
operators the first is carried out first.  A caret in front takes the complement of all.

Dashes at the start stand for themselves, and so does a closing bracket that comes first.
-/

set_option autoImplicit false

namespace SecurityKey.Pattern

/-- An operation on two sets. -/
inductive SetOperation where
  | intersection
  | difference
  | symmetricDifference
  deriving DecidableEq, Repr

/-- Carries out an operation. -/
def SetOperation.apply : SetOperation → CharSet → CharSet → CharSet
  | .intersection => .intersection
  | .difference => .difference
  | .symmetricDifference => .symmetricDifference

/-- What has been read of a set in brackets. -/
structure Bracket where
  negated : Bool
  /-- What stands before the last operator. -/
  left : Option (Deep CharSet × SetOperation)
  /-- What has been read behind it, the last first. -/
  items : List (Deep CharSet)
  /-- Only dashes have been read. -/
  fresh : Bool
  deriving DecidableEq, Repr

namespace Bracket

/-- Nothing has been read. -/
def opened (negated : Bool) : Bracket := ⟨negated, none, [], true⟩

/-- Adds a set. -/
def add (item : Deep CharSet) (bracket : Bracket) : Bracket :=
  { bracket with items := item :: bracket.items, fresh := false }

/-- What stands behind the last operator. -/
def right (bracket : Bracket) : Deep CharSet :=
  ⟨bracket.items.foldl (fun set item => .union item.value set) .empty,
    depthOfList (bracket.items.map Deep.depth)⟩

/-- What has been read, without the complement. -/
def whole (options : Options) (bracket : Bracket) : Deep CharSet :=
  let right := bracket.right
  match bracket.left with
  | none => right
  | some (left, operation) =>
      ⟨operation.apply (options.fold left.value) (options.fold right.value),
        1 + max left.depth right.depth⟩

/-- Goes on behind an operator. -/
def operate (options : Options) (operation : SetOperation) (bracket : Bracket) : Bracket :=
  { bracket with left := some (bracket.whole options, operation), items := [], fresh := false }

/-- The set, once it is closed. -/
def close? (options : Options) (bracket : Bracket) : Option (Deep CharSet) :=
  let whole := bracket.whole options
  (options.finish bracket.negated whole.value).map fun set => ⟨set, 1 + whole.depth⟩

end Bracket

/-! ## Items -/

/-- Reads a character or an escape. -/
def readMember (options : Options) : List Char → Option (Meaning × List Char)
  | [] => none
  | '\\' :: rest => readEscape options rest
  | char :: rest => some (.literal char, rest)

/-- The characters from one to another. -/
def range? (options : Options) (first last : Char) : Option CharSet :=
  if first ≤ last ∧ options.repertoire.has first ∧ options.repertoire.has last then
    some (.between first last)
  else
    none

/-- Reads a range, or a character or an escape that is not the start of one. -/
def readRange (options : Options) (chars : List Char) : Option (CharSet × List Char) := do
  let (first, rest) ← readMember options chars
  let alone : Option (CharSet × List Char) :=
    match first with
    | .literal char => (range? options char char).map fun set => (set, rest)
    | .set members => some (members, rest)
    | .look _ => none
  match options.skip rest with
  | '-' :: behind =>
      if options.peek behind ∈ [some ']', some '-'] then
        alone
      else
        match first, ← readMember options (options.skip behind) with
        | .literal first, (.literal last, rest) =>
            (range? options first last).map fun set => (set, rest)
        | _, _ => none
  | _ => alone

/-- Reads a set that a word between colons names, behind the bracket that opens it, and
whether its complement is meant. -/
def readNamed : List Char → Option (CharSet × Bool × List Char)
  | ':' :: '^' :: rest => named true rest
  | ':' :: rest => named false rest
  | _ => none
where
  /-- Reads the word and what closes the set. -/
  named (negated : Bool) (chars : List Char) : Option (CharSet × Bool × List Char) :=
    match chars.dropWhile (· ≠ ':') with
    | ':' :: ']' :: rest =>
        (basicSet? (String.ofList (chars.takeWhile (· ≠ ':')))).map fun set =>
          (set, negated, rest)
    | _ => none

/-! ## Brackets -/

/-- Opens a set behind its bracket. -/
def openBracket (options : Options) (chars : List Char) : Bracket × List Char :=
  match options.skip chars with
  | '^' :: rest => (.opened true, rest)
  | rest => (.opened false, rest)

/-- Reads a set that stands in others.  Each step takes a character, so that their number
bounds the number of steps. -/
def readBrackets (options : Options) : (bound : Nat) → Bracket → List Bracket → List Char →
    Option (Deep CharSet × List Char)
  | 0, _, _, _ => none
  | bound + 1, bracket, outer, chars =>
      match options.skip chars, outer with
      | [], _ => none
      | '-' :: '-' :: rest, _ =>
          if bracket.fresh then
            dash bound bracket outer ('-' :: rest)
          else
            readBrackets options bound (bracket.operate options .difference) outer rest
      | '&' :: '&' :: rest, _ =>
          readBrackets options bound (bracket.operate options .intersection) outer rest
      | '~' :: '~' :: rest, _ =>
          readBrackets options bound (bracket.operate options .symmetricDifference) outer rest
      | '[' :: rest, _ =>
          match readNamed rest with
          | some (set, negated, rest) => do
              let set ← options.finish negated set
              readBrackets options bound (bracket.add ⟨set, 0⟩) outer rest
          | none =>
              let (inner, rest) := openBracket options rest
              readBrackets options bound inner (bracket :: outer) rest
      | ']' :: rest, outer =>
          if bracket.fresh && bracket.items.isEmpty then
            readBrackets options bound (bracket.add ⟨.single ']', 0⟩) outer rest
          else
            match bracket.close? options, outer with
            | none, _ => none
            | some set, [] => some (set, rest)
            | some set, parent :: outer => readBrackets options bound (parent.add set) outer rest
      | '-' :: rest, _ =>
          if bracket.fresh then
            dash bound bracket outer rest
          else
            member bound bracket outer ('-' :: rest)
      | chars, _ => member bound bracket outer chars
where
  /-- Goes on behind a dash that stands for itself. -/
  dash (bound : Nat) (bracket : Bracket) (outer : List Bracket) (rest : List Char) :
      Option (Deep CharSet × List Char) :=
    readBrackets options bound
      { bracket with items := ⟨.single '-', 0⟩ :: bracket.items } outer rest
  /-- Reads a range and goes on. -/
  member (bound : Nat) (bracket : Bracket) (outer : List Bracket) (chars : List Char) :
      Option (Deep CharSet × List Char) :=
    match readRange options chars with
    | none => none
    | some (set, rest) => readBrackets options bound (bracket.add ⟨set, 0⟩) outer rest

/-- Reads a set behind the bracket that opens it. -/
def readBracketed (options : Options) (chars : List Char) :
    Option (Deep CharSet × List Char) :=
  let (bracket, rest) := openBracket options chars
  readBrackets options (rest.length + 1) bracket [] rest

end SecurityKey.Pattern
