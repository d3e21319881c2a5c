import SecurityKey.Pattern.CharClass

/-!
# The text of a pattern

A character stands for itself, unless it is a mark.  A dot stands for any character of a
line, and a caret and a dollar sign for the ends of the text.  A star, a plus or a question
mark says how often what stands before it occurs; a question mark behind that says that
fewer are preferred.  A bar separates alternatives.  Brackets hold sets, and parentheses
hold things together; they may give them a name, or options that hold up to where they are
closed.  Braces are marks that nothing uses.

`Pattern.ofText?` reads a whole text, and refuses it if too many things stand in each other.
-/

set_option autoImplicit false

namespace SecurityKey.Pattern

/-! ## Groups -/

/-- What has been read of a group. -/
structure Group where
  /-- The options that hold behind the group. -/
  behind : Options
  /-- The alternatives that are complete, the last first. -/
  alternatives : List (Deep Pattern)
  /-- The items of the present alternative, the last first; a change of options is an item
  without a pattern. -/
  items : List (Option (Deep Pattern))
  deriving DecidableEq, Repr

namespace Group

/-- Nothing has been read. -/
def opened (behind : Options) : Group := ⟨behind, [], []⟩

/-- Adds an item. -/
def add (item : Deep Pattern) (group : Group) : Group :=
  { group with items := some item :: group.items }

/-- Adds a single thing. -/
def put (pattern : Pattern) (group : Group) : Group := group.add ⟨pattern, 0⟩

/-- The present alternative. -/
def line (group : Group) : Deep Pattern :=
  let items := group.items.reverse
  ⟨inOrder (items.filterMap fun item => item.map Deep.value),
    depthOfList (items.map fun item => item.elim 0 Deep.depth)⟩

/-- Goes on to the next alternative. -/
def turn (group : Group) : Group :=
  { group with alternatives := group.line :: group.alternatives, items := [] }

/-- What the group describes. -/
def whole (group : Group) : Deep Pattern :=
  let alternatives := (group.line :: group.alternatives).reverse
  ⟨anyOf (alternatives.map Deep.value), depthOfList (alternatives.map Deep.depth)⟩

/-- The group as an item of the one around it. -/
def closed (group : Group) : Deep Pattern := ⟨group.whole.value, 1 + group.whole.depth⟩

/-- Repeats the last item. -/
def repeatLast? (count : Count) (greedy : Bool) (group : Group) : Option Group :=
  match group.items with
  | some item :: items =>
      some { group with
        items := some ⟨.repeated item.value count greedy, 1 + item.depth⟩ :: items }
  | _ => none

end Group

/-! ## What a group begins with -/

/-- What a parenthesis opens. -/
inductive Opening where
  /-- No group, but a change of options that holds from here on. -/
  | change (options : Options)
  | group (options : Options)
  | namedGroup (name : List Char)
  deriving DecidableEq, Repr

/-- Reads options: letters, and behind a dash the letters of those that do not hold.  Each
letter and the dash may stand there once, and the dash not as the last. -/
def readOptions (options : Options) : (seen : List Char) → List Char →
    Option (Opening × List Char)
  | _, [] => none
  | seen, ')' :: rest =>
      if seen.head?.all (· == '-') then none else some (.change options, rest)
  | seen, ':' :: rest =>
      if seen.head? = some '-' then none else some (.group options, rest)
  | seen, char :: rest =>
      if char ∈ seen then none
      else if char = '-' then readOptions options ('-' :: seen) rest
      else
        match options.set? char (!seen.contains '-') with
        | none => none
        | some options => readOptions options (char :: seen) rest

/-- Whether a character may begin a name. -/
def beginsName (char : Char) : Bool := char == '_' || Category.alphabetic.contains char

/-- Whether a character may stand in a name. -/
def isInName (char : Char) : Bool :=
  ['_', '.', '[', ']'].contains char || Category.alphanumeric.contains char

/-- Reads the name of a group, up to the mark that closes it. -/
def readName (chars : List Char) : Option (Opening × List Char) :=
  match chars.takeWhile (· ≠ '>'), chars.dropWhile (· ≠ '>') with
  | first :: name, '>' :: rest =>
      if beginsName first && name.all isInName then some (.namedGroup (first :: name), rest)
      else none
  | _, _ => none

/-- Reads what stands behind the parenthesis that opens a group. -/
def readOpening (options : Options) (chars : List Char) : Option (Opening × List Char) :=
  match options.skip chars with
  | '?' :: 'P' :: '<' :: rest => readName rest
  | '?' :: '<' :: rest => readName rest
  | '?' :: rest => readOptions options [] rest
  | rest => some (.group options, rest)

/-! ## Items -/

/-- The mark that says how often something occurs. -/
def count? (char : Char) : Option Count :=
  match char with
  | '?' => some .atMostOne
  | '*' => some .many
  | '+' => some .atLeastOne
  | _ => none

/-- Reads one item that is no group and no repetition. -/
def readItem (options : Options) : List Char → Option (Deep Pattern × List Char)
  | [] => none
  | '[' :: rest =>
      (readBracketed options rest).map fun read => (⟨.one read.1.value, read.1.depth⟩, read.2)
  | '\\' :: rest =>
      (readEscape options rest).map fun read =>
        (⟨match read.1 with
          | .literal char => .one (options.fold (.single char))
          | .set members => .one members
          | .look condition => .look condition, 0⟩, read.2)
  | '\x7b' :: _ => none
  | '.' :: rest => options.dot.map fun set => (⟨.one set, 0⟩, rest)
  | '^' :: rest => some (⟨.look options.startMark, 0⟩, rest)
  | '$' :: rest => some (⟨.look options.endMark, 0⟩, rest)
  | char :: rest => some (⟨.one (options.fold (.single char)), 0⟩, rest)

/-- Whether fewer are preferred, which a question mark that comes next says. -/
def readLazy : List Char → Bool × List Char
  | '?' :: rest => (true, rest)
  | rest => (false, rest)

/-! ## Patterns -/

/-- Reads a group that stands in others.  `names` are those that are given away.  Each step
takes a character, so that their number bounds the number of steps. -/
def readGroups : (bound : Nat) → (options : Options) → (names : List (List Char)) → Group →
    List Group → List Char → Option (Deep Pattern)
  | 0, _, _, _, _, _ => none
  | bound + 1, options, names, group, outer, chars =>
      match options.skip chars, outer with
      | [], [] => some group.whole
      | [], _ :: _ => none
      | '(' :: rest, _ =>
          match readOpening options rest with
          | none => none
          | some (.change changed, rest) =>
              readGroups bound changed names { group with items := none :: group.items } outer
                rest
          | some (.group inside, rest) =>
              readGroups bound inside names (.opened options) (group :: outer) rest
          | some (.namedGroup name, rest) =>
              if name ∈ names then none
              else
                readGroups bound options (name :: names) (.opened options) (group :: outer) rest
      | ')' :: _, [] => none
      | ')' :: rest, parent :: outer =>
          readGroups bound group.behind names (parent.add group.closed) outer rest
      | '|' :: rest, _ => readGroups bound options names group.turn outer rest
      | char :: rest, _ =>
          match count? char with
          | some count =>
              let (fewer, rest) := readLazy rest
              match group.repeatLast? count (fewer == options.swapped) with
              | none => none
              | some group => readGroups bound options names group outer rest
          | none =>
              match readItem options (char :: rest) with
              | none => none
              | some (item, rest) => readGroups bound options names (group.add item) outer rest

/-- The pattern that a text spells. -/
def ofText? (text : String) : Option Pattern := do
  let chars := text.toList
  let read ← readGroups (chars.length + 1) .usual [] (.opened .usual) [] chars
  if read.depth ≤ maximumDepth then
    return read.value
  else
    none

end SecurityKey.Pattern
