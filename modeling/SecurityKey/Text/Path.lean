/-!
# Paths

A path is a text whose parts are separated by slashes.  The parts that are not empty are
its names.

The parent of a path is what is left without its last part.  There a single dot stands for
nothing too, except for one that the path begins with.
-/

set_option autoImplicit false

namespace SecurityKey.Path

/-- The parts of a text between slashes, the empty ones too. -/
def parts (chars : List Char) : List (List Char) :=
  chars.foldr (fun char parts =>
    if char = '/' then [] :: parts
    else match parts with
      | [] => [[char]]
      | part :: rest => (char :: part) :: rest) [[]]

/-- The names of a path. -/
def names (chars : List Char) : List (List Char) := (parts chars).filter (· ≠ [])

/-- Whether a path ends in a slash. -/
def endsInSlash (chars : List Char) : Bool := chars.getLast? == some '/'

/-! ## Parents -/

/-- Whether a part stands for nothing. -/
def isVoid (part : List Char) : Bool := part == [] || part == ['.']

/-- Parts without those at the end that stand for nothing. -/
def trimEnd (parts : List (List Char)) : List (List Char) :=
  (parts.reverse.dropWhile isVoid).reverse

/-- Parts with slashes between them. -/
def join : List (List Char) → List Char
  | [] => []
  | [part] => part
  | part :: rest => part ++ '/' :: join rest

/-- What a path begins with: a slash, a dot that stands for the current directory, or
nothing. -/
def lead (chars : List Char) : List Char :=
  match chars with
  | '/' :: _ => ['/']
  | ['.'] => ['.']
  | '.' :: '/' :: _ => ['.']
  | _ => []

/-- The parent of a path: none for the root and the empty path. -/
def parent (path : String) : Option String :=
  let chars := path.toList
  let start := lead chars
  match trimEnd (parts (chars.drop start.length)) with
  | [] => if start = ['.'] then some "" else none
  | kept => some (String.ofList (start ++ join (trimEnd kept.dropLast)))

end SecurityKey.Path
