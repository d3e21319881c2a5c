import SecurityKey.Text.Category

/-!
# Quoted texts

Two ways to write a text between quotes.  `Quoted.legible` is for readers: whatever has no
shape of its own on paper is spelled out.  `Quoted.object` is for the strings of an object
notation: only the control characters are.
-/

set_option autoImplicit false

namespace SecurityKey.Quoted

/-- The digits of a number in base sixteen, at least `width` of them. -/
def hexDigits (width number : Nat) : List Char :=
  let digits := Nat.toDigits 16 number
  List.replicate (width - digits.length) '0' ++ digits

/-- A character by its number in braces. -/
def numbered (char : Char) : List Char :=
  ['\\', 'u', '\x7b'] ++ hexDigits 1 char.toNat ++ ['\x7d']

/-- Characters between quotes. -/
def between (chars : List Char) : String := String.ofList ('\x22' :: chars ++ ['\x22'])

/-! ## For readers -/

/-- Whether a character can be told by its shape. -/
def hasShape (char : Char) : Bool := !Category.shapeless.contains char

/-- A character as a reader sees it. -/
def legibleChar (char : Char) : List Char :=
  if char = '\x00' then ['\\', '0'] else if char = '\t' then ['\\', 't']
  else if char = '\r' then ['\\', 'r'] else if char = '\n' then ['\\', 'n']
  else if char = '\x22' ∨ char = '\\' then ['\\', char]
  else if hasShape char then [char] else numbered char

/-- A text between quotes for readers. -/
def legible (text : String) : String := between (text.toList.flatMap legibleChar)

/-! ## In objects -/

/-- A character of a string in an object. -/
def objectChar (char : Char) : List Char :=
  if char = '\x22' ∨ char = '\\' then ['\\', char]
  else if char = '\n' then ['\\', 'n'] else if char = '\r' then ['\\', 'r']
  else if char = '\t' then ['\\', 't'] else if char = '\x08' then ['\\', 'b']
  else if char = '\x0c' then ['\\', 'f']
  else if char.toNat < 0x20 then '\\' :: 'u' :: hexDigits 4 char.toNat
  else [char]

/-- A text as a string in an object. -/
def object (text : String) : String := between (text.toList.flatMap objectChar)

end SecurityKey.Quoted
