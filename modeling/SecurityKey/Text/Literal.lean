/-!
# Literals

The flag and the number that a text spells.  A flag is spelled in one way.  A number is
spelled by decimal digits, behind a plus sign or not; `isDecimal` also admits what spells a
number that is negative, broken or very large.  Code points are spelled in base sixteen.
-/

set_option autoImplicit false

namespace SecurityKey.Literal

/-- The flag that a text spells. -/
def flag? (text : String) : Option Bool :=
  match text with
  | "true" => some true
  | "false" => some false
  | _ => none

/-- The number that digits spell, if there are any and all are digits. -/
def digits? (chars : List Char) : Option Nat :=
  if chars ≠ [] ∧ chars.all Char.isDigit then
    some (chars.foldl (fun value digit => value * 10 + (digit.toNat - '0'.toNat)) 0)
  else
    none

/-- The 64-bit number that a text spells; a plus sign may come first. -/
def word? (text : String) : Option UInt64 :=
  let chars := match text.toList with
    | '+' :: rest => rest
    | chars => chars
  (digits? chars).bind fun value => if value < 2 ^ 64 then some (UInt64.ofNat value) else none

/-- Characters without the sign that comes first, if there is one. -/
def unsigned : List Char → List Char
  | '+' :: rest | '-' :: rest => rest
  | chars => chars

/-- Whether characters are an exponent, or none. -/
def isExponent : List Char → Bool
  | [] => true
  | mark :: rest => mark.toLower == 'e' && (digits? (unsigned rest)).isSome

/-- Whether a text spells a decimal number of any kind, or one of the values that take the
place of a number. -/
def isDecimal (text : String) : Bool :=
  let chars := unsigned text.toList
  let whole := chars.takeWhile Char.isDigit
  let rest := chars.dropWhile Char.isDigit
  let fraction := if rest.head? = some '.' then rest.tail.takeWhile Char.isDigit else []
  let rest := if rest.head? = some '.' then rest.tail.dropWhile Char.isDigit else rest
  ["inf", "infinity", "nan"].contains (String.ofList chars).toLower ||
    (!(whole ++ fraction).isEmpty && isExponent rest)

/-! ## Code points -/

/-- The value of a digit in base sixteen. -/
def hexDigit? (char : Char) : Option Nat :=
  if '0' ≤ char ∧ char ≤ '9' then some (char.toNat - '0'.toNat)
  else if 'a' ≤ char ∧ char ≤ 'f' then some (char.toNat - 'a'.toNat + 10)
  else if 'A' ≤ char ∧ char ≤ 'F' then some (char.toNat - 'A'.toNat + 10)
  else none

/-- The number that digits in base sixteen spell, if there are any and all are digits. -/
def hex? (chars : List Char) : Option Nat :=
  if chars = [] then
    none
  else
    chars.foldlM (fun value char => (hexDigit? char).map fun digit => value * 16 + digit) 0

/-- The character with a code point, if there is one. -/
def char? (code : Nat) : Option Char :=
  if code.isValidChar then some (Char.ofNat code) else none

end SecurityKey.Literal
