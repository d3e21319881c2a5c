import SecurityKey.Toml.Scanner
import SecurityKey.Toml.Value

/-!
# Numbers and moments

Numbers are integers of 64 bits, written in base ten, or in base two, eight or sixteen
without a sign, and fractional numbers.  Underscores may stand between digits.  A
fractional number is refused if it is too large for a 64-bit floating point number.

A moment is a date, a time of day, or both, where the latter may have an offset.
-/

set_option autoImplicit false

namespace SecurityKey.Toml

namespace Scanner

/-! ## Digits -/

/-- Takes digits with underscores between them; `dangling` says that one has to follow. -/
def digitsFrom (isDigit : Char → Bool) (dangling : Bool) : Scanner (List Char)
  | [] => if dangling then .error (.expected "digit") else .ok ([], [])
  | char :: rest =>
      if isDigit char then
        match digitsFrom isDigit false rest with
        | .ok (digits, rest) => .ok (char :: digits, rest)
        | .error fault => .error fault
      else if dangling then
        .error (.expected "digit")
      else if char = '_' then
        digitsFrom isDigit true rest
      else
        .ok ([], char :: rest)

/-- Takes at least one digit, with underscores between digits. -/
def digits (isDigit : Char → Bool) : Scanner (List Char) := do
  let first ← satisfy isDigit "digit"
  let rest ← digitsFrom isDigit false
  return first :: rest

/-- Takes the digits of a number in base ten, which does not begin with a zero unless it
is zero. -/
def wholeDigits : Scanner (List Char) := do
  if ← accept ['0'] then
    return ['0']
  digits Char.isDigit

/-- The value of a digit in any base up to sixteen. -/
def digitValue (char : Char) : Nat :=
  if char.isDigit then char.toNat - '0'.toNat
  else if char.isLower then char.toNat - 'a'.toNat + 10
  else char.toNat - 'A'.toNat + 10

/-- The number that digits spell. -/
def valueOf (base : Nat) (digits : List Char) : Nat :=
  digits.foldl (fun value digit => value * base + digitValue digit) 0

/-! ## Integers -/

/-- The value of an integer of 64 bits. -/
def integer (number : Int) : Scanner Value :=
  if -(2 ^ 63) ≤ number ∧ number < 2 ^ 63 then
    return .integer number
  else
    throw .outOfRange

/-- Whether a character is a hexadecimal digit. -/
def isHexDigit (char : Char) : Bool :=
  char.isDigit || ('a' ≤ char && char ≤ 'f') || ('A' ≤ char && char ≤ 'F')

/-- Takes an integer in another base than ten, after the characters that say which. -/
def basedInteger (base : Nat) (isDigit : Char → Bool) : Scanner Value := do
  integer (valueOf base (← digits isDigit))

/-! ## Fractional numbers -/

/-- The least number that is rounded to infinity: halfway from the largest 64-bit floating
point number to the next power of two. -/
def overflow : Nat := 2 ^ 1024 - 2 ^ 970

/-- Whether `mantissa` times a power of ten is rounded to infinity. -/
def overflows (mantissa : Nat) (exponent : Int) : Bool :=
  let size := (Nat.toDigits 10 mantissa).length + exponent
  if mantissa = 0 ∨ size < 300 then false
  else if 400 < size then true
  else if 0 ≤ exponent then overflow ≤ mantissa * 10 ^ exponent.toNat
  else overflow * 10 ^ (-exponent).toNat ≤ mantissa

/-- Takes the exponent of a fractional number, if it has one. -/
def exponent? : Scanner (Option Int) := do
  if ← acceptWhere fun char => char == 'e' || char == 'E' then
    let negative ← accept ['-']
    unless negative do
      let _ ← accept ['+']
    let value : Int := valueOf 10 (← digits Char.isDigit)
    return some (if negative then -value else value)
  else
    return none

/-- Takes what follows the whole part of a number. -/
def afterWhole (negative : Bool) (whole : List Char) : Scanner Value := do
  let places ← if ← accept ['.'] then some <$> digits Char.isDigit else pure none
  let exponent ← exponent?
  if places.isNone ∧ exponent.isNone then
    let value : Int := valueOf 10 whole
    integer (if negative then -value else value)
  else
    let mantissa := valueOf 10 (whole ++ places.getD [])
    let exponent := exponent.getD 0
    if !negative ∧ overflows mantissa (exponent - (places.getD []).length) then
      throw .outOfRange
    return .fraction (String.ofList whole)

/-- Takes a number. -/
def number : Scanner Value := do
  if ← accept ['0', 'x'] then
    basedInteger 16 isHexDigit
  else if ← accept ['0', 'o'] then
    basedInteger 8 fun char => '0' ≤ char && char ≤ '7'
  else if ← accept ['0', 'b'] then
    basedInteger 2 fun char => char == '0' || char == '1'
  else
    let negative ← accept ['-']
    unless negative do
      let _ ← accept ['+']
    if ← accept ['i', 'n', 'f'] then
      return .fraction "inf"
    else if ← accept ['n', 'a', 'n'] then
      return .fraction "nan"
    else
      afterWhole negative (← wholeDigits)

/-! ## Moments -/

/-- Takes two digits of a number within bounds. -/
def twoDigits (least greatest : Nat) : Scanner Nat := do
  let value := valueOf 10 (← exactly Char.isDigit "digit" 2)
  if least ≤ value ∧ value ≤ greatest then
    return value
  else
    throw .outOfRange

/-- The number of days of a month. -/
def daysOfMonth (year month : Nat) : Nat :=
  if month = 2 then
    if year % 4 = 0 ∧ (year % 100 ≠ 0 ∨ year % 400 = 0) then 29 else 28
  else if month ∈ [4, 6, 9, 11] then 30
  else 31

/-- Takes a date. -/
def date : Scanner Unit := do
  let year := valueOf 10 (← exactly Char.isDigit "digit" 4)
  expect '-'
  let month ← twoDigits 1 12
  expect '-'
  let _ ← twoDigits 1 (daysOfMonth year month)

/-- Takes a time of day. -/
def time : Scanner Unit := do
  let _ ← twoDigits 0 23
  expect ':'
  let _ ← twoDigits 0 59
  expect ':'
  let _ ← twoDigits 0 60
  if ← accept ['.'] then
    let _ ← satisfy Char.isDigit "digit"
    let _ ← takeWhile Char.isDigit

/-- Takes the offset of a time of day, if it has one. -/
def offset : Scanner Unit := do
  if ← acceptWhere fun char => char == 'Z' || char == 'z' then
    return
  if ← acceptWhere fun char => char == '+' || char == '-' then
    let _ ← twoDigits 0 23
    expect ':'
    let _ ← twoDigits 0 59

/-- Whether some characters begin with a number of digits and a given character. -/
def beginsWith (count : Nat) (mark : Char) (chars : List Char) : Bool :=
  (chars.take count).length == count && (chars.take count).all Char.isDigit &&
    (chars.drop count).head? == some mark

/-- Takes a date, and the time of day if one follows. -/
def dateAndTime : Scanner Unit := do
  date
  match ← get with
  | mark :: rest =>
      if (mark = 'T' ∨ mark = 't' ∨ mark = ' ') ∧ beginsWith 2 ':' rest then
        set rest
        time
        offset
  | [] => pure ()

/-- Takes a number or a moment; the first digits and the mark after them tell which. -/
def numberOrMoment : Scanner Value := do
  let chars ← get
  if beginsWith 4 '-' chars then
    dateAndTime
  else if beginsWith 2 ':' chars then
    time
  else
    return ← number
  let rest ← get
  return .moment (String.ofList (chars.take (chars.length - rest.length)))

end Scanner

end SecurityKey.Toml
