import SecurityKey.Proofs.Toml.Quoted
import SecurityKey.Toml.Document

/-!
# Single values that are read again

A number is written with its digits, of which the first is a zero only when it is the only one
(`exists_digits`); at the end of a line they are read as this number and as nothing else
(`numberOrMoment_digits`).  With the texts this gives all single values (`valueWith_print`), as
long as a number fits into the integers of the format (`Scalar.Fits`).
-/

set_option autoImplicit false

namespace SecurityKey.Toml

/-! ## Digits -/

namespace Scanner

theorem digits_of_pos (number : Nat) (positive : 0 < number) :
    ∃ first others, Nat.toDigits 10 number = first :: others ∧ first ≠ '0' := by
  induction number using Nat.strongRecOn with
  | ind number hypothesis =>
      rcases Nat.lt_or_ge number 10 with small | large
      · rw [Nat.toDigits_of_lt_base small]
        exact ⟨_, _, rfl, mt Nat.digitChar_eq_zero.mp (Nat.ne_of_gt positive)⟩
      · obtain ⟨first, others, spelled, nonzero⟩ :=
          hypothesis (number / 10) (by omega) (by omega)
        rw [Nat.toDigits_of_base_le (by decide) large, spelled]
        exact ⟨_, _, rfl, nonzero⟩

theorem all_digits (number : Nat) : ∀ char ∈ Nat.toDigits 10 number, char.isDigit = true :=
  fun _ => Nat.isDigit_of_mem_toDigits (by decide) (by decide)

/-- The digits of a number, of which the first is a zero only when it is the only one. -/
theorem exists_digits (number : Nat) :
    ∃ first others, Nat.toDigits 10 number = first :: others ∧ first.isDigit = true ∧
      (first = '0' → others = []) := by
  have all := all_digits number
  rcases Nat.eq_zero_or_pos number with rfl | positive
  · exact ⟨'0', [], Nat.toDigits_zero 10, rfl, fun _ => rfl⟩
  · obtain ⟨first, others, spelled, nonzero⟩ := digits_of_pos number positive
    rw [spelled] at all
    exact ⟨first, others, spelled, all first (List.mem_cons_self ..),
      fun zero => absurd zero nonzero⟩

/-- The digits of a number spell it. -/
theorem valueOf_digits (number : Nat) : valueOf 10 (Nat.toDigits 10 number) = number := by
  have agree : ∀ (digits : List Char) (start : Nat), (∀ char ∈ digits, char.isDigit = true) →
      digits.foldl (fun value digit => value * 10 + digitValue digit) start =
        Nat.ofDigitChars 10 digits start := by
    intro digits
    induction digits with
    | nil => exact fun start _ => Nat.ofDigitChars_nil.symm
    | cons digit digits hypothesis =>
        intro start all
        obtain ⟨first, others⟩ := List.forall_mem_cons.mp all
        rw [List.foldl_cons, hypothesis _ others, Nat.ofDigitChars_cons, digitValue, if_pos first,
          Nat.mul_comm]
  rw [valueOf, agree _ 0 (all_digits number),
    Nat.ofDigitChars_ten_toDigits]

/-- Digits are taken up to the end of the line. -/
theorem digitsFrom_of_all {digits : List Char} (all : ∀ char ∈ digits, char.isDigit = true)
    (rest : List Char) :
    digitsFrom Char.isDigit false (digits ++ '\n' :: rest) = .ok (digits, '\n' :: rest) := by
  induction digits with
  | nil => rfl
  | cons digit digits hypothesis =>
      obtain ⟨first, others⟩ := List.forall_mem_cons.mp all
      rw [List.cons_append, digitsFrom, if_pos first, hypothesis others]

/-- Digits at the end of a line do not begin a date or a time. -/
theorem beginsWith_digits (count : Nat) {mark : Char} {digits : List Char}
    (all : ∀ char ∈ digits, char.isDigit = true) (noDigit : mark.isDigit = false)
    (noEnd : '\n' ≠ mark) (rest : List Char) :
    beginsWith count mark (digits ++ '\n' :: rest) = false := by
  refine Bool.eq_false_iff.mpr fun begins => ?_
  simp only [beginsWith, Bool.and_eq_true, beq_iff_eq, List.all_eq_true] at begins
  obtain ⟨⟨_, taken⟩, marked⟩ := begins
  rw [List.head?_drop] at marked
  rcases Nat.lt_trichotomy count digits.length with inside | rfl | outside
  · rw [List.getElem?_append_left inside] at marked
    exact ne_of_condition (all mark (List.mem_of_getElem? marked)) noDigit rfl
  · rw [List.getElem?_append_right (Nat.le_refl _), Nat.sub_self] at marked
    exact noEnd (Option.some.inj marked)
  · have ending : '\n' ∈ (digits ++ '\n' :: rest).take count := by
      rw [List.take_append, List.take_cons (Nat.sub_pos_of_lt outside)]
      exact List.mem_append_right _ (List.mem_cons_self ..)
    exact absurd (taken '\n' ending) (by decide)

/-- No other base than ten is announced by the digits of a number at the end of a line. -/
theorem accept_base {mark : Char} (noEnd : '\n' ≠ mark) (number : Nat)
    (rest : List Char) :
    accept ['0', mark] (Nat.toDigits 10 number ++ '\n' :: rest) =
      .ok (false, Nat.toDigits 10 number ++ '\n' :: rest) := by
  obtain ⟨first, others, spelled, _, single⟩ := exists_digits number
  rw [spelled]
  refine accept_of_other fun same => ?_
  obtain ⟨zero, second⟩ := List.cons_prefix_cons.mp same
  rw [single zero.symm] at second
  exact noEnd (List.cons_prefix_cons.mp second).1.symm

theorem wholeDigits_digits (number : Nat) (rest : List Char) :
    wholeDigits (Nat.toDigits 10 number ++ '\n' :: rest) =
      .ok (Nat.toDigits 10 number, '\n' :: rest) := by
  have all := all_digits number
  obtain ⟨first, others, spelled, digit, single⟩ := exists_digits number
  rw [spelled] at all ⊢
  by_cases zero : first = '0'
  · rw [single zero, zero]
    rfl
  · have taken : satisfy Char.isDigit "digit" (first :: (others ++ '\n' :: rest)) =
        .ok (first, others ++ '\n' :: rest) := if_pos digit
    have further := digitsFrom_of_all (List.forall_mem_cons.mp all).2 rest
    rw [wholeDigits, List.cons_append, bind_of_ok (accept_of_ne [] zero)]
    exact (bind_of_ok taken).trans (bind_of_ok further)

/-- Digits do not begin with anything else. -/
theorem accept_of_not_digit {mark : Char} (behind : List Char) (noDigit : mark.isDigit = false)
    (number : Nat) (rest : List Char) :
    accept (mark :: behind) (Nat.toDigits 10 number ++ '\n' :: rest) =
      .ok (false, Nat.toDigits 10 number ++ '\n' :: rest) := by
  refine accept_of_other fun same => ?_
  obtain ⟨first, others, spelled, _⟩ := exists_digits number
  have member : mark ∈ Nat.toDigits 10 number := by
    rw [spelled] at same ⊢
    exact (List.cons_prefix_cons.mp same).1 ▸ List.mem_cons_self ..
  exact ne_of_condition (all_digits number mark member) noDigit rfl

theorem integer_of_fits {number : Nat} (fits : number < 2 ^ 63) (chars : List Char) :
    integer number chars = .ok (.integer number, chars) := by
  have low : -(2 ^ 63) ≤ (number : Int) := by omega
  have high : (number : Int) < 2 ^ 63 := by omega
  rw [integer, if_pos ⟨low, high⟩]
  rfl

/-- Digits at the end of a line are a whole number. -/
theorem afterWhole_newline (whole rest : List Char) :
    afterWhole false whole ('\n' :: rest) = integer (valueOf 10 whole : Nat) ('\n' :: rest) := by
  have point : accept ['.'] ('\n' :: rest) = .ok (false, '\n' :: rest) :=
    accept_of_ne [] (by decide)
  have noPlaces : (pure none : Scanner (Option (List Char))) ('\n' :: rest) =
      .ok (none, '\n' :: rest) := rfl
  have noExponent : exponent? ('\n' :: rest) = .ok (none, '\n' :: rest) := rfl
  rw [afterWhole, bind_of_ok point, if_neg Bool.false_ne_true, bind_of_ok noPlaces]
  dsimp only
  rw [bind_of_ok noExponent, if_pos ⟨rfl, rfl⟩, if_neg Bool.false_ne_true]

theorem number_digits {number : Nat} (fits : number < 2 ^ 63) (rest : List Char) :
    Scanner.number (Nat.toDigits 10 number ++ '\n' :: rest) =
      .ok (.integer number, '\n' :: rest) := by
  have base : ∀ mark, '\n' ≠ mark → accept ['0', mark] (Nat.toDigits 10 number ++ '\n' :: rest) =
      .ok (false, Nat.toDigits 10 number ++ '\n' :: rest) :=
    fun mark noEnd => accept_base noEnd number rest
  rw [Scanner.number, bind_of_ok (base 'x' (by decide)), if_neg Bool.false_ne_true,
    bind_of_ok (base 'o' (by decide)), if_neg Bool.false_ne_true,
    bind_of_ok (base 'b' (by decide)), if_neg Bool.false_ne_true,
    bind_of_ok (accept_of_not_digit [] rfl number rest), if_neg Bool.false_ne_true,
    bind_of_ok (accept_of_not_digit [] rfl number rest)]
  dsimp only
  rw [bind_of_ok (accept_of_not_digit ['n', 'f'] rfl number rest), if_neg Bool.false_ne_true,
    bind_of_ok (accept_of_not_digit ['a', 'n'] rfl number rest), if_neg Bool.false_ne_true,
    bind_of_ok (wholeDigits_digits number rest), afterWhole_newline, valueOf_digits,
    integer_of_fits fits]

/-- The digits of a number at the end of a line are read as this number. -/
theorem numberOrMoment_digits {number : Nat} (fits : number < 2 ^ 63) (rest : List Char) :
    numberOrMoment (Nat.toDigits 10 number ++ '\n' :: rest) =
      .ok (.integer number, '\n' :: rest) := by
  have all := all_digits number
  have current : (get : Scanner (List Char)) (Nat.toDigits 10 number ++ '\n' :: rest) =
      .ok (Nat.toDigits 10 number ++ '\n' :: rest, Nat.toDigits 10 number ++ '\n' :: rest) := rfl
  rw [numberOrMoment, bind_of_ok current, beginsWith_digits 4 all rfl (by decide),
    if_neg Bool.false_ne_true, beginsWith_digits 2 all rfl (by decide), if_neg Bool.false_ne_true]
  exact number_digits fits rest

end Scanner

/-! ## Single values -/

/-- Whether a value can be written: a number has to be an integer of the format, which no
sign stands before. -/
def Scalar.Fits : Scalar → Prop
  | .integer number => 0 ≤ number ∧ number < 2 ^ 63
  | _ => True

@[simp] theorem Scalar.fits_string (text : String) : (Scalar.string text).Fits := trivial

@[simp] theorem Scalar.fits_boolean (flag : Bool) : (Scalar.boolean flag).Fits := trivial

namespace Scanner

theorem word_newline (chars : List Char) (value : Value) (rest : List Char) :
    word chars value (chars ++ '\n' :: rest) = .ok (value, '\n' :: rest) := by
  rw [word, bind_of_ok (accept_append chars _), if_pos rfl]
  rfl

/-- A digit begins a number. -/
theorem valueWith_of_digit (inner : Option (Scanner Value)) {first : Char}
    (digit : first.isDigit = true) (others : List Char) :
    valueWith inner (first :: others) = numberOrMoment (first :: others) := by
  have next : peek (first :: others) = .ok (some first, first :: others) := rfl
  -- What is seen gets a name, because only then the match on it can be split.
  generalize first :: others = chars at next ⊢
  generalize same : some first = seen at next
  cases inner
  all_goals
    unfold valueWith
    rw [bind_of_ok next]
    dsimp only
    split
    case h_8 => cases same
    case h_7 =>
      cases same
      exact congrFun (if_pos (.inl digit)) _
    all_goals
      cases same
      cases digit

theorem print_integer (number : Nat) :
    (Scalar.integer number).print.toList = Nat.toDigits 10 number :=
  Nat.toList_repr

/-- A single value at the end of a line is read as it was printed. -/
theorem valueWith_print (inner : Option (Scanner Value)) {scalar : Scalar} (fits : scalar.Fits)
    (rest : List Char) :
    valueWith inner (scalar.print.toList ++ '\n' :: rest) = .ok (scalar.value, '\n' :: rest) := by
  cases scalar with
  | boolean flag =>
      cases flag with
      | false => exact word_newline "false".toList _ rest
      | true => exact word_newline "true".toList _ rest
  | string text =>
      obtain ⟨quoting, line, ⟨behind, begins⟩, read⟩ := Quoting.gives_quoted text.toList
      have taken : (Value.string <$> quoting.anyText) (quoted text.toList ++ '\n' :: rest) =
          .ok (.string text, '\n' :: rest) := by
        rw [map_of_ok (read rest), String.ofList_toList]
      rw [Scalar.print, String.toList_ofList]
      rw [begins] at taken ⊢
      rcases line with rfl | rfl
      · exact taken
      · exact taken
  | integer number =>
      obtain ⟨low, high⟩ := fits
      obtain ⟨number, rfl⟩ := Int.eq_ofNat_of_zero_le low
      have small : number < 2 ^ 63 := by omega
      have taken := numberOrMoment_digits small rest
      obtain ⟨first, others, spelled, digit, _⟩ := exists_digits number
      rw [print_integer]
      rw [spelled] at taken ⊢
      exact (valueWith_of_digit inner digit _).trans taken

/-- What a printed value begins with is no blank. -/
theorem print_visible {scalar : Scalar} (fits : scalar.Fits) :
    ∃ first others, scalar.print.toList = first :: others ∧ isBlank first = false := by
  cases scalar with
  | boolean flag =>
      cases flag with
      | false => exact ⟨_, _, rfl, rfl⟩
      | true => exact ⟨_, _, rfl, rfl⟩
  | string text =>
      obtain ⟨quoting, line, ⟨behind, begins⟩, _⟩ := Quoting.gives_quoted text.toList
      refine ⟨quoting.quote, behind, (String.toList_ofList ..).trans begins, ?_⟩
      rcases line with rfl | rfl
      · rfl
      · rfl
  | integer number =>
      obtain ⟨number, rfl⟩ := Int.eq_ofNat_of_zero_le fits.1
      obtain ⟨first, others, spelled, digit, _⟩ := exists_digits number
      exact ⟨first, others, (print_integer number).trans spelled,
        visible_of_condition rfl rfl digit⟩

end Scanner
end SecurityKey.Toml
