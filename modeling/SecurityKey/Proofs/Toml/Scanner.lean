import SecurityKey.Toml.Scanner

/-!
# Scanners that succeed

A scanner is followed through a document step by step: what it takes, and what it leaves for the
next one (`bind_of_ok`, `map_of_ok`).  What stops a scanner that takes as much as it can is the
character behind (`takeWhile_of_all`, `blanks_of_visible`).
-/

set_option autoImplicit false

namespace SecurityKey.Toml.Scanner

variable {α β : Type} {scanner : Scanner α} {value : α} {chars rest : List Char}

theorem bind_of_ok {next : α → Scanner β} (ran : scanner chars = .ok (value, rest)) :
    (scanner >>= next) chars = next value rest := by
  change (scanner chars >>= fun taken => next taken.1 taken.2) = _
  rw [ran]
  rfl

theorem map_of_ok {function : α → β} (ran : scanner chars = .ok (value, rest)) :
    (function <$> scanner) chars = .ok (function value, rest) := by
  change (scanner chars >>= fun taken => pure (function taken.1, taken.2)) = _
  rw [ran]
  rfl

/-! ## Single characters -/

theorem accept_append (expected rest : List Char) :
    accept expected (expected ++ rest) = .ok (true, rest) := by
  rw [accept, if_pos (List.isPrefixOf_iff_prefix.mpr (List.prefix_append expected rest)),
    List.drop_left]

theorem accept_of_other {expected : List Char} (other : ¬expected <+: chars) :
    accept expected chars = .ok (false, chars) := by
  rw [accept, if_neg (mt List.isPrefixOf_iff_prefix.mp other)]

/-- What begins with another character is not accepted. -/
theorem accept_of_ne {char first : Char} (behind : List Char) (other : first ≠ char) :
    accept (char :: behind) (first :: rest) = .ok (false, first :: rest) :=
  accept_of_other fun same => other (List.cons_prefix_cons.mp same).1.symm

theorem expect_cons (char : Char) : expect char (char :: rest) = .ok ((), rest) :=
  if_pos rfl

/-! ## Runs of characters -/

/-- A condition tells characters apart. -/
theorem ne_of_condition {condition : Char → Bool} {char mark : Char}
    (holds : condition char = true) (fails : condition mark = false) : char ≠ mark := by
  rintro rfl
  exact Bool.false_ne_true (fails.symm.trans holds)

/-- Characters that satisfy a condition are not blank, if blanks do not. -/
theorem visible_of_condition {condition : Char → Bool} (space : condition ' ' = false)
    (tab : condition '\t' = false) {char : Char} (holds : condition char = true) :
    isBlank char = false := by
  rw [isBlank, beq_eq_false_iff_ne.mpr (ne_of_condition holds space),
    beq_eq_false_iff_ne.mpr (ne_of_condition holds tab)]
  rfl

/-- Characters that all satisfy a condition, before one that does not. -/
theorem takeWhile_of_all {condition : Char → Bool} {taken : List Char} {next : Char}
    (all : ∀ char ∈ taken, condition char = true) (stops : condition next = false) :
    takeWhile condition (taken ++ next :: rest) = .ok (taken, next :: rest) := by
  have none : ¬condition next = true := by
    rw [stops]
    exact Bool.false_ne_true
  rw [takeWhile, List.takeWhile_append_of_pos all, List.dropWhile_append_of_pos all,
    List.takeWhile_cons_of_neg none, List.dropWhile_cons_of_neg none, List.append_nil]

/-- A character that is not blank is left. -/
theorem blanks_of_visible {next : Char} (visible : isBlank next = false) :
    blanks (next :: rest) = .ok ((), next :: rest) := by
  have none : ¬isBlank next = true := by
    rw [visible]
    exact Bool.false_ne_true
  rw [blanks, List.dropWhile_cons_of_neg none]

theorem blanks_space {next : Char} (visible : isBlank next = false) :
    blanks (' ' :: next :: rest) = .ok ((), next :: rest) :=
  blanks_of_visible visible

/-- The end of a line directly after something. -/
theorem lineEnd_newline : lineEnd ('\n' :: rest) = .ok ((), rest) := rfl

/-- A step that says that there is no more is taken once. -/
theorem repeatWhile_once {step : Scanner (α × Bool)}
    (ran : step chars = .ok ((value, false), rest)) :
    repeatWhile step chars = .ok ([value], rest) := by
  rw [repeatWhile, repeatBounded, bind_of_ok ran]
  rfl

end SecurityKey.Toml.Scanner
