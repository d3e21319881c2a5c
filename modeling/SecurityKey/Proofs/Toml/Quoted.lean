import SecurityKey.Proofs.Toml.Scanner
import SecurityKey.Toml.Printer

/-!
# Quoted text that is read again

A text is spelled between quotes character by character: a quote in a row that is still short
enough, a character that stands for itself, or an escape sequence (`Quoting.Spells`).  Whatever
the kind of quotes, a text that is spelled is read again (`scan_of_spells`).  The quotes of a row
are held back until it is known that they do not close the text, so the induction is about a
text with some quotes in front.

The printer spells every text between the quotes that it chooses, in double quotes because it
escapes what has to be escaped (`spells_escapedChars`), and in single quotes because it chooses
them only for a text that stands for itself (`spells_literal`).  So every text comes back
(`gives_quoted`).
-/

set_option autoImplicit false

namespace SecurityKey.Toml
namespace Quoting

variable {quoting : Quoting}

/-! ## One character after the other -/

/-- What is read behind some characters that have been read already. -/
def behind (front : List Char) (scanned : Except Fault (List Char × List Char)) :
    Except Fault (List Char × List Char) :=
  scanned.map fun scanned => (front ++ scanned.1, scanned.2)

theorem behind_ok (front chars rest : List Char) :
    behind front (.ok (chars, rest)) = .ok (front ++ chars, rest) := rfl

theorem behind_nil (scanned : Except Fault (List Char × List Char)) :
    behind [] scanned = scanned := by
  cases scanned with
  | error fault => rfl
  | ok scanned => rfl

theorem scan_more {phase next : Phase} {char : Char} {chars : List Char}
    (turn : quoting.step phase char = .more chars next) (rest : List Char) :
    quoting.scan phase (char :: rest) = behind chars (quoting.scan next rest) := by
  rw [scan, turn]
  simp only
  cases quoting.scan next rest with
  | error fault => rfl
  | ok scanned => rfl

/-- What the automaton expects behind some quotes in a row that are part of the text. -/
def afterRow : Nat → Phase
  | 0 => .text
  | row + 1 => .quotes (row + 1)

theorem rowLimit_le (multiline : Bool) : rowLimit multiline ≤ 2 := by
  cases multiline <;> decide

/-- A character that is no quote ends a row. -/
theorem step_afterRow {row : Nat} (room : row ≤ 2) {char : Char} (other : char ≠ quoting.quote) :
    quoting.step (afterRow row) char =
      (quoting.textStep char).after (List.replicate row quoting.quote) := by
  cases row with
  | zero =>
      change quoting.textStep char = _
      cases quoting.textStep char <;> rfl
  | succ row =>
      change (if char = quoting.quote then _ else if row + 1 < 3 then _ else _) = _
      rw [if_neg other, if_pos (Nat.lt_succ_of_le room)]

/-- A quote goes on with a row. -/
theorem step_afterRow_quote (several : quoting.multiline = true) {row : Nat} (short : row < 4) :
    quoting.step (afterRow row) quoting.quote = .more [] (afterRow (row + 1)) := by
  cases row with
  | zero =>
      change quoting.textStep quoting.quote = _
      rw [textStep, if_pos rfl, if_pos several]
      rfl
  | succ row =>
      change (if quoting.quote = quoting.quote then if row + 1 < 4 then _ else _ else _) = _
      rw [if_pos rfl, if_pos short]
      rfl

/-! ## Spelling -/

/-- A body spells a text, behind some quotes in a row. -/
inductive Spells (quoting : Quoting) : (row : Nat) → (body chars : List Char) → Prop where
  | nil (row : Nat) : Spells quoting row [] []
  | quote {row : Nat} {body chars : List Char} (room : row < rowLimit quoting.multiline)
      (others : Spells quoting (row + 1) body chars) :
      Spells quoting row (quoting.quote :: body) (quoting.quote :: chars)
  | plain {row : Nat} {char : Char} {body chars : List Char} (other : char ≠ quoting.quote)
      (taken : quoting.textStep char = .more [char] .text) (others : Spells quoting 0 body chars) :
      Spells quoting row (char :: body) (char :: chars)
  | escape {row : Nat} {char : Char} {sequence body chars : List Char}
      (escapes : quoting.textStep '\\' = .more [] .escape)
      (taken : ∀ rest, quoting.scan .escape (sequence ++ rest) =
        behind [char] (quoting.scan .text rest))
      (others : Spells quoting 0 body chars) :
      Spells quoting row ('\\' :: (sequence ++ body)) (char :: chars)

/-- What stands at both ends of a text. -/
def delimiter (quoting : Quoting) : List Char :=
  if quoting.multiline then quoting.fence else [quoting.quote]

/-- The end of a text, behind some quotes in a row. -/
theorem scan_delimiter {row : Nat} (room : row ≤ rowLimit quoting.multiline)
    (visible : '\n' ≠ quoting.quote) (rest : List Char) :
    quoting.scan (afterRow row) (quoting.delimiter ++ '\n' :: rest) =
      .ok (List.replicate row quoting.quote, '\n' :: rest) := by
  cases several : quoting.multiline with
  | false =>
      rw [several] at room
      obtain rfl := Nat.le_zero.mp room
      have closes : quoting.step .text quoting.quote = .closed [] := by
        change quoting.textStep quoting.quote = _
        rw [textStep, if_pos rfl, several]
        rfl
      rw [delimiter, several]
      change quoting.scan .text (quoting.quote :: '\n' :: rest) = _
      rw [scan, closes]
      rfl
  | true =>
      rw [several] at room
      rw [delimiter, if_pos several]
      change quoting.scan (afterRow row)
        (quoting.quote :: quoting.quote :: quoting.quote :: '\n' :: rest) = _
      have short : row ≤ 2 := room
      rw [scan_more (step_afterRow_quote several (by omega)),
        scan_more (step_afterRow_quote several (by omega))]
      rcases Nat.lt_or_eq_of_le short with fewer | rfl
      · have closes : quoting.step (afterRow (row + 3)) '\n' =
            .closedBefore (List.replicate row quoting.quote) := by
          change (if '\n' = quoting.quote then _ else if row + 3 < 3 then _ else _) = _
          rw [if_neg visible, if_neg (by omega)]
          rfl
        rw [scan_more (step_afterRow_quote several (by omega)), scan, closes]
        rfl
      · have closes : quoting.step (afterRow 4) quoting.quote =
            .closed [quoting.quote, quoting.quote] := by
          change (if quoting.quote = quoting.quote then _ else _) = _
          rw [if_pos rfl]
          rfl
        rw [scan, closes]
        rfl

/-- A text that is spelled is read. -/
theorem scan_of_spells {row : Nat} {body chars : List Char} (spells : Spells quoting row body chars)
    (room : row ≤ rowLimit quoting.multiline) (visible : '\n' ≠ quoting.quote)
    (unescaped : '\\' ≠ quoting.quote) (rest : List Char) :
    quoting.scan (afterRow row) (body ++ quoting.delimiter ++ '\n' :: rest) =
      .ok (List.replicate row quoting.quote ++ chars, '\n' :: rest) := by
  have short := rowLimit_le quoting.multiline
  induction spells with
  | nil row =>
      rw [List.nil_append, List.append_nil]
      exact scan_delimiter room visible rest
  | @quote row body chars further _ hypothesis =>
      have several : quoting.multiline = true := by
        cases several : quoting.multiline with
        | true => rfl
        | false =>
            rw [several] at further
            exact absurd further (Nat.not_lt_zero row)
      rw [List.cons_append, List.cons_append,
        scan_more (step_afterRow_quote several (by omega)), hypothesis further, behind_ok,
        List.replicate_succ', List.append_assoc]
      rfl
  | @plain row char body chars other taken _ hypothesis =>
      have turn := step_afterRow (Nat.le_trans room short) other
      rw [taken] at turn
      rw [List.cons_append, List.cons_append, scan_more turn]
      rw [show Phase.text = afterRow 0 from rfl, hypothesis (Nat.zero_le _), behind_ok,
        List.append_assoc]
      rfl
  | @escape row char sequence body chars escapes taken _ hypothesis =>
      have turn := step_afterRow (Nat.le_trans room short) unescaped
      rw [escapes] at turn
      rw [List.cons_append, List.cons_append, scan_more turn, List.append_assoc,
        List.append_assoc, taken, ← List.append_assoc]
      rw [show Phase.text = afterRow 0 from rfl, hypothesis (Nat.zero_le _), behind_ok, behind_ok,
        List.append_nil]
      rfl

/-! ## Double quotes -/

theorem textStep_of_unescaped {multiline : Bool} {char : Char}
    (unescaped : escaped? multiline char = none) (other : char ≠ '\x22') :
    textStep ⟨'\x22', true, multiline⟩ char = .more [char] .text := by
  rw [escaped?.eq_def] at unescaped
  split at unescaped
  · cases unescaped
  · cases unescaped
  · split at unescaped
    · rename_i several
      subst several
      rfl
    · cases unescaped
  · cases unescaped
  · cases unescaped
  · cases unescaped
  · rename_i _ _ newline _ carriageReturn backslash
    split at unescaped
    · rename_i printable
      rw [textStep, if_neg other, if_neg fun escapes => backslash escapes.2,
        if_neg fun ends => newline ends.2, if_neg fun ends => carriageReturn ends.2,
        if_pos printable]
    · cases unescaped

/-- Digits in base sixteen are read as they are written. -/
theorem hexDigit?_hexDigit {digit : Nat} (small : digit < 16) :
    Literal.hexDigit? (hexDigit digit) = some digit := by
  revert digit
  decide

theorem step_hexDigit (left value code : Nat) :
    quoting.step (.digits (left + 2) value) (hexDigit (code % 16)) =
      .more [] (.digits (left + 1) (value * 16 + code % 16)) := by
  change digitStep _ _ _ = _
  rw [digitStep, hexDigit?_hexDigit (Nat.mod_lt code (by decide))]
  rfl

/-- The last digit gives the character. -/
theorem step_lastDigit {value code : Nat} {char : Char}
    (whole : value * 16 + code % 16 = char.toNat) :
    quoting.step (.digits 1 value) (hexDigit (code % 16)) = .more [char] .text := by
  have valid : char.toNat.isValidChar := char.valid
  change digitStep _ _ _ = _
  rw [digitStep, hexDigit?_hexDigit (Nat.mod_lt code (by decide))]
  simp only [whole, Nat.le_refl, if_true, Literal.char?, if_pos valid, Char.ofNat_toNat]

/-- The escape sequence for a character is read. -/
theorem scan_codePointEscape (char : Char) (small : char.toNat < 2 ^ 16) (rest : List Char) :
    quoting.scan .escape ((codePointEscape char).tail ++ rest) =
      behind [char] (quoting.scan .text rest) := by
  have whole : (((0 * 16 + char.toNat / 4096 % 16) * 16 + char.toNat / 256 % 16) * 16 +
      char.toNat / 16 % 16) * 16 + char.toNat % 16 = char.toNat := by
    omega
  change quoting.scan .escape ('u' :: hexDigit (char.toNat / 4096 % 16) ::
    hexDigit (char.toNat / 256 % 16) :: hexDigit (char.toNat / 16 % 16) ::
      hexDigit (char.toNat % 16) :: rest) = _
  have start : quoting.step .escape 'u' = .more [] (.digits 4 0) := rfl
  rw [scan_more start, scan_more (step_hexDigit 2 _ _), scan_more (step_hexDigit 1 _ _),
    scan_more (step_hexDigit 0 _ _), scan_more (step_lastDigit whole), behind_nil, behind_nil,
    behind_nil, behind_nil]

theorem toNat_lt_of_unprintable {char : Char} (unprintable : ¬Scanner.isPrintable char = true) :
    char.toNat < 2 ^ 16 := by
  simp only [Scanner.isPrintable, Bool.or_eq_true, Bool.and_eq_true, decide_eq_true_eq, not_or,
    not_and, Decidable.not_not] at unprintable
  by_cases control : char.toNat < 0x20
  · exact Nat.lt_trans control (by decide)
  · rw [unprintable.2 (Nat.not_lt.mp control)]
    decide

theorem scan_of_escaped {multiline : Bool} {char : Char} {sequence : List Char}
    (escaped : escaped? multiline char = some sequence) :
    ∃ tail, sequence = '\\' :: tail ∧ ∀ rest,
      scan ⟨'\x22', true, multiline⟩ .escape (tail ++ rest) =
        behind [char] (scan ⟨'\x22', true, multiline⟩ .text rest) := by
  rw [escaped?.eq_def] at escaped
  split at escaped
  · cases escaped
    exact ⟨['b'], rfl, fun rest => scan_more rfl rest⟩
  · cases escaped
    exact ⟨['t'], rfl, fun rest => scan_more rfl rest⟩
  · split at escaped
    · cases escaped
    · cases escaped
      exact ⟨['n'], rfl, fun rest => scan_more rfl rest⟩
  · cases escaped
    exact ⟨['f'], rfl, fun rest => scan_more rfl rest⟩
  · cases escaped
    exact ⟨['r'], rfl, fun rest => scan_more rfl rest⟩
  · cases escaped
    exact ⟨['\\'], rfl, fun rest => scan_more rfl rest⟩
  · split at escaped
    · cases escaped
    · rename_i unprintable
      cases escaped
      exact ⟨(codePointEscape char).tail, rfl,
        scan_codePointEscape char (toNat_lt_of_unprintable unprintable)⟩

/-- Between double quotes every text is spelled, with escape sequences where they are needed. -/
theorem spells_escapedChars (multiline : Bool) (row : Nat) (chars : List Char) :
    Spells ⟨'\x22', true, multiline⟩ row (escapedChars multiline row chars) chars := by
  induction chars generalizing row with
  | nil => exact .nil row
  | cons char chars hypothesis =>
      rw [escapedChars]
      split
      · rename_i quote
        subst quote
        split
        · rename_i room
          exact .quote room (hypothesis (row + 1))
        · have taken : ∀ rest, scan ⟨'\x22', true, multiline⟩ .escape (['\x22'] ++ rest) =
              behind ['\x22'] (scan ⟨'\x22', true, multiline⟩ .text rest) :=
            fun rest => scan_more rfl rest
          exact .escape rfl taken (hypothesis 0)
      · rename_i other
        cases escaped : escaped? multiline char with
        | none => exact .plain other (textStep_of_unescaped escaped other) (hypothesis 0)
        | some sequence =>
            obtain ⟨tail, rfl, taken⟩ := scan_of_escaped escaped
            exact .escape rfl taken (hypothesis 0)

/-! ## Single quotes -/

theorem le_longestRow (char : Char) (current : Nat) (chars : List Char) :
    current ≤ TextTraits.longestRow char current chars := by
  induction chars generalizing current with
  | nil => exact Nat.le_refl current
  | cons other rest hypothesis =>
      rw [TextTraits.longestRow]
      split
      · exact Nat.le_trans (Nat.le_succ current) (hypothesis (current + 1))
      · exact Nat.le_max_left _ _

/-- A character that stands for itself in text in single quotes. -/
def Plain (multiline : Bool) (char : Char) : Prop :=
  (multiline = true ∧ char = '\n') ∨ Scanner.isPrintable char = true

theorem textStep_of_plain {multiline : Bool} {char : Char} (plain : Plain multiline char)
    (other : char ≠ '\x27') :
    textStep ⟨'\x27', false, multiline⟩ char = .more [char] .text := by
  rcases plain with ⟨rfl, rfl⟩ | printable
  · rfl
  · have newline : char ≠ '\n' := Scanner.ne_of_condition printable rfl
    have carriageReturn : char ≠ '\r' := Scanner.ne_of_condition printable rfl
    rw [textStep, if_neg other, if_neg fun escapes => Bool.false_ne_true escapes.1,
      if_neg fun ends => newline ends.2, if_neg fun ends => carriageReturn ends.2,
      if_pos printable]

/-- Between single quotes a text without long rows of them is spelled by itself, if all its
characters stand for themselves. -/
theorem spells_literal {multiline : Bool} {row : Nat} {chars : List Char}
    (short : TextTraits.longestRow '\x27' row chars ≤ rowLimit multiline)
    (plain : ∀ char ∈ chars, Plain multiline char) :
    Spells ⟨'\x27', false, multiline⟩ row chars chars := by
  induction chars generalizing row with
  | nil => exact .nil row
  | cons char chars hypothesis =>
      obtain ⟨first, others⟩ := List.forall_mem_cons.mp plain
      rw [TextTraits.longestRow] at short
      split at short
      · rename_i quote
        subst quote
        exact .quote (Nat.lt_of_lt_of_le (le_longestRow _ _ _) short) (hypothesis short others)
      · rename_i other
        exact .plain other (textStep_of_plain first other)
          (hypothesis (Nat.le_trans (Nat.le_max_right _ _) short) others)

/-! ## Whole texts -/

/-- The kinds of quotes on one line. -/
def IsLine (quoting : Quoting) : Prop := quoting = .basic ∨ quoting = .literal

theorem IsLine.quote_ne (line : quoting.IsLine) :
    '\n' ≠ quoting.quote ∧ '\r' ≠ quoting.quote ∧ '\\' ≠ quoting.quote := by
  rcases line with rfl | rfl <;> decide

theorem IsLine.multiline (line : quoting.IsLine) : quoting.multiline = false := by
  rcases line with rfl | rfl <;> rfl

/-- Nothing on one line begins with three quotes. -/
theorem no_fence_of_spells (line : quoting.IsLine) {body chars : List Char}
    (spells : Spells quoting 0 body chars) (rest : List Char) :
    ¬quoting.fence <+: quoting.quote :: (body ++ quoting.quote :: '\n' :: rest) := by
  intro opens
  have others := (List.cons_prefix_cons.mp opens).2
  obtain ⟨newline, _, backslash⟩ := line.quote_ne
  cases spells with
  | nil => exact newline (List.cons_prefix_cons.mp (List.cons_prefix_cons.mp others).2).1.symm
  | quote room =>
      rw [line.multiline] at room
      exact Nat.not_lt_zero 0 room
  | plain other => exact other (List.cons_prefix_cons.mp others).1.symm
  | escape => exact backslash (List.cons_prefix_cons.mp others).1.symm

/-- A text on one line is read. -/
theorem anyText_line (line : quoting.IsLine) {body chars : List Char}
    (spells : Spells quoting 0 body chars) (rest : List Char) :
    quoting.anyText (quoting.quote :: (body ++ quoting.quote :: '\n' :: rest)) =
      .ok (String.ofList chars, '\n' :: rest) := by
  obtain ⟨newline, _, backslash⟩ := line.quote_ne
  have read := scan_of_spells spells (Nat.zero_le _) newline backslash rest
  rw [delimiter, line.multiline, List.append_assoc] at read
  have opens := Scanner.accept_of_other (no_fence_of_spells line spells rest)
  rw [anyText, Scanner.bind_of_ok opens]
  exact (Scanner.bind_of_ok (Scanner.expect_cons _)).trans (Scanner.map_of_ok read)

/-- What a text over several lines begins with is no line feed of its own. -/
theorem head_ne_of_spells (line : quoting.IsLine) {body chars : List Char}
    (spells : Spells quoting.overLines 0 body chars) (without : '\n' ∉ chars) (rest : List Char) :
    ∃ first others, body ++ quoting.quote :: rest = first :: others ∧ first ≠ '\n' ∧
      first ≠ '\r' := by
  obtain ⟨newline, carriageReturn, _⟩ := line.quote_ne
  cases spells with
  | nil => exact ⟨_, _, rfl, newline.symm, carriageReturn.symm⟩
  | quote => exact ⟨_, _, rfl, newline.symm, carriageReturn.symm⟩
  | @plain _ char _ _ other taken =>
      refine ⟨_, _, rfl, fun same => without (same ▸ List.mem_cons_self ..), ?_⟩
      rintro rfl
      rcases line with rfl | rfl
      · exact absurd taken (by decide)
      · exact absurd taken (by decide)
  | escape => exact ⟨_, _, rfl, by decide, by decide⟩

/-- A text over several lines is read. -/
theorem anyText_lines (line : quoting.IsLine) {body chars : List Char}
    (spells : Spells quoting.overLines 0 body chars) (rest : List Char) :
    quoting.anyText (quoting.fence ++
        ((if chars.contains '\n' then ['\n'] else []) ++
          (body ++ quoting.fence ++ '\n' :: rest))) =
      .ok (String.ofList chars, '\n' :: rest) := by
  obtain ⟨newline, _, backslash⟩ := line.quote_ne
  have read : quoting.overLines.scan .text (body ++ quoting.fence ++ '\n' :: rest) =
      .ok (chars, '\n' :: rest) :=
    scan_of_spells spells (Nat.zero_le _) newline backslash rest
  rw [anyText, Scanner.bind_of_ok (Scanner.accept_append _ _)]
  by_cases newlines : '\n' ∈ chars
  · rw [if_pos (List.contains_iff_mem.mpr newlines)]
    exact Scanner.map_of_ok read
  · rw [if_neg (mt List.contains_iff_mem.mp newlines), List.nil_append]
    obtain ⟨first, others, starts, notNewline, notReturn⟩ :=
      head_ne_of_spells line spells newlines (quoting.quote :: quoting.quote :: '\n' :: rest)
    have same : body ++ quoting.fence ++ '\n' :: rest = first :: others := by
      rw [List.append_assoc]
      exact starts
    rw [same] at read ⊢
    have current : (get : Scanner (List Char)) (first :: others) =
        .ok (first :: others, first :: others) := rfl
    rw [if_pos rfl, Scanner.bind_of_ok current]
    refine Eq.trans (congrFun (g := String.ofList <$> quoting.overLines.scan .text) ?_ _)
      (Scanner.map_of_ok read)
    split
    · rename_i begins
      exact absurd (List.cons.inj begins).1 notNewline
    · rename_i begins
      exact absurd (List.cons.inj begins).1 notReturn
    · rfl

/-- Single quotes are chosen only for a text that they can hold as it stands. -/
theorem choose_cases (traits : TextTraits) :
    choose traits = .basic ∨ choose traits = Quoting.basic.overLines ∨
      (choose traits = .literal ∧ traits.unprintable = false ∧ traits.singleQuotes = 0 ∧
        traits.newline = false) ∨
      (choose traits = Quoting.literal.overLines ∧ traits.unprintable = false ∧
        traits.singleQuotes ≤ 2) := by
  rw [choose]
  split
  · exact .inl rfl
  split
  · rename_i held
    simp only [Bool.and_eq_true, Bool.not_eq_true', beq_iff_eq] at held
    exact .inr (.inr (.inl ⟨rfl, held.1.1, held.1.2, held.2⟩))
  split
  · exact .inr (.inl rfl)
  split
  · rename_i held
    simp only [Bool.and_eq_true, Bool.not_eq_true', decide_eq_true_eq] at held
    exact .inr (.inr (.inr ⟨rfl, held.1, held.2⟩))
  split
  · exact .inr (.inl rfl)
  · exact .inl rfl

/-- A text that has no unprintable characters stands for itself over several lines. -/
theorem plain_of_printable {chars : List Char}
    (printable : (TextTraits.ofChars chars).unprintable = false) :
    ∀ char ∈ chars, Plain true char := by
  intro char member
  have fine := List.any_eq_false.mp printable char member
  rw [Bool.and_eq_true, bne_iff_ne, Bool.not_eq_true', not_and, Bool.not_eq_false] at fine
  by_cases newline : char = '\n'
  · exact .inl ⟨rfl, newline⟩
  · exact .inr (fine newline)

/-- What is written gives a text when it is read, in the quotes that it begins with. -/
def Gives (written chars : List Char) : Prop :=
  ∃ quoting : Quoting, quoting.IsLine ∧ (∃ behind, written = quoting.quote :: behind) ∧
    ∀ rest, quoting.anyText (written ++ '\n' :: rest) = .ok (String.ofList chars, '\n' :: rest)

theorem gives_line (line : quoting.IsLine) {body chars : List Char}
    (spells : Spells quoting 0 body chars) :
    Gives ([quoting.quote] ++ [] ++ body ++ [quoting.quote]) chars := by
  refine ⟨quoting, line, ⟨_, rfl⟩, fun rest => ?_⟩
  have read := anyText_line line spells rest
  simpa only [List.append_assoc, List.cons_append, List.nil_append] using read

theorem gives_lines (line : quoting.IsLine) {body chars : List Char}
    (spells : Spells quoting.overLines 0 body chars) :
    Gives (quoting.fence ++ (if chars.contains '\n' then ['\n'] else []) ++ body ++
      quoting.fence) chars := by
  refine ⟨quoting, line, ⟨_, rfl⟩, fun rest => ?_⟩
  have read := anyText_lines line spells rest
  simpa only [List.append_assoc] using read

/-- Every text is read from what is printed. -/
theorem gives_quoted (chars : List Char) : Gives (quoted chars) chars := by
  rcases choose_cases (TextTraits.ofChars chars) with
    chosen | chosen | ⟨chosen, printable, none, one⟩ | ⟨chosen, printable, short⟩
  · rw [quoted, chosen]
    exact gives_line (.inl rfl) (spells_escapedChars false 0 chars)
  · rw [quoted, chosen]
    exact gives_lines (.inl rfl) (spells_escapedChars true 0 chars)
  · have plain : ∀ char ∈ chars, Plain false char := by
      intro char member
      rcases plain_of_printable printable char member with ⟨_, rfl⟩ | fine
      · exact absurd (List.contains_iff_mem.mpr member) (Bool.eq_false_iff.mp one)
      · exact .inr fine
    rw [quoted, chosen]
    exact gives_line (.inr rfl) (spells_literal (Nat.le_of_eq none) plain)
  · rw [quoted, chosen]
    exact gives_lines (.inr rfl) (spells_literal short (plain_of_printable printable))

end Quoting
end SecurityKey.Toml
