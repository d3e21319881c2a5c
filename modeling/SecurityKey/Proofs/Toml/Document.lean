import SecurityKey.Proofs.Toml.Draft
import SecurityKey.Proofs.Toml.Scalar

/-!
# Documents that are read again

A document is read line by line.  `Reads` says what some lines do to what has been read before,
whatever follows them; the bound on the number of lines never matters, because every line takes
a character at least (`Reads.trans`).

A section whose names are plain and differ, and whose numbers fit (`Section.Proper`), is read
as it was printed, first its header and then its entries one after the other
(`reads_entries`), and so are sections with empty lines between them (`reads_sections`).  A
document that was printed therefore describes the table of its sections (`parse_printAll`).
-/

set_option autoImplicit false

namespace SecurityKey.Toml

/-! ## Keys -/

/-- A name that is written without quotes. -/
def IsKey (name : String) : Prop :=
  name.toList ≠ [] ∧ name.toList.all Scanner.isBare = true

instance (name : String) : Decidable (IsKey name) := inferInstanceAs (Decidable (_ ∧ _))

theorem IsKey.exists_cons {name : String} (plain : IsKey name) :
    ∃ first others, name.toList = first :: others ∧ Scanner.isBare first = true := by
  obtain ⟨first, others, spelled⟩ := List.exists_cons_of_ne_nil plain.1
  exact ⟨first, others, spelled,
    List.all_eq_true.mp plain.2 first (spelled ▸ List.mem_cons_self ..)⟩

namespace Scanner

/-- A plain name is taken up to a character that ends it. -/
theorem keyPart_of_isKey {name : String} (plain : IsKey name) {next : Char}
    (ends : isBare next = false) (rest : List Char) :
    keyPart (name.toList ++ next :: rest) = .ok (name, next :: rest) := by
  obtain ⟨first, others, spelled, bare⟩ := plain.exists_cons
  have taken : takeWhile isBare (name.toList ++ next :: rest) = .ok (name.toList, next :: rest) :=
    takeWhile_of_all (List.all_eq_true.mp plain.2) ends
  have look : peek (name.toList ++ next :: rest) =
      .ok (some first, name.toList ++ next :: rest) := by
    rw [spelled]
    rfl
  -- What is seen gets a name, because only then the match on it can be split.
  generalize same : some first = seen at look
  rw [keyPart, bind_of_ok look]
  split
  case h_1 => exact absurd (Option.some.inj same) (ne_of_condition bare rfl)
  case h_2 => exact absurd (Option.some.inj same) (ne_of_condition bare rfl)
  case h_3 =>
    rw [bind_of_ok taken]
    dsimp only
    rw [if_neg (mt List.isEmpty_iff.mp plain.1), String.ofList_toList]
    rfl

/-- A plain name is a key with one part. -/
theorem key_of_isKey {name : String} (plain : IsKey name) {next mark : Char}
    {behind rest : List Char} (ends : isBare next = false)
    (blank : blanks (next :: behind) = .ok ((), mark :: rest)) (noDot : mark ≠ '.') :
    key (name.toList ++ next :: behind) = .ok (([], name), mark :: rest) := by
  obtain ⟨first, others, spelled, bare⟩ := plain.exists_cons
  have noBlank : blanks (name.toList ++ next :: behind) =
      .ok ((), name.toList ++ next :: behind) := by
    rw [spelled]
    exact blanks_of_visible (visible_of_condition rfl rfl bare)
  have step : (do
        blanks
        let part ← keyPart
        blanks
        let more ← accept ['.']
        pure (part, more) : Scanner (String × Bool)) (name.toList ++ next :: behind) =
      .ok ((name, false), mark :: rest) := by
    rw [bind_of_ok noBlank, bind_of_ok (keyPart_of_isKey plain ends behind), bind_of_ok blank,
      bind_of_ok (accept_of_ne [] noDot)]
    rfl
  rw [key, bind_of_ok (repeatWhile_once step)]
  rfl

/-! ## Single lines -/

theorem entryLine_text {name : String} (plain : IsKey name) {scalar : Scalar} (fits : scalar.Fits)
    (draft : Draft) (rest : List Char) :
    entryLine draft (name.toList ++ ' ' :: '=' :: ' ' :: (scalar.print.toList ++ '\n' :: rest)) =
      lift (draft.insert ([], name) scalar.value) rest := by
  obtain ⟨first, others, spelled, visible⟩ := print_visible fits
  have named : key (name.toList ++ ' ' :: '=' :: ' ' :: (scalar.print.toList ++ '\n' :: rest)) =
      .ok (([], name), '=' :: ' ' :: (scalar.print.toList ++ '\n' :: rest)) :=
    key_of_isKey plain rfl (blanks_space rfl) (by decide)
  have noBlank : blanks (' ' :: (scalar.print.toList ++ '\n' :: rest)) =
      .ok ((), scalar.print.toList ++ '\n' :: rest) := by
    rw [spelled]
    exact blanks_space visible
  have taken : value maximumDepth (scalar.print.toList ++ '\n' :: rest) =
      .ok (scalar.value, '\n' :: rest) := valueWith_print (some (value 78)) fits rest
  have whole : entry (value maximumDepth)
        (name.toList ++ ' ' :: '=' :: ' ' :: (scalar.print.toList ++ '\n' :: rest)) =
      .ok ((([], name), scalar.value), '\n' :: rest) := by
    rw [entry, bind_of_ok named, bind_of_ok (expect_cons '='), bind_of_ok noBlank,
      bind_of_ok taken]
    rfl
  rw [entryLine, bind_of_ok whole]
  dsimp only
  rw [bind_of_ok lineEnd_newline]

theorem headerLine_text {name : String} (plain : IsKey name) (draft : Draft) (rest : List Char) :
    headerLine draft ('[' :: (name.toList ++ ']' :: '\n' :: rest)) =
      lift (draft.header false ([], name)) rest := by
  obtain ⟨first, others, spelled, bare⟩ := plain.exists_cons
  have single : accept ['['] (name.toList ++ ']' :: '\n' :: rest) =
      .ok (false, name.toList ++ ']' :: '\n' :: rest) := by
    rw [spelled]
    exact accept_of_ne [] (ne_of_condition bare rfl)
  have named : key (name.toList ++ ']' :: '\n' :: rest) =
      .ok (([], name), ']' :: '\n' :: rest) :=
    key_of_isKey plain rfl (blanks_of_visible rfl) (by decide)
  rw [headerLine, bind_of_ok (expect_cons '['), bind_of_ok single, bind_of_ok named,
    bind_of_ok (expect_cons ']')]
  dsimp only
  rw [if_neg Bool.false_ne_true, bind_of_ok lineEnd_newline]

/-! ## Lines one after the other -/

/-- Some lines lead from what had been read before to what has been read after them, whatever
follows and however many lines may be taken. -/
def Reads (before : Draft) (chars : List Char) (after : Draft) : Prop :=
  ∀ rest bound, (chars ++ rest).length < bound →
    ∃ left, rest.length < left ∧ lines bound before (chars ++ rest) = lines left after rest

namespace Reads

variable {before between after draft : Draft} {chars first second : List Char}

theorem nil (draft : Draft) : Reads draft [] draft :=
  fun _ bound room => ⟨bound, room, rfl⟩

theorem trans (one : Reads before first between) (other : Reads between second after) :
    Reads before (first ++ second) after := by
  intro rest bound room
  rw [List.append_assoc] at room ⊢
  obtain ⟨middle, roomBetween, stepOne⟩ := one (second ++ rest) bound room
  obtain ⟨left, roomAfter, stepOther⟩ := other rest middle roomBetween
  exact ⟨left, roomAfter, stepOne.trans stepOther⟩

/-- One line. -/
theorem line (nonempty : 0 < chars.length)
    (ran : ∀ bound rest, lines (bound + 1) before (chars ++ rest) = lines bound after rest) :
    Reads before chars after := by
  intro rest bound room
  rw [List.length_append] at room
  obtain ⟨left, rfl⟩ : ∃ left, bound = left + 1 := ⟨bound - 1, by omega⟩
  exact ⟨left, by omega, ran left rest⟩

/-- The lines of a whole document. -/
theorem whole (reads : Reads before chars after) :
    lines (chars.length + 1) before chars = .ok (after, []) := by
  have room : (chars ++ []).length < chars.length + 1 := by
    rw [List.append_nil]
    exact Nat.lt_succ_self _
  obtain ⟨left, some, ran⟩ := reads [] (chars.length + 1) room
  obtain ⟨left, rfl⟩ := Nat.exists_eq_succ_of_ne_zero (Nat.ne_of_gt some)
  rw [List.append_nil] at ran
  rw [ran]
  rfl

end Reads

/-- An empty line. -/
theorem reads_newline (draft : Draft) : Reads draft ['\n'] draft :=
  .line Nat.one_pos fun _ _ => rfl

theorem lift_ok (draft : Draft) (rest : List Char) :
    lift (.ok draft) rest = .ok (draft, rest) := rfl

/-- A line with a header. -/
theorem reads_header {name : String} (plain : IsKey name) {before after : Draft}
    (added : before.header false ([], name) = .ok after) :
    Reads before ('[' :: (name.toList ++ [']', '\n'])) after := by
  refine .line (Nat.succ_pos _) fun bound rest => ?_
  have ran := headerLine_text plain before rest
  rw [added, lift_ok] at ran
  rw [List.cons_append, List.append_assoc]
  exact bind_of_ok ran

/-- A character of a plain name begins an entry. -/
theorem lines_of_isBare {first : Char} (bare : isBare first = true) (bound : Nat) (draft : Draft)
    (others : List Char) :
    lines (bound + 1) draft (first :: others) =
      (entryLine draft >>= lines bound) (first :: others) := by
  have noBlank : blanks (first :: others) = .ok ((), first :: others) :=
    blanks_of_visible (visible_of_condition rfl rfl bare)
  have look : peek (first :: others) = .ok (some first, first :: others) := rfl
  generalize first :: others = chars at noBlank look ⊢
  generalize same : some first = seen at look
  rw [lines, bind_of_ok noBlank, bind_of_ok look]
  split
  case h_1 => cases same
  case h_6 => rfl
  all_goals exact absurd (Option.some.inj same) (ne_of_condition bare rfl)

/-- A line with a key and a single value. -/
def entryText (entry : String × Scalar) : List Char :=
  entry.1.toList ++ ' ' :: '=' :: ' ' :: (entry.2.print.toList ++ ['\n'])

theorem reads_entry {entry : String × Scalar} (plain : IsKey entry.1) (fits : entry.2.Fits)
    {before after : Draft} (added : before.insert ([], entry.1) entry.2.value = .ok after) :
    Reads before (entryText entry) after := by
  obtain ⟨first, others, spelled, bare⟩ := plain.exists_cons
  refine .line ?_ fun bound rest => ?_
  · rw [entryText, spelled]
    exact Nat.succ_pos _
  have ran := entryLine_text plain fits before rest
  rw [added, lift_ok] at ran
  have same : entryText entry ++ rest =
      entry.1.toList ++ ' ' :: '=' :: ' ' :: (entry.2.print.toList ++ '\n' :: rest) := by
    simp only [entryText, List.append_assoc, List.cons_append, List.nil_append]
  rw [same]
  rw [spelled] at ran ⊢
  exact (lines_of_isBare bare bound before _).trans (bind_of_ok ran)

end Scanner

/-! ## Sections -/

/-- The name of a section and its keys are plain, and no key occurs twice. -/
def PlainNames (name : String) (keys : List String) : Prop :=
  IsKey name ∧ (∀ key ∈ keys, IsKey key) ∧ keys.Nodup

instance (name : String) (keys : List String) : Decidable (PlainNames name keys) :=
  inferInstanceAs (Decidable (_ ∧ _ ∧ _))

/-- A section that can be written. -/
structure Section.Proper (part : Section) : Prop where
  plain : PlainNames part.name (part.entries.map Prod.fst)
  fits : ∀ entry ∈ part.entries, entry.2.Fits

namespace Scanner

/-- The characters of a section. -/
def sectionText (part : Section) : List Char :=
  '[' :: (part.name.toList ++ [']', '\n']) ++ part.entries.flatMap entryText

theorem toList_print (part : Section) : part.print.toList = sectionText part := by
  have header : "[".toList = ['['] := rfl
  have ending : "]\n".toList = [']', '\n'] := rfl
  have equals : " = ".toList = [' ', '=', ' '] := rfl
  have newline : "\n".toList = ['\n'] := rfl
  simp only [Section.print, sectionText, String.toList_append, String.toList_join,
    List.flatMap_map, header, ending, equals, newline, List.cons_append, List.nil_append,
    List.append_assoc]
  rfl

/-- What is in front of an item has other names, if all names differ. -/
theorem apart_of_nodup {α : Type} {name : α → String} {front behind : List α} {item : α}
    (different : ((front ++ item :: behind).map name).Nodup) :
    ∀ other ∈ front, name other ≠ name item := by
  intro other member
  rw [List.map_append, List.map_cons] at different
  have apart := (List.nodup_append.mp different).2.2
  exact apart (name other) (List.mem_map_of_mem member) (name item) (List.mem_cons_self ..)

variable {earlier : List Section} {name : String}

/-- The entries of a section are read one after the other. -/
theorem reads_entries (free : ∀ other ∈ earlier, other.name ≠ name)
    {taken entries : List (String × Scalar)} (keys : ∀ key ∈ entries.map Prod.fst, IsKey key)
    (fits : ∀ entry ∈ entries, entry.2.Fits)
    (different : ((taken ++ entries).map Prod.fst).Nodup) :
    Reads (.ofSections (earlier ++ [⟨name, taken⟩]) [name]) (entries.flatMap entryText)
      (.ofSections (earlier ++ [⟨name, taken ++ entries⟩]) [name]) := by
  induction entries generalizing taken with
  | nil =>
      rw [List.append_nil]
      exact .nil _
  | cons entry entries hypothesis =>
      obtain ⟨key, keys⟩ := List.forall_mem_cons.mp keys
      obtain ⟨fit, fits⟩ := List.forall_mem_cons.mp fits
      have freeKey : ∀ other ∈ taken, other.1 ≠ entry.1 := apart_of_nodup different
      have one := reads_entry key fit (Draft.insert_ofSections free freeKey entry.2)
      have together : taken ++ entry :: entries = taken ++ [entry] ++ entries :=
        List.append_cons ..
      rw [together] at different ⊢
      exact one.trans (hypothesis keys fits different)

theorem reads_section {part : Section} (proper : part.Proper)
    (free : ∀ other ∈ earlier, other.name ≠ part.name) (current : List String) :
    Reads (.ofSections earlier current) (sectionText part)
      (.ofSections (earlier ++ [part]) [part.name]) :=
  (reads_header proper.plain.1 (Draft.header_ofSections free current)).trans
    (reads_entries free proper.plain.2.1 proper.fits proper.plain.2.2)

/-- Sections are read one after the other, with empty lines between them. -/
theorem reads_sections {parts : List Section} (proper : ∀ part ∈ parts, part.Proper)
    (different : ((earlier ++ parts).map Section.name).Nodup) (current : List String) :
    ∃ last, Reads (.ofSections earlier current)
      (List.intercalate ['\n'] (parts.map sectionText)) (.ofSections (earlier ++ parts) last) := by
  induction parts generalizing earlier current with
  | nil =>
      rw [List.append_nil]
      exact ⟨current, .nil _⟩
  | cons part parts hypothesis =>
      obtain ⟨first, others⟩ := List.forall_mem_cons.mp proper
      have free : ∀ other ∈ earlier, other.name ≠ part.name := apart_of_nodup different
      have one := reads_section first free current
      have together : earlier ++ part :: parts = earlier ++ [part] ++ parts := List.append_cons ..
      rw [together] at different ⊢
      cases parts with
      | nil =>
          rw [List.append_nil, List.map_singleton, List.intercalate_singleton]
          exact ⟨_, one⟩
      | cons next parts =>
          obtain ⟨last, further⟩ := hypothesis others different [part.name]
          refine ⟨last, ?_⟩
          rw [List.map_cons, List.map_cons, List.intercalate_cons_cons, List.append_assoc]
          exact one.trans ((reads_newline _).trans further)

/-- A document that was printed does not begin with a byte order mark. -/
theorem head?_sections (parts : List Section) :
    (List.intercalate ['\n'] (parts.map sectionText)).head? ≠ some '\ufeff' := by
  have other : '[' ≠ '\ufeff' := by decide
  cases parts with
  | nil => exact (Option.some_ne_none _).symm
  | cons part parts =>
      cases parts with
      | nil =>
          rw [List.map_singleton, List.intercalate_singleton]
          exact other ∘ Option.some.inj
      | cons next parts =>
          rw [List.map_cons, List.map_cons, List.intercalate_cons_cons]
          exact other ∘ Option.some.inj

end Scanner

/-- A document that was printed describes the table of its sections. -/
theorem parse_printAll {parts : List Section} (proper : ∀ part ∈ parts, part.Proper)
    (different : (parts.map Section.name).Nodup) :
    Value.parse (Section.printAll parts) =
      .ok (.table (parts.map fun part => (part.name, part.value))) := by
  have spelled : (Section.printAll parts).toList =
      List.intercalate ['\n'] (parts.map Scanner.sectionText) := by
    rw [Section.printAll, String.toList_intercalate, List.map_map]
    exact congrArg _ (List.map_congr_left fun part _ => Scanner.toList_print part)
  obtain ⟨last, reads⟩ := @Scanner.reads_sections [] parts proper different []
  have read : Scanner.document (Section.printAll parts).toList =
      .ok (.ofSections parts last, []) := by
    rw [Scanner.document, spelled, if_neg (Scanner.head?_sections parts)]
    exact reads.whole
  rw [Value.parse, read]
  exact congrArg Except.ok (Draft.close_ofSections parts last)

end SecurityKey.Toml
