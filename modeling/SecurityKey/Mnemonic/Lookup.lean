import SecurityKey.Mnemonic.Words

/-!
# Looking words up

The place of a word is found by halving the list: of the places that are left, the upper half
is kept exactly if its first word does not come after the word that is looked for.  Texts are
ordered as their bytes are.

The list is in that order (`getElem_lt_getElem_iff`), so every word of the list is found at its
place and no other text is found at all (`place?_eq_some_iff`).
-/

set_option autoImplicit false

namespace SecurityKey

/-! ## The order of byte strings -/

namespace Bytes

theorem fit_zero (bytes : Bytes) : fit 0 bytes = [] :=
  List.eq_nil_of_length_eq_zero (length_fit 0 bytes)

theorem fit_succ_nil (size : Nat) : fit (size + 1) [] = 0 :: fit size [] := by
  simp [fit, List.replicate_succ]

theorem fit_succ_cons (size : Nat) (byte : UInt8) (rest : Bytes) :
    fit (size + 1) (byte :: rest) = byte :: fit size rest := by
  simp [fit]

/-- Byte strings that spell ascending numbers when they are filled to one size are in
ascending order. -/
theorem lt_of_bigEndian_fit (size : Nat) {first second : Bytes}
    (ascending : (fit size first).bigEndian < (fit size second).bigEndian) : first < second := by
  induction size generalizing first second with
  | zero =>
      rw [fit_zero, fit_zero] at ascending
      exact absurd ascending (Nat.lt_irrefl _)
  | succ size hypothesis =>
      cases first with
      | nil =>
          cases second with
          | nil => exact absurd ascending (Nat.lt_irrefl _)
          | cons byte rest => exact List.nil_lt_cons byte rest
      | cons byte rest =>
          cases second with
          | nil =>
              -- What is filled with zero bytes spells the smallest number.
              have smallest : (fit size []).bigEndian ≤ (fit size rest).bigEndian :=
                Nat.le_of_not_lt fun smaller => List.not_lt_nil _ (hypothesis smaller)
              rw [fit_succ_nil, fit_succ_cons, bigEndian_cons, bigEndian_cons, length_fit,
                length_fit] at ascending
              have zero : (0 : UInt8).toNat = 0 := rfl
              rw [zero, Nat.zero_mul, Nat.zero_add] at ascending
              exact absurd ascending (Nat.not_lt.mpr (Nat.le_add_left_of_le smallest))
          | cons other behind =>
              rw [fit_succ_cons, fit_succ_cons, bigEndian_cons, bigEndian_cons, length_fit,
                length_fit] at ascending
              rw [List.cons_lt_cons_iff]
              have bound := bigEndian_lt (fit size behind)
              rw [length_fit] at bound
              rcases Nat.lt_trichotomy byte.toNat other.toNat with lower | same | higher
              · exact .inl (UInt8.lt_iff_toNat_lt.mpr lower)
              · rw [same, Nat.add_lt_add_iff_left] at ascending
                exact .inr ⟨UInt8.toNat_inj.mp same, hypothesis ascending⟩
              · -- The first byte outweighs all that the others can make up for.
                have outweighs : (other.toNat + 1) * 256 ^ size ≤ byte.toNat * 256 ^ size :=
                  Nat.mul_le_mul_right _ higher
                rw [Nat.add_mul, Nat.one_mul] at outweighs
                omega

end Bytes

namespace Mnemonic

/-! ## Look-up -/

/-- The words in the order of their places. -/
def table : Array String := words.toArray

/-- Whether a text comes before another one. -/
def precedes (first second : String) : Bool := decide (Bytes.ofText first < Bytes.ofText second)

/-- The place that is left of `size` places from `start` on after halving them. -/
def halve (word : String) (start size : Nat) : Nat :=
  if size ≤ 1 then
    start
  else
    let middle := start + size / 2
    if precedes word (table.getD middle "") then
      halve word start (size - size / 2)
    else
      halve word middle (size - size / 2)
termination_by size
decreasing_by all_goals omega

/-- The place of a word in the list. -/
def place? (word : String) : Option Nat :=
  let place := halve word 0 table.size
  if table[place]? = some word then some place else none

/-! ## The order of the list -/

theorem pairwise_of_ascends {bound : Nat} {list : List String}
    (ascending : ascends bound list = true) :
    list.Pairwise fun first second => Bytes.ofText first < Bytes.ofText second := by
  induction list generalizing bound with
  | nil => exact .nil
  | cons first rest hypothesis =>
      simp only [ascends, Bool.and_eq_true] at ascending
      refine .cons (fun second member => ?_) (hypothesis ascending.2)
      exact Bytes.lt_of_bigEndian_fit 8 (rank_of_ascends ascending.2 member)

/-- The words are in the order of their places. -/
theorem getElem_lt_getElem_iff {place other : Nat} (here : place < words.length)
    (there : other < words.length) :
    Bytes.ofText words[place] < Bytes.ofText words[other] ↔ place < other := by
  have ordered := List.pairwise_iff_getElem.mp (pairwise_of_ascends words_ascend)
  constructor
  · intro before
    rcases Nat.lt_trichotomy place other with lower | rfl | higher
    · exact lower
    · exact absurd before (List.lt_irrefl _)
    · exact absurd before (List.lt_asymm (ordered other place there here higher))
  · exact ordered place other here there

theorem size_table : table.size = words.length := List.size_toArray

theorem getElem?_table (place : Nat) : table[place]? = words[place]? := List.getElem?_toArray

theorem precedes_table {place middle : Nat} (here : place < words.length)
    (inside : middle < words.length) :
    precedes words[place] (table.getD middle "") = decide (place < middle) := by
  have word : table.getD middle "" = words[middle] := by
    rw [Array.getD_eq_getD_getElem?, getElem?_table, List.getElem?_eq_getElem inside,
      Option.getD_some]
  rw [precedes, word]
  exact decide_eq_decide.mpr (getElem_lt_getElem_iff here inside)

/-- Halving some places of the list keeps the place of the word. -/
theorem halve_eq {place start size : Nat} (here : place < words.length)
    (inside : start + size ≤ words.length) (after : start ≤ place)
    (before : place < start + size) : halve words[place] start size = place := by
  fun_induction halve words[place] start size with
  | case1 start size one => omega
  | case2 start size more middle lower hypothesis =>
      rw [precedes_table here (by omega), decide_eq_true_iff] at lower
      exact hypothesis (by omega) after (by omega)
  | case3 start size more middle upper hypothesis =>
      rw [precedes_table here (by omega), decide_eq_true_iff] at upper
      exact hypothesis (by omega) (by omega) (by omega)

/-- A text is found at a place exactly if it is the word at that place. -/
theorem place?_eq_some_iff {word : String} {place : Nat} :
    place? word = some place ↔ words[place]? = some word := by
  constructor
  · intro found
    rw [place?] at found
    split at found
    · rename_i stands
      cases found
      rwa [getElem?_table] at stands
    · cases found
  · intro stands
    obtain ⟨here, rfl⟩ := List.getElem?_eq_some_iff.mp stands
    have halved : halve words[place] 0 table.size = place := by
      rw [size_table]
      exact halve_eq here (by omega) (Nat.zero_le _) (by omega)
    rw [place?, halved, getElem?_table, if_pos stands]

/-- A text that is not in the list is not found. -/
theorem place?_eq_none_iff {word : String} : place? word = none ↔ word ∉ words := by
  rw [Option.eq_none_iff_forall_ne_some, List.mem_iff_getElem?, not_exists]
  exact forall_congr' fun place => not_congr place?_eq_some_iff

end Mnemonic

end SecurityKey
