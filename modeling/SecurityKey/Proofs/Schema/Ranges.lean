import Mathlib.Control.Monad.Basic
import SecurityKey.Proofs.Schema.Refusals
import SecurityKey.Proofs.Wire.Containers

/-!
# Numbers out of range

A number that is too large or too small is refused with an error that gives the number and the
bound.  Such an error tells the truth if the number lies past the bound (`Error.Truthful`).

Four places refuse a number for its size: a varint that is wider than the reader asks for, a
boolean, and a number that is narrowed to 32 bits, with a sign or without.  A varint is given up
before its value is known, at the first bit past the width (`Varint.decode_eq_overflow_iff`), and
the first number behind the limit is reported in its place.  A word has no such number for its
own limit, so a varint that does not fit into a word is reported as the limit itself.  This is
the one error that does not tell the truth (`truthful_iff_of_failed`).
-/

set_option autoImplicit false

namespace SecurityKey

/-! ## Errors that tell the truth -/

/-- A number that an error reports as out of range lies past the bound that the error gives. -/
def Error.Truthful : Error → Prop
  | .schema (.smallerInteger value maximum) => maximum < value
  | .schema (.largerInteger value minimum) => value < minimum
  | _ => True

theorem Varint.overflow_word :
    overflow 64 = .schema (.smallerInteger (2 ^ 64 - 1) (2 ^ 64 - 1)) := rfl

theorem Varint.not_truthful_overflow_word : ¬(overflow 64).Truthful := by
  rw [overflow_word]
  exact Nat.lt_irrefl (2 ^ 64 - 1)

/-- Of the errors with which bytes are refused only that of a varint that does not fit into a
word does not tell the truth. -/
theorem Refusal.truthful_iff {error : Error} (refusal : Refusal error) :
    error.Truthful ↔ error ≠ Varint.overflow 64 := by
  cases refusal with
  | above out =>
      refine iff_of_true out fun same => ?_
      rw [Varint.overflow_word] at same
      cases same
      exact Nat.lt_irrefl _ out
  | below out =>
      refine iff_of_true out fun same => ?_
      rw [Varint.overflow_word] at same
      cases same
  | pastWord => exact iff_of_false Varint.not_truthful_overflow_word fun other => other rfl
  | encoding | size | wire | deep | missing =>
      refine iff_of_true trivial fun same => ?_
      rw [Varint.overflow_word] at same
      cases same

/-! ## Varints that are too wide -/

namespace Varint

/-- Behind some groups that go on there is one that begins within the width, of which `shift` bits
are gone, and has a bit past it. -/
def ExceedsFrom (bits shift : Nat) (source : Bytes) : Prop :=
  ∃ (front : Bytes) (group : UInt8) (rest : Bytes), source = front ++ group :: rest ∧
    (∀ byte ∈ front, 128 ≤ byte.toNat) ∧ shift + 7 * front.length < bits ∧
    2 ^ (bits - (shift + 7 * front.length)) ≤ group.toNat % 128

/-- A varint has a bit past a width, in a group that begins within it. -/
def Exceeds (bits : Nat) (source : Bytes) : Prop := ExceedsFrom bits 0 source

theorem decodeFrom_eq_schema_iff {bits shift start : Nat} {source : Bytes} {fault : SchemaFault} :
    decodeFrom bits shift start source = .error (.schema fault) ↔
      ExceedsFrom bits shift source ∧ overflow bits = .schema fault := by
  induction source generalizing shift start with
  | nil =>
      constructor
      · intro failed
        cases failed
      · rintro ⟨⟨front, group, rest, split, _⟩, _⟩
        have filled := List.append_ne_nil_of_right_ne_nil front (List.cons_ne_nil group rest)
        exact absurd split.symm filled
  | cons byte tail hypothesis =>
      simp only [decodeFrom]
      constructor
      · intro failed
        split at failed
        · cases failed
        rename_i within
        split at failed
        · rename_i past
          cases failed
          exact ⟨⟨[], byte, tail, rfl, List.forall_mem_nil _, Nat.not_le.mp within, past⟩, rfl⟩
        split at failed
        · cases failed
        split at failed
        · cases failed
        rename_i continued
        obtain ⟨⟨front, group, rest, rfl, groups, within, past⟩, same⟩ := hypothesis.mp failed
        have more : 128 ≤ byte.toNat := by
          rw [UInt8.lt_iff_toNat_lt] at continued
          exact Nat.not_lt.mp continued
        have moved : shift + 7 * (byte :: front).length = shift + 7 + 7 * front.length := by
          rw [List.length_cons]
          omega
        refine ⟨⟨byte :: front, group, rest, rfl, List.forall_mem_cons.mpr ⟨more, groups⟩, ?_, ?_⟩,
          same⟩
        · rw [moved]
          exact within
        · rw [moved]
          exact past
      · rintro ⟨⟨front, group, rest, split, groups, within, past⟩, same⟩
        cases front with
        | nil =>
            cases split
            rw [List.length_nil, Nat.mul_zero, Nat.add_zero] at within past
            rw [if_neg (Nat.not_le.mpr within), if_pos past, same]
        | cons first front =>
            cases split
            obtain ⟨more, groups⟩ := List.forall_mem_cons.mp groups
            have moved : shift + 7 * (byte :: front).length = shift + 7 + 7 * front.length := by
              rw [List.length_cons]
              omega
            rw [moved] at within past
            -- A group that another one follows within the width has room for all its bits.
            have room : 2 ^ 7 ≤ 2 ^ (bits - shift) := Nat.pow_le_pow_right (by decide) (by omega)
            have filled : ¬(byte = 0 ∧ shift ≠ 0) := by
              rintro ⟨rfl, _⟩
              exact absurd more (by decide)
            have continued : ¬byte < 128 := by
              rw [UInt8.lt_iff_toNat_lt]
              exact Nat.not_lt.mpr more
            rw [if_neg (by omega), if_neg (by omega), if_neg filled, if_neg continued]
            exact hypothesis.mpr ⟨⟨front, group, rest, rfl, groups, within, past⟩, same⟩

/-- A varint is refused for its size exactly if it has a bit past the width that is asked for, in
a group that begins within it.  The number that is reported is the first one behind the greatest
number of that width, or for a word this number itself. -/
theorem decode_eq_overflow_iff {bits value maximum : Nat} (word : bits ≤ 64) {source : Bytes} :
    decode bits source = .error (.schema (.smallerInteger value maximum)) ↔
      Exceeds bits source ∧ maximum = 2 ^ bits - 1 ∧
        value = if bits < 64 then maximum + 1 else maximum := by
  refine decodeFrom_eq_schema_iff.trans (and_congr_right fun _ => ?_)
  have positive := Nat.two_pow_pos bits
  rcases Nat.lt_or_eq_of_le word with narrow | rfl
  · rw [overflow_of_lt narrow, if_pos narrow, Error.schema.injEq, SchemaFault.smallerInteger.injEq]
    omega
  · rw [overflow_word, if_neg (Nat.lt_irrefl 64), Error.schema.injEq,
      SchemaFault.smallerInteger.injEq]
    omega

end Varint

/-! ## Readers -/

namespace Reader

variable {α : Type}

/-- A step of a reader that fails with refusals, or because it is not the time for it. -/
def Refuses (step : Reading α) : Prop :=
  ∀ (reader left : Reader) (error : Error), step reader = .error error left →
    Refusal error ∨ ∃ fault, error = .state fault

theorem refuses_onView {scan : Scan α} (refuses : scan.Refuses) : Refuses (onView scan) := by
  intro reader left error failed
  rw [onView] at failed
  split at failed
  · cases failed
    exact .inr ⟨_, rfl⟩
  · split at failed
    · cases failed
    · rename_i ran
      cases failed
      exact .inl (refuses _ _ _ ran)

theorem refuses_value {expectation : Expectation} {scan : WireType → Scan α}
    (refuses : ∀ wire, (scan wire).Refuses) : Refuses (value expectation scan) := by
  intro reader left error failed
  rw [value] at failed
  split at failed
  · cases failed
    exact .inr ⟨_, rfl⟩
  · rename_i wire _
    split at failed
    · rename_i refused
      cases failed
      rw [Expectation.require] at refused
      split at refused
      · cases refused
      · cases refused
        exact .inl (.wire _ _)
    · exact refuses_onView (refuses wire) reader left error failed

theorem refuses_openContainer : Refuses openContainer := by
  intro reader left error failed
  rw [openContainer] at failed
  split at failed
  · cases failed
    exact .inl .deep
  · split at failed
    · cases failed
    · split at failed
      · cases failed
      · rename_i ran
        cases failed
        exact refuses_value (fun _ => Scan.refuses_delimited) _ _ _ ran

theorem refuses_startWith (wire : Option WireType) : Refuses (startWith wire) := by
  intro reader left error failed
  rw [startWith_eq] at failed
  split at failed
  · cases failed
  · rename_i ran
    cases failed
    exact refuses_openContainer _ _ _ ran

theorem refuses_closeContainer : Refuses closeContainer := by
  intro reader left error failed
  rw [closeContainer] at failed
  split at failed
  · cases failed
    exact .inr ⟨_, rfl⟩
  · cases failed
  · cases failed
    exact .inl (.encoding _)

theorem refuses_seek (known : List UInt32) (pending : Option WireType) (body : Bytes) :
    SecurityKey.Refuses (seek known pending body).1 := by
  fun_induction seek known pending body with
  | case1 => exact .ok _
  | case2 pending body _ error rest tagged => exact .refusal (Scan.refuses_tag _ _ _ tagged)
  | case3 => exact .ok _
  | case4 pending body _ id wire rest _ _ error left skipped =>
      exact .refusal (Scan.refuses_skip wire _ _ _ skipped)
  | case5 pending body _ id wire rest _ _ left _ hypothesis => exact hypothesis

theorem refuses_key (known : List UInt32) : Refuses (key known) := by
  intro reader left error failed
  rw [key] at failed
  split at failed
  · cases failed
    exact .inr ⟨_, rfl⟩
  · rename_i view outer _
    have refuses := refuses_seek known reader.pending view
    split at failed
    · cases failed
    · rename_i sought
      cases failed
      rw [sought] at refuses
      exact .inl (refuses error rfl)

/-- Every step of a reader fails with refusals, or because it is not the time for it. -/
theorem refuses_run (operation : Operation) : Refuses operation.run := by
  cases operation with
  | key known => exact refuses_key known
  | unsigned => exact refuses_value Scan.refuses_unsigned
  | integer => exact refuses_value Scan.refuses_integer
  | boolean => exact refuses_value fun _ => Scan.refuses_boolean
  | text => exact refuses_value fun _ => Scan.refuses_text
  | blob => exact refuses_value fun _ => Scan.refuses_delimited
  | fixedBytes size => exact refuses_value fun _ => Scan.refuses_fixedBytes size
  | ordinal => exact refuses_value fun _ => (Scan.refuses_varint (Nat.le_refl 64)).map _
  | startArray => exact refuses_startWith (some .varint)
  | startObject => exact refuses_startWith none
  | endArray | endObject => exact refuses_closeContainer
  | isArrayEnd =>
      intro reader left error failed
      change isArrayEnd reader = _ at failed
      rw [isArrayEnd] at failed
      split at failed
      · cases failed
        exact .inr ⟨_, rfl⟩
      · cases failed
  | checkComplete =>
      intro reader left error failed
      change checkComplete reader = _ at failed
      rw [checkComplete] at failed
      split at failed
      · cases failed
      · cases failed
        exact .inl (.encoding _)

end Reader

/-! ## What is reported -/

/-- **Range errors tell the truth, but for one.**  Whatever is decoded fails with an error that
gives a number past the bound that it gives, if it gives any, unless it is the error of a varint
that does not fit into a word.

* A varint of at most 64 bits is refused for its size exactly if it has a bit past the width, in a
  group that begins within it.  For less than 64 bits the first number behind the limit is
  reported, and for 64 bits the limit itself.
* So every step of a reader in any state, and reading an object of any schema into any storage,
  fails with an error that tells the truth exactly if it is not the error of a varint of 64
  bits. -/
theorem truthful_iff_of_failed {bits : Nat} (word : bits ≤ 64) (source : Bytes)
    (operation : Reader.Operation) (reader : Reader) (schema : Schema) (record : schema.Record)
    (input : Bytes) (error : Error) :
    (∀ value maximum : Nat,
      Varint.decode bits source = .error (.schema (.smallerInteger value maximum)) ↔
        Varint.Exceeds bits source ∧ maximum = 2 ^ bits - 1 ∧
          value = if bits < 64 then maximum + 1 else maximum) ∧
    (Varint.decode bits source = .error error → (error.Truthful ↔ error ≠ Varint.overflow 64)) ∧
    (outcome (operation.run reader) = .error error →
      (error.Truthful ↔ error ≠ Varint.overflow 64)) ∧
    (schema.decodeInto record input = .error error →
      (error.Truthful ↔ error ≠ Varint.overflow 64)) := by
  refine ⟨fun value maximum => Varint.decode_eq_overflow_iff word, ?_, ?_, ?_⟩
  · intro failed
    exact (Varint.refuses_decode word source error failed).truthful_iff
  · intro failed
    cases ran : operation.run reader with
    | ok answer left =>
        rw [ran] at failed
        cases failed
    | error other left =>
        rw [ran] at failed
        cases failed
        rcases Reader.refuses_run operation reader left error ran with refusal | ⟨fault, rfl⟩
        · exact refusal.truthful_iff
        · refine iff_of_true trivial fun same => ?_
          rw [Varint.overflow_word] at same
          cases same
  · intro failed
    exact (Schema.refuses_decodeAt _ schema record input error failed).truthful_iff

/-- An object with a number of 32 bits and one of 64. -/
def numbersSchema : Schema := .optional 1 "short" .i32 <| .optional 2 "word" .u64 .nil

instance : DecidableEq numbersSchema.Record := inferInstanceAs (DecidableEq (Int32 × UInt64 × Unit))

/-- The number before the least one of 32 bits is reported with this least one. -/
theorem truthful_of_lowNumber :
    numbersSchema.decode [8, 255, 255, 255, 255, 247, 255, 255, 255, 255, 1] =
        .error (.schema (.largerInteger (-2147483649) (-2147483648))) ∧
      (Error.schema (.largerInteger (-2147483649) (-2147483648))).Truthful := by
  have failed : numbersSchema.decode [8, 255, 255, 255, 255, 247, 255, 255, 255, 255, 1] =
      .error (.schema (.largerInteger (-2147483649) (-2147483648))) := by decide +kernel
  obtain ⟨_, _, _, decoded⟩ := truthful_iff_of_failed (Nat.le_refl 64) [] .unsigned
    (.ofBytes []) numbersSchema numbersSchema.blank _ _
  exact ⟨failed, (decoded failed).mpr (by decide)⟩

/-- A number that does not fit into a word is reported as the greatest one that does. -/
theorem wideNumber_reported_as_limit :
    numbersSchema.decode [16, 255, 255, 255, 255, 255, 255, 255, 255, 255, 2] =
        .error (.schema (.smallerInteger 18446744073709551615 18446744073709551615)) ∧
      ¬(Error.schema (.smallerInteger 18446744073709551615 18446744073709551615)).Truthful :=
  ⟨by decide +kernel, Nat.lt_irrefl _⟩

end SecurityKey
