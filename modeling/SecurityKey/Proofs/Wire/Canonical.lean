import SecurityKey.Proofs.Wire.Fields

/-!
# One form for every number

Groups of seven bits could spell a number in many ways, with groups of zeros behind it.  A
reader takes only one of them, the one that is written: at every width a varint is read exactly
where a number that fits the width was written (`Varint.canonical_form`).  A varint that is
refused takes nothing from its source.

How many bytes a number takes is counted twice, by writing it and by its highest bit.  Both
counts are within a bound exactly when the number is below the same power
(`length_encode_le_iff`, `encodedLength_le_iff`), so they are the same count.

No written number is the beginning of another one, since a reader that has taken a number has
nothing left to decide.
-/

set_option autoImplicit false

namespace SecurityKey
namespace Varint

/-! ## How many bytes a number takes -/

/-- A number is written in `count` bytes when seven bits for each of them have room for it. -/
theorem length_encode_le_iff (value : Nat) {count : Nat} (positive : 0 < count) :
    (encode value).length ≤ count ↔ value < 2 ^ (7 * count) := by
  fun_induction encode value generalizing count with
  | case1 value last =>
      have room : 2 ^ 7 ≤ 2 ^ (7 * count) := Nat.pow_le_pow_right (by decide) (by omega)
      exact iff_of_true positive (by omega)
  | case2 value more hypothesis =>
      obtain ⟨count, rfl⟩ := Nat.exists_eq_add_one.mpr positive
      cases count with
      | zero =>
          refine iff_of_false ?_ more
          rw [List.length_cons, encode]
          split
          · exact Nat.not_succ_le_self 1
          · rw [List.length_cons]
            omega
      | succ count =>
          have split : 2 ^ (7 * (count + 1 + 1)) = 2 ^ (7 * (count + 1)) * 128 := by
            rw [Nat.mul_succ 7 (count + 1), Nat.pow_add]
          rw [List.length_cons, Nat.add_le_add_iff_right, hypothesis (Nat.succ_pos count), split]
          exact Nat.div_lt_iff_lt_mul (by decide)

theorem log2_or_one_lt_iff (value : Nat) {width : Nat} (positive : 0 < width) :
    Nat.log2 (value ||| 1) < width ↔ value < 2 ^ width := by
  have filled : value ||| 1 ≠ 0 := by
    have one : 1 ≤ value ||| 1 := Nat.right_le_or
    omega
  rw [Nat.log2_lt filled]
  constructor
  · exact Nat.lt_of_le_of_lt Nat.left_le_or
  · intro fits
    exact Nat.or_lt_two_pow fits (Nat.one_lt_two_pow (Nat.ne_of_gt positive))

/-- The highest bit of a number counts the same bytes. -/
theorem encodedLength_le_iff (value : Nat) {count : Nat} (positive : 0 < count) :
    encodedLength value ≤ count ↔ value < 2 ^ (7 * count) := by
  rw [← log2_or_one_lt_iff value (Nat.mul_pos (by decide) positive), encodedLength]
  omega

theorem encodedLength_pos (value : Nat) : 0 < encodedLength value := by
  rw [encodedLength]
  omega

theorem length_encode_pos (value : Nat) : 0 < (encode value).length := by
  rw [encode]
  split <;> exact Nat.succ_pos _

/-- A number takes the counted bytes. -/
theorem length_encode (value : Nat) : (encode value).length = encodedLength value := by
  refine Nat.le_antisymm ?_ ?_
  · rw [length_encode_le_iff value (encodedLength_pos value),
      ← encodedLength_le_iff value (encodedLength_pos value)]
  · rw [encodedLength_le_iff value (length_encode_pos value),
      ← length_encode_le_iff value (length_encode_pos value)]

/-! ## Which bytes are a number -/

/-- No number begins with another one. -/
theorem eq_of_encode_append {value other : Nat} {rest : Bytes}
    (same : encode value ++ rest = encode other) : value = other := by
  have bits : 0 < value + other + 1 := Nat.succ_pos _
  have small : value < 2 ^ (value + other + 1) :=
    Nat.lt_of_le_of_lt (by omega) Nat.lt_two_pow_self
  have otherSmall : other < 2 ^ (value + other + 1) :=
    Nat.lt_of_le_of_lt (by omega) Nat.lt_two_pow_self
  have first := decode_encode bits small rest
  have second := decode_encode bits otherSmall []
  rw [same, ← List.append_nil (encode other), second] at first
  cases first
  rfl

/-- **Every number has one accepted form.**  At every width, exactly the numbers below its power
of two are read, each from the bytes that are written of it and nothing else, and what is refused
stays in the source.  A number of 64 bits takes the counted bytes, ten at most, and these bytes
are never the beginning of another number. -/
theorem canonical_form :
    (∀ (bits value : Nat) (source rest : Bytes), 1 ≤ bits → bits ≤ 64 →
      (Scan.varint bits source = .ok value rest ↔
        value < 2 ^ bits ∧ source = encode value ++ rest)) ∧
    (∀ (bits : Nat) (source left : Bytes) (error : Error), 1 ≤ bits → bits ≤ 64 →
      Scan.varint bits source = .error error left → left = source) ∧
    (∀ value < 2 ^ 64, (encode value).length = encodedLength value ∧ encodedLength value ≤ 10) ∧
    ∀ value other : Nat, encode value <+: encode other → value = other := by
  refine ⟨fun bits value source rest wide _ => Scan.varint_eq_ok_iff wide, ?_, ?_, ?_⟩
  · intro bits source left error _ _ refused
    rw [Scan.varint] at refused
    split at refused
    · cases refused
    · cases refused
      rfl
  · intro value fits
    refine ⟨length_encode value, (encodedLength_le_iff value (by decide)).mpr ?_⟩
    exact Nat.lt_trans fits (by decide)
  · rintro value other ⟨rest, same⟩
    exact eq_of_encode_append same

/-- The number 300 and a byte behind it, the same number with a group of zeros, and two numbers
of which the first needs fewer bytes. -/
theorem canonical_form_of_300 :
    (Scan.varint 9 [0xac, 0x02, 0x07] = .ok 300 [0x07]) ∧
      (∀ left, Scan.varint 64 [0xac, 0x82, 0x00] ≠ .ok 300 left) ∧
      (∀ error left, Scan.varint 8 [0xac, 0x02] = .error error left → left = [0xac, 0x02]) ∧
      (encode 300).length = 2 ∧ encodedLength 300 = 2 ∧ ¬encode 44 <+: encode 300 := by
  obtain ⟨reads, leaves, counts, apart⟩ := canonical_form
  have written : encode 300 = [0xac, 0x02] := by
    rw [encode, if_neg (by decide), encode, if_pos (by decide)]
    rfl
  have count : encodedLength 300 = 2 := by decide +kernel
  refine ⟨?_, ?_, ?_, ?_, count, ?_⟩
  · exact (reads 9 300 _ _ (by decide) (by decide)).mpr ⟨by decide, by rw [written]; rfl⟩
  · intro left read
    have source := ((reads 64 300 _ _ (by decide) (by decide)).mp read).2
    rw [written] at source
    cases source
  · exact fun error left refused => leaves 8 _ left error (by decide) (by decide) refused
  · exact (counts 300 (by decide)).1.trans count
  · exact fun begins => absurd (apart 44 300 begins) (by decide)

end Varint
end SecurityKey
