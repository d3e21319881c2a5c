import SecurityKey.Mnemonic.Phrase

/-!
# Numbers as groups of bits

A number below `2 ^ width` and a list of `width` bits are two spellings of one thing
(`natOfBits_bitsOfNat`, `bitsOfNat_natOfBits`).  So numbers of one width put end to end are a
list of bits that falls apart into the same numbers (`groups_flatMap`), and a list of bits that
is cut into groups is put together again by their numbers (`flatMap_groups`).  The width of a
byte and the width of a word are two cases of this.
-/

set_option autoImplicit false

namespace SecurityKey.Mnemonic

/-! ## One group -/

@[simp] theorem length_bitsOfNat (width value : Nat) : (bitsOfNat width value).length = width := by
  induction width with
  | zero => rfl
  | succ width hypothesis => rw [bitsOfNat, List.length_cons, hypothesis]

theorem foldl_natOfBits (bits : List Bool) (start : Nat) :
    bits.foldl (fun value bit => value * 2 + bit.toNat) start =
      start * 2 ^ bits.length + natOfBits bits := by
  induction bits generalizing start with
  | nil => simp [natOfBits]
  | cons bit rest hypothesis =>
      rw [natOfBits, List.foldl_cons, List.foldl_cons, hypothesis, hypothesis (0 * 2 + _),
        List.length_cons, Nat.pow_succ', ← Nat.mul_assoc, Nat.zero_mul, Nat.zero_add,
        Nat.add_mul, Nat.add_assoc]

theorem natOfBits_cons (bit : Bool) (rest : List Bool) :
    natOfBits (bit :: rest) = 2 ^ rest.length * bit.toNat + natOfBits rest := by
  rw [natOfBits, List.foldl_cons, foldl_natOfBits, Nat.zero_mul, Nat.zero_add, Nat.mul_comm]

theorem natOfBits_lt (bits : List Bool) : natOfBits bits < 2 ^ bits.length := by
  induction bits with
  | nil => exact Nat.one_pos
  | cons bit rest hypothesis =>
      have one : 2 ^ rest.length * bit.toNat ≤ 2 ^ rest.length * 1 :=
        Nat.mul_le_mul_left _ (Bool.toNat_le bit)
      rw [natOfBits_cons, List.length_cons, Nat.pow_succ]
      omega

/-- The bits of a number spell what the number leaves in their width. -/
theorem natOfBits_bitsOfNat_mod (width value : Nat) :
    natOfBits (bitsOfNat width value) = value % 2 ^ width := by
  induction width with
  | zero => rw [Nat.pow_zero, Nat.mod_one, bitsOfNat, natOfBits, List.foldl_nil]
  | succ width hypothesis =>
      rw [bitsOfNat, natOfBits_cons, hypothesis, length_bitsOfNat, Nat.toNat_testBit,
        Nat.mod_pow_succ, Nat.add_comm]

/-- The bits of a number that fits their width spell it. -/
theorem natOfBits_bitsOfNat {width value : Nat} (fits : value < 2 ^ width) :
    natOfBits (bitsOfNat width value) = value := by
  rw [natOfBits_bitsOfNat_mod, Nat.mod_eq_of_lt fits]

/-- Bits that spell the same number and are equally many are the same. -/
theorem eq_of_natOfBits_eq {first second : List Bool} (long : first.length = second.length)
    (same : natOfBits first = natOfBits second) : first = second := by
  induction first generalizing second with
  | nil => exact (List.eq_nil_of_length_eq_zero long.symm).symm
  | cons bit rest hypothesis =>
      cases second with
      | nil => cases long
      | cons other behind =>
          have shorter : rest.length = behind.length := Nat.succ.inj long
          rw [natOfBits_cons, natOfBits_cons, shorter] at same
          have small := natOfBits_lt rest
          have smaller := natOfBits_lt behind
          rw [shorter] at small
          have remainder : natOfBits rest = natOfBits behind := by
            have taken := congrArg (· % 2 ^ behind.length) same
            simpa only [Nat.mul_add_mod, Nat.mod_eq_of_lt small, Nat.mod_eq_of_lt smaller]
              using taken
          have top : bit = other := by
            rw [remainder, Nat.add_right_cancel_iff] at same
            have bits := Nat.eq_of_mul_eq_mul_left (Nat.two_pow_pos _) same
            cases bit <;> cases other <;> first | rfl | cases bits
          rw [top, hypothesis shorter remainder]

/-- The number that bits spell has these bits. -/
theorem bitsOfNat_natOfBits {width : Nat} {bits : List Bool} (long : bits.length = width) :
    bitsOfNat width (natOfBits bits) = bits := by
  subst long
  exact eq_of_natOfBits_eq (length_bitsOfNat _ _) (natOfBits_bitsOfNat (natOfBits_lt bits))

/-! ## Some groups -/

@[simp] theorem length_groups (width count : Nat) (bits : List Bool) :
    (groups width count bits).length = count := by
  induction count generalizing bits with
  | zero => rfl
  | succ count hypothesis => rw [groups, List.length_cons, hypothesis]

theorem length_flatMap_bitsOfNat (width : Nat) (numbers : List Nat) :
    (numbers.flatMap (bitsOfNat width)).length = numbers.length * width := by
  simp only [List.length_flatMap, length_bitsOfNat, List.map_const', List.sum_replicate_nat]

/-- Groups of bits spell numbers of their width. -/
theorem lt_of_mem_groups {width count : Nat} {bits : List Bool} {number : Nat}
    (member : number ∈ groups width count bits) : number < 2 ^ width := by
  induction count generalizing bits with
  | zero => cases member
  | succ count hypothesis =>
      rcases List.mem_cons.mp member with rfl | member
      · exact Nat.lt_of_lt_of_le (natOfBits_lt _)
          (Nat.pow_le_pow_right Nat.two_pos (List.length_take_le _ _))
      · exact hypothesis member

/-- Bits that are cut into groups are put together again by the numbers of the groups. -/
theorem flatMap_groups {width count : Nat} {bits : List Bool}
    (enough : count * width ≤ bits.length) :
    (groups width count bits).flatMap (bitsOfNat width) = bits.take (count * width) := by
  induction count generalizing bits with
  | zero => rw [Nat.zero_mul, List.take_zero, groups, List.flatMap_nil]
  | succ count hypothesis =>
      rw [Nat.succ_mul] at enough
      have first : (bits.take width).length = width := List.length_take_of_le (by omega)
      have others : count * width ≤ (bits.drop width).length := by
        rw [List.length_drop]
        omega
      rw [groups, List.flatMap_cons, bitsOfNat_natOfBits first, hypothesis others, Nat.succ_mul,
        Nat.add_comm, List.take_add]

/-- Numbers whose bits are put end to end are the groups of these bits. -/
theorem groups_flatMap {width : Nat} {numbers : List Nat}
    (fit : ∀ number ∈ numbers, number < 2 ^ width) (rest : List Bool) :
    groups width numbers.length (numbers.flatMap (bitsOfNat width) ++ rest) = numbers := by
  induction numbers with
  | nil => rfl
  | cons number others hypothesis =>
      obtain ⟨small, fitOthers⟩ := List.forall_mem_cons.mp fit
      have long := length_bitsOfNat width number
      rw [List.flatMap_cons, List.append_assoc, List.length_cons, groups, List.take_left' long,
        List.drop_left' long, natOfBits_bitsOfNat small, hypothesis fitOthers]

/-! ## Bytes -/

theorem bitsOfBytes_eq (bytes : Bytes) :
    bitsOfBytes bytes = (bytes.map UInt8.toNat).flatMap (bitsOfNat 8) := by
  rw [bitsOfBytes, List.flatMap_map]

@[simp] theorem length_bitsOfBytes (bytes : Bytes) :
    (bitsOfBytes bytes).length = bytes.length * 8 := by
  rw [bitsOfBytes_eq, length_flatMap_bitsOfNat, List.length_map]

/-- The bytes of a byte string are the groups of its bits. -/
theorem groups_bitsOfBytes (bytes : Bytes) (rest : List Bool) :
    (groups 8 bytes.length (bitsOfBytes bytes ++ rest)).map UInt8.ofNat = bytes := by
  have fit : ∀ number ∈ bytes.map UInt8.toNat, number < 2 ^ 8 := by
    intro number member
    obtain ⟨byte, _, rfl⟩ := List.mem_map.mp member
    exact byte.toNat_lt
  have cut := groups_flatMap fit rest
  rw [List.length_map] at cut
  rw [bitsOfBytes_eq, cut, List.map_map]
  exact List.map_id'' (fun byte => UInt8.ofNat_toNat) bytes

/-- Bits that are cut into bytes are put together again by these bytes. -/
theorem bitsOfBytes_groups {count : Nat} {bits : List Bool} (enough : count * 8 ≤ bits.length) :
    bitsOfBytes ((groups 8 count bits).map UInt8.ofNat) = bits.take (count * 8) := by
  have numbers : ((groups 8 count bits).map UInt8.ofNat).map UInt8.toNat = groups 8 count bits := by
    rw [List.map_map]
    refine (List.map_congr_left fun number member => ?_).trans (List.map_id _)
    exact UInt8.toNat_ofNat_of_lt' (lt_of_mem_groups member)
  rw [bitsOfBytes_eq, numbers, flatMap_groups enough]

end SecurityKey.Mnemonic
