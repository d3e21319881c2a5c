import SecurityKey.Bytes
import SecurityKey.Text.Blank

/-!
# Words put side by side

Words that are put side by side with a space between each two of them are found again one by
one, when they are words: not empty and without a blank in them (`words_intercalate`).

A text is a word when its bytes are small letters (`isWord_of_letters`).
-/

set_option autoImplicit false

namespace SecurityKey

/-! ## Bytes of ASCII -/

namespace Bytes

theorem ofText_eq_flatMap (text : String) :
    ofText text = text.toList.flatMap String.utf8EncodeChar := by
  have encoded : text.toByteArray = text.toList.utf8Encode := String.utf8Encode_toList.symm
  rw [ofText, String.toUTF8, encoded, List.utf8Encode, List.data_toByteArray]

/-- A character that is not ASCII ends with a byte that is not. -/
theorem exists_large_of_utf8EncodeChar {char : Char} (large : 0x7f < char.toNat) :
    ∃ byte ∈ String.utf8EncodeChar char, 0x80 ≤ byte.toNat := by
  have last : UInt8.ofNat (char.toNat % 0x40 + 0x80) ∈ String.utf8EncodeChar char := by
    rw [String.utf8EncodeChar]
    split
    · rename_i small
      exact absurd small (Nat.not_le.mpr large)
    · split
      · simp
      · split <;> simp
  refine ⟨_, last, ?_⟩
  rw [UInt8.toNat_ofNat']
  omega

/-- In a text of ASCII bytes each character is one of the bytes. -/
theorem mem_ofText_of_ascii {text : String} (ascii : ∀ byte ∈ ofText text, byte.toNat < 0x80)
    {char : Char} (member : char ∈ text.toList) :
    ∃ byte ∈ ofText text, byte.toNat = char.toNat := by
  rw [ofText_eq_flatMap] at ascii ⊢
  have small : char.toNat ≤ 0x7f := by
    refine Nat.le_of_not_lt fun large => ?_
    obtain ⟨byte, inside, high⟩ := exists_large_of_utf8EncodeChar large
    exact Nat.not_lt.mpr high (ascii byte (List.mem_flatMap.mpr ⟨char, member, inside⟩))
  have single : String.utf8EncodeChar char = [UInt8.ofNat char.toNat] := by
    rw [String.utf8EncodeChar]
    exact if_pos small
  refine ⟨UInt8.ofNat char.toNat, List.mem_flatMap.mpr ⟨char, member, ?_⟩, ?_⟩
  · rw [single]
    exact List.mem_singleton_self _
  · exact UInt8.toNat_ofNat_of_lt' (Nat.lt_of_le_of_lt small (by decide))

end Bytes

namespace Blank

/-! ## Words -/

/-- Whether a text is a word: it is not empty, and no blank is in it. -/
def IsWord (text : String) : Prop :=
  text.toList ≠ [] ∧ ∀ char ∈ text.toList, isBlank char = false

/-- The small letters in bytes. -/
def isLetter (byte : UInt8) : Bool := 0x61 ≤ byte && byte ≤ 0x7a

theorem isBlank_of_letter {char : Char} (lower : 0x61 ≤ char.toNat) (upper : char.toNat ≤ 0x7a) :
    isBlank char = false := by
  simp only [isBlank, ranges, List.any_cons, List.any_nil, Bool.or_false, Bool.or_eq_false_iff,
    Bool.and_eq_false_iff, decide_eq_false_iff_not]
  omega

/-- A text is a word when its bytes are small letters. -/
theorem isWord_of_letters {text : String} (filled : Bytes.ofText text ≠ [])
    (letters : (Bytes.ofText text).all isLetter) : IsWord text := by
  have bounds : ∀ byte ∈ Bytes.ofText text, 0x61 ≤ byte.toNat ∧ byte.toNat ≤ 0x7a := by
    intro byte member
    have letter := List.all_eq_true.mp letters byte member
    rw [isLetter, Bool.and_eq_true, decide_eq_true_iff, decide_eq_true_iff,
      UInt8.le_iff_toNat_le, UInt8.le_iff_toNat_le] at letter
    exact letter
  have ascii : ∀ byte ∈ Bytes.ofText text, byte.toNat < 0x80 := fun byte member =>
    Nat.lt_of_le_of_lt (bounds byte member).2 (by decide)
  refine ⟨fun empty => filled ?_, fun char member => ?_⟩
  · rw [Bytes.ofText_eq_flatMap, empty, List.flatMap_nil]
  · obtain ⟨byte, inside, same⟩ := Bytes.mem_ofText_of_ascii ascii member
    obtain ⟨lower, upper⟩ := bounds byte inside
    rw [same] at lower upper
    exact isBlank_of_letter lower upper

/-! ## Words with blanks between them -/

theorem foldr_step_dark {word : List Char} (dark : ∀ char ∈ word, isBlank char = false)
    (state : List Char × List (List Char)) :
    word.foldr step state = (word ++ state.1, state.2) := by
  induction word with
  | nil => rfl
  | cons char rest hypothesis =>
      obtain ⟨first, others⟩ := List.forall_mem_cons.mp dark
      rw [List.foldr_cons, hypothesis others, step, first]
      rfl

/-- A word that nothing follows is the only word. -/
theorem wordLists_word {word : List Char} (filled : word ≠ [])
    (dark : ∀ char ∈ word, isBlank char = false) : wordLists word = [word] := by
  have started : word.isEmpty = false := by simpa using filled
  rw [wordLists, foldr_step_dark dark, List.append_nil]
  simp only [started, Bool.false_eq_true, if_false]

/-- A word is separated by a blank from the words that follow. -/
theorem wordLists_append {word rest : List Char} {blank : Char} (filled : word ≠ [])
    (dark : ∀ char ∈ word, isBlank char = false) (light : isBlank blank) :
    wordLists (word ++ blank :: rest) = word :: wordLists rest := by
  have started : word.isEmpty = false := by simpa using filled
  have behind : (blank :: rest).foldr step ([], []) = ([], wordLists rest) := by
    rw [List.foldr_cons, step, if_pos light, wordLists]
  rw [wordLists, List.foldr_append, behind, foldr_step_dark dark, List.append_nil]
  simp only [started, Bool.false_eq_true, if_false]

/-- Words that are put side by side are found again. -/
theorem words_intercalate {texts : List String} (isWord : ∀ text ∈ texts, IsWord text) :
    words (" ".intercalate texts) = texts := by
  induction texts with
  | nil => rfl
  | cons text rest hypothesis =>
      obtain ⟨⟨filled, dark⟩, others⟩ := List.forall_mem_cons.mp isWord
      cases rest with
      | nil =>
          rw [String.intercalate_singleton, words, wordLists_word filled dark, List.map_singleton,
            String.ofList_toList]
      | cons second behind =>
          have found := hypothesis others
          rw [words] at found ⊢
          have space : " ".toList = [' '] := rfl
          rw [String.intercalate_cons_cons, String.toList_append, String.toList_append, space,
            List.append_assoc, List.singleton_append, wordLists_append filled dark rfl,
            List.map_cons, String.ofList_toList, found]

end Blank
end SecurityKey
