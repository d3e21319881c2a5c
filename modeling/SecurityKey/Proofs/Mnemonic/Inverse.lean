import Mathlib.Data.List.Forall2
import SecurityKey.Proofs.Mnemonic.Bits
import SecurityKey.Proofs.Text.Separation

/-!
# Phrases and entropy

A phrase spells entropy when its words are the words that are written for the entropy, whatever
blanks stand between them.  Reading accepts exactly these phrases (`decode_eq_ok_iff_wordsOf`),
and every other one is refused for the first thing that is wrong with it: the number of its
words, a word that is not in the list, or its checksum (`decode_eq_error_iff_flawed`).

Both follow from one view of a phrase.  The places of its words are numbers of eleven bits;
put end to end these are the bits of the entropy and of the checksum behind them.
-/

set_option autoImplicit false

namespace SecurityKey.Mnemonic

/-! ## Words and places -/

/-- Whether words are those at some places of the list. -/
def Spells (spelled : List String) (numbers : List Nat) : Prop :=
  List.Forall₂ (fun word number => words[number]? = some word) spelled numbers

theorem places_eq_ok_iff {position : Nat} {spelled : List String} {numbers : List Nat} :
    places position spelled = .ok numbers ↔ Spells spelled numbers := by
  induction spelled generalizing position numbers with
  | nil =>
      rw [Spells, List.forall₂_nil_left_iff, places]
      exact ⟨fun made => (Except.ok.inj made).symm, fun none => congrArg Except.ok none.symm⟩
  | cons word rest hypothesis =>
      rw [places]
      constructor
      · intro made
        split at made
        · rename_i place found
          obtain ⟨others, madeOthers, rfl⟩ := map_eq_ok.mp made
          exact .cons (place?_eq_some_iff.mp found) (hypothesis.mp madeOthers)
        · cases made
      · rintro (_ | ⟨stands, others⟩)
        rw [place?_eq_some_iff.mpr stands]
        exact map_eq_ok.mpr ⟨_, hypothesis.mpr others, rfl⟩

theorem places_of_unknown {before after : List String} {word : String} (position : Nat)
    (known : ∀ earlier ∈ before, earlier ∈ words) (unknown : word ∉ words) :
    places position (before ++ word :: after) =
      .error (.mnemonic (.unknownWord (position + before.length))) := by
  induction before generalizing position with
  | nil =>
      rw [List.nil_append, places, place?_eq_none_iff.mpr unknown]
      rfl
  | cons first rest hypothesis =>
      obtain ⟨knownFirst, knownRest⟩ := List.forall_mem_cons.mp known
      obtain ⟨place, found⟩ := Option.ne_none_iff_exists'.mp
        (mt place?_eq_none_iff.mp (not_not_intro knownFirst))
      have later : position + (first :: rest).length = position + 1 + rest.length := by
        rw [List.length_cons]
        omega
      rw [List.cons_append, places, found, later]
      exact congrArg (Functor.map (place :: ·)) (hypothesis (position + 1) knownRest)

/-- Words are at some places, or there is a first one that is not in the list. -/
theorem spells_or_unknown (spelled : List String) :
    (∃ numbers, Spells spelled numbers) ∨
      ∃ before word after, spelled = before ++ word :: after ∧
        (∀ earlier ∈ before, earlier ∈ words) ∧ word ∉ words := by
  induction spelled with
  | nil => exact .inl ⟨[], .nil⟩
  | cons first rest hypothesis =>
      by_cases known : first ∈ words
      · rcases hypothesis with ⟨numbers, spells⟩ | ⟨before, word, after, rfl, others, unknown⟩
        · obtain ⟨place, stands⟩ := List.mem_iff_getElem?.mp known
          exact .inl ⟨place :: numbers, .cons stands spells⟩
        · exact .inr ⟨first :: before, word, after, rfl,
            List.forall_mem_cons.mpr ⟨known, others⟩, unknown⟩
      · exact .inr ⟨[], first, rest, rfl, List.forall_mem_nil _, known⟩

/-- Places of words are numbers of as many bits as a word spells. -/
theorem Spells.lt {spelled : List String} {numbers : List Nat} (spells : Spells spelled numbers) :
    ∀ number ∈ numbers, number < 2 ^ wordBits := by
  induction spells with
  | nil => exact List.forall_mem_nil _
  | cons stands _ hypothesis =>
      refine List.forall_mem_cons.mpr ⟨?_, hypothesis⟩
      obtain ⟨inside, _⟩ := List.getElem?_eq_some_iff.mp stands
      rwa [words_length] at inside

/-- Words are read off their places. -/
theorem Spells.eq_map {spelled : List String} {numbers : List Nat}
    (spells : Spells spelled numbers) :
    numbers.map (fun place => words.getD place "") = spelled := by
  induction spells with
  | nil => rfl
  | cons stands _ hypothesis =>
      rw [List.map_cons, hypothesis, List.getD_eq_getElem?_getD, stands, Option.getD_some]

theorem spells_map {numbers : List Nat} (fit : ∀ number ∈ numbers, number < 2 ^ wordBits) :
    Spells (numbers.map fun place => words.getD place "") numbers := by
  induction numbers with
  | nil => exact .nil
  | cons number others hypothesis =>
      obtain ⟨small, fitOthers⟩ := List.forall_mem_cons.mp fit
      refine .cons ?_ (hypothesis fitOthers)
      have inside : number < words.length := by rwa [words_length]
      dsimp only
      rw [List.getD_eq_getElem?_getD, List.getElem?_eq_getElem inside, Option.getD_some]

/-! ## The bits of a phrase -/

variable {hash : HashFunction}

theorem length_checksum {entropy : Bytes} (length : entropy.length ∈ entropyLengths) :
    (checksum hash entropy).length = entropy.length / 4 := by
  have digest : (hash entropy).bytes.length = 32 := (hash entropy).length_bytes
  rw [checksum, List.length_take, length_bitsOfBytes, digest]
  simp only [entropyLengths, List.mem_cons, List.not_mem_nil, or_false] at length
  omega

/-- The numbers that are written for entropy. -/
def numbersOf (hash : HashFunction) (entropy : Bytes) : List Nat :=
  groups wordBits (wordCount entropy.length) (bitsOfBytes entropy ++ checksum hash entropy)

theorem spells_wordsOf (hash : HashFunction) (entropy : Bytes) :
    Spells (wordsOf hash entropy) (numbersOf hash entropy) :=
  spells_map fun _ member => lt_of_mem_groups member

theorem length_wordsOf (hash : HashFunction) (entropy : Bytes) :
    (wordsOf hash entropy).length = wordCount entropy.length := by
  rw [wordsOf, List.length_map, length_groups]

/-- The numbers that are written for entropy are its bits and those of its checksum. -/
theorem flatMap_numbersOf {entropy : Bytes} (length : entropy.length ∈ entropyLengths) :
    (numbersOf hash entropy).flatMap (bitsOfNat wordBits) =
      bitsOfBytes entropy ++ checksum hash entropy := by
  have whole : wordCount entropy.length * wordBits =
      (bitsOfBytes entropy ++ checksum hash entropy).length := by
    rw [List.length_append, length_bitsOfBytes, length_checksum length]
    simp only [entropyLengths, List.mem_cons, List.not_mem_nil, or_false] at length
    simp only [wordCount, wordBits]
    omega
  rw [numbersOf, flatMap_groups (Nat.le_of_eq whole), whole, List.take_length]

/-- Entropy whose bits and checksum are those of a phrase is written as this phrase. -/
theorem wordsOf_eq_of_bits {entropy : Bytes} {spelled : List String} {numbers : List Nat}
    (spells : Spells spelled numbers) (count : spelled.length = wordCount entropy.length)
    (bits : numbers.flatMap (bitsOfNat wordBits) = bitsOfBytes entropy ++ checksum hash entropy) :
    wordsOf hash entropy = spelled := by
  have written : numbersOf hash entropy = numbers := by
    have cut := groups_flatMap spells.lt []
    rwa [List.append_nil, bits, ← spells.length_eq, count] at cut
  rw [← spells.eq_map, ← written]
  rfl

/-! ## Reading -/

theorem decode_of_count {phrase : String}
    (count : (Blank.words phrase).length ∉ entropyLengths.map wordCount) :
    decode hash phrase = .error (.mnemonic (.wordCount (Blank.words phrase).length)) := by
  rw [decode]
  dsimp only
  rw [if_neg count]
  rfl

theorem decode_of_places {phrase : String}
    (count : (Blank.words phrase).length ∈ entropyLengths.map wordCount) {error : Error}
    (refused : places 1 (Blank.words phrase) = .error error) :
    decode hash phrase = .error error := by
  rw [decode]
  dsimp only
  rw [if_pos count, refused]
  rfl

/-- Words of the list are read as the bytes of their bits, when the bits that are left over are
the checksum of these bytes. -/
theorem decode_of_spells {phrase : String}
    (count : (Blank.words phrase).length ∈ entropyLengths.map wordCount) {numbers : List Nat}
    (spells : Spells (Blank.words phrase) numbers) {entropy : Bytes} {left : List Bool}
    (length : entropy.length = entropyLength (Blank.words phrase).length)
    (bits : numbers.flatMap (bitsOfNat wordBits) = bitsOfBytes entropy ++ left) :
    decode hash phrase =
      if left = checksum hash entropy then .ok entropy else .error (.mnemonic .checksum) := by
  have whole : (bitsOfBytes entropy).length = entropyLength (Blank.words phrase).length * 8 := by
    rw [length_bitsOfBytes, length]
  rw [decode]
  dsimp only
  rw [if_pos count, places_eq_ok_iff.mpr spells]
  change (if _ then Except.ok _ else Except.error _) = _
  rw [bits, List.drop_left' whole, ← length, groups_bitsOfBytes]

/-- The bits of words of the list are those of some bytes, and some that are left over. -/
theorem exists_bits {spelled : List String} {numbers : List Nat} (spells : Spells spelled numbers) :
    ∃ entropy left, entropy.length = entropyLength spelled.length ∧
      numbers.flatMap (bitsOfNat wordBits) = bitsOfBytes entropy ++ left := by
  have enough :
      entropyLength spelled.length * 8 ≤ (numbers.flatMap (bitsOfNat wordBits)).length := by
    rw [length_flatMap_bitsOfNat, ← spells.length_eq]
    simp only [entropyLength, wordBits]
    omega
  generalize numbers.flatMap (bitsOfNat wordBits) = bits at enough
  refine ⟨(groups 8 (entropyLength spelled.length) bits).map UInt8.ofNat,
    bits.drop (entropyLength spelled.length * 8), ?_, ?_⟩
  · rw [List.length_map, length_groups]
  · rw [bitsOfBytes_groups enough, List.take_append_drop]

theorem entropyLength_wordCount {length : Nat} (admitted : length ∈ entropyLengths) :
    entropyLength (wordCount length) = length := by
  simp only [entropyLengths, List.mem_cons, List.not_mem_nil, or_false] at admitted
  simp only [entropyLength, wordCount]
  omega

/-- The words that are written for entropy are read as the entropy. -/
theorem decode_of_wordsOf {phrase : String} {entropy : Bytes}
    (admitted : entropy.length ∈ entropyLengths)
    (same : Blank.words phrase = wordsOf hash entropy) : decode hash phrase = .ok entropy := by
  have counted : (Blank.words phrase).length = wordCount entropy.length := by
    rw [same, length_wordsOf]
  have count : (Blank.words phrase).length ∈ entropyLengths.map wordCount := by
    rw [counted]
    exact List.mem_map_of_mem admitted
  have spells : Spells (Blank.words phrase) (numbersOf hash entropy) := by
    rw [same]
    exact spells_wordsOf hash entropy
  have length : entropy.length = entropyLength (Blank.words phrase).length := by
    rw [counted, entropyLength_wordCount admitted]
  rw [decode_of_spells count spells length (flatMap_numbersOf admitted), if_pos rfl]

/-! ## Phrases that are refused -/

/-- What is wrong with the words of a phrase: there are too many of them or too few, or one of
them is not in the list, or the bits behind those of the entropy are not its checksum. -/
inductive Flawed (hash : HashFunction) : List String → MnemonicFault → Prop where
  | wordCount {spelled : List String} (count : spelled.length ∉ [12, 18, 24]) :
      Flawed hash spelled (.wordCount spelled.length)
  | unknownWord {before after : List String} {word : String}
      (count : (before ++ word :: after).length ∈ [12, 18, 24])
      (known : ∀ earlier ∈ before, earlier ∈ words) (unknown : word ∉ words) :
      Flawed hash (before ++ word :: after) (.unknownWord (1 + before.length))
  | checksum {spelled : List String} {numbers : List Nat} {entropy : Bytes} {left : List Bool}
      (count : spelled.length ∈ [12, 18, 24]) (spells : Spells spelled numbers)
      (length : entropy.length = entropyLength spelled.length)
      (bits : numbers.flatMap (bitsOfNat wordBits) = bitsOfBytes entropy ++ left)
      (wrong : left ≠ checksum hash entropy) : Flawed hash spelled .checksum

/-- A flaw is what a phrase is refused for. -/
theorem decode_of_flawed {phrase : String} {fault : MnemonicFault}
    (flawed : Flawed hash (Blank.words phrase) fault) :
    decode hash phrase = .error (.mnemonic fault) := by
  generalize split : Blank.words phrase = spelled at flawed
  cases flawed with
  | wordCount count =>
      subst split
      exact decode_of_count count
  | unknownWord count known unknown =>
      rw [← split] at count
      refine decode_of_places count ?_
      rw [split]
      exact places_of_unknown 1 known unknown
  | checksum count spells length bits wrong =>
      subst split
      rw [decode_of_spells count spells length bits, if_neg wrong]

/-- A phrase is that of some entropy, and read as this entropy, or it has a flaw. -/
theorem wordsOf_or_flawed (hash : HashFunction) (phrase : String) :
    (∃ entropy, decode hash phrase = .ok entropy ∧ entropy.length ∈ entropyLengths ∧
      Blank.words phrase = wordsOf hash entropy) ∨
      ∃ fault, Flawed hash (Blank.words phrase) fault := by
  by_cases count : (Blank.words phrase).length ∈ entropyLengths.map wordCount
  · rcases spells_or_unknown (Blank.words phrase) with
      ⟨numbers, spells⟩ | ⟨before, word, after, split, known, unknown⟩
    · obtain ⟨entropy, left, length, bits⟩ := exists_bits spells
      by_cases right : left = checksum hash entropy
      · have read : decode hash phrase = if left = checksum hash entropy then .ok entropy
            else .error (.mnemonic .checksum) := decode_of_spells count spells length bits
        rw [if_pos right] at read
        obtain ⟨admitted, member, counted⟩ := List.mem_map.mp count
        rw [← counted, entropyLength_wordCount member] at length
        subst length right
        exact .inl ⟨entropy, read, member, (wordsOf_eq_of_bits spells counted.symm bits).symm⟩
      · exact .inr ⟨_, .checksum count spells length bits right⟩
    · rw [split] at count ⊢
      exact .inr ⟨_, .unknownWord count known unknown⟩
  · exact .inr ⟨_, .wordCount count⟩

/-- A phrase is read as entropy exactly if its words are those that are written for it. -/
theorem decode_eq_ok_iff_wordsOf {phrase : String} {entropy : Bytes} :
    decode hash phrase = .ok entropy ↔
      entropy.length ∈ entropyLengths ∧ Blank.words phrase = wordsOf hash entropy := by
  constructor
  · intro read
    rcases wordsOf_or_flawed hash phrase with ⟨found, readFound, admitted, same⟩ | ⟨fault, flawed⟩
    · rw [readFound] at read
      cases read
      exact ⟨admitted, same⟩
    · rw [decode_of_flawed flawed] at read
      cases read
  · rintro ⟨admitted, same⟩
    exact decode_of_wordsOf admitted same

/-- A phrase is refused exactly for what is wrong with its words. -/
theorem decode_eq_error_iff_flawed {phrase : String} {error : Error} :
    decode hash phrase = .error error ↔
      ∃ fault, error = .mnemonic fault ∧ Flawed hash (Blank.words phrase) fault := by
  constructor
  · intro refused
    rcases wordsOf_or_flawed hash phrase with ⟨entropy, read, _⟩ | ⟨fault, flawed⟩
    · rw [read] at refused
      cases refused
    · rw [decode_of_flawed flawed] at refused
      cases refused
      exact ⟨fault, rfl, flawed⟩
  · rintro ⟨fault, rfl, flawed⟩
    exact decode_of_flawed flawed

/-! ## Writing and reading -/

set_option maxRecDepth 20000 in
theorem words_letters :
    (words.all fun word => !(Bytes.ofText word).isEmpty &&
      (Bytes.ofText word).all Blank.isLetter) = true := by decide +kernel

/-- The words of the list are words. -/
theorem isWord_of_mem {word : String} (member : word ∈ words) : Blank.IsWord word := by
  have letters := List.all_eq_true.mp words_letters word member
  rw [Bool.and_eq_true, Bool.not_eq_true', List.isEmpty_eq_false_iff] at letters
  exact Blank.isWord_of_letters letters.1 letters.2

theorem Spells.mem {spelled : List String} {numbers : List Nat} (spells : Spells spelled numbers) :
    ∀ word ∈ spelled, word ∈ words := by
  induction spells with
  | nil => exact List.forall_mem_nil _
  | cons stands _ hypothesis =>
      exact List.forall_mem_cons.mpr ⟨List.mem_of_getElem? stands, hypothesis⟩

/-- The words of a phrase that is written are those of its entropy. -/
theorem encode_eq_ok_iff {phrase : String} {entropy : Bytes} :
    encode hash entropy = .ok phrase ↔
      entropy.length ∈ entropyLengths ∧ phrase = " ".intercalate (wordsOf hash entropy) := by
  rw [encode]
  split
  · rename_i admitted
    constructor
    · intro made
      cases made
      exact ⟨admitted, rfl⟩
    · rintro ⟨_, rfl⟩
      rfl
  · rename_i refused
    constructor
    · intro made
      cases made
    · rintro ⟨admitted, _⟩
      exact absurd admitted refused

theorem words_of_encode {phrase : String} {entropy : Bytes}
    (written : encode hash entropy = .ok phrase) : Blank.words phrase = wordsOf hash entropy := by
  obtain ⟨_, rfl⟩ := encode_eq_ok_iff.mp written
  exact Blank.words_intercalate fun word member =>
    isWord_of_mem ((spells_wordsOf hash entropy).mem word member)

/-- Reading inverts writing, whatever hash function the checksum is taken from:

* entropy is written and read again as it was exactly if it has 16, 24 or 32 bytes;
* a phrase is read as some entropy exactly if the entropy has such a length and the phrase has
  the words, separated by any blanks, that are written for the entropy;
* every other phrase is no mnemonic: it is refused for the number of its words, for the first of
  them that is not in the list or for its checksum. -/
theorem decode_inverts_encode (hash : HashFunction) :
    (∀ entropy : Bytes,
      (∃ phrase, encode hash entropy = .ok phrase ∧ decode hash phrase = .ok entropy) ↔
        entropy.length = 16 ∨ entropy.length = 24 ∨ entropy.length = 32) ∧
    (∀ (phrase : String) (entropy : Bytes),
      decode hash phrase = .ok entropy ↔
        (entropy.length = 16 ∨ entropy.length = 24 ∨ entropy.length = 32) ∧
          ∃ written, encode hash entropy = .ok written ∧
            Blank.words phrase = Blank.words written) ∧
    ∀ (phrase : String) (error : Error),
      decode hash phrase = .error error ↔
        ∃ fault, error = .mnemonic fault ∧ Flawed hash (Blank.words phrase) fault := by
  have lengths : ∀ entropy : Bytes, entropy.length ∈ entropyLengths ↔
      entropy.length = 16 ∨ entropy.length = 24 ∨ entropy.length = 32 := by
    intro entropy
    simp only [entropyLengths, List.mem_cons, List.not_mem_nil, or_false]
  refine ⟨fun entropy => ?again, fun phrase entropy => ?exactly, fun phrase error =>
    decode_eq_error_iff_flawed⟩
  case again =>
    rw [← lengths]
    constructor
    · rintro ⟨phrase, written, _⟩
      exact (encode_eq_ok_iff.mp written).1
    · intro admitted
      have written : encode hash entropy = .ok (" ".intercalate (wordsOf hash entropy)) :=
        encode_eq_ok_iff.mpr ⟨admitted, rfl⟩
      exact ⟨_, written, decode_eq_ok_iff_wordsOf.mpr ⟨admitted, words_of_encode written⟩⟩
  case exactly =>
    rw [← lengths, decode_eq_ok_iff_wordsOf]
    refine and_congr_right fun admitted => ?_
    constructor
    · intro same
      have written : encode hash entropy = .ok (" ".intercalate (wordsOf hash entropy)) :=
        encode_eq_ok_iff.mpr ⟨admitted, rfl⟩
      exact ⟨_, written, same.trans (words_of_encode written).symm⟩
    · rintro ⟨written, made, same⟩
      exact same.trans (words_of_encode made)

end SecurityKey.Mnemonic
