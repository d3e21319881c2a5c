import SecurityKey.Digest
import SecurityKey.Error
import SecurityKey.Mnemonic.Lookup
import SecurityKey.Text.Blank

/-!
# Phrases

A phrase spells 16, 24 or 32 bytes of entropy as 12, 18 or 24 words.  The bits of the
entropy, most significant bit first, are followed by a checksum, one bit of their digest
for every four bytes, and every eleven bits together are the place of a word in the list.

`encode` writes a phrase and `decode` reads one, where any blanks may separate the words.
-/

set_option autoImplicit false

namespace SecurityKey.Mnemonic

/-! ## Bits -/

/-- The `width` low bits of a number, most significant bit first. -/
def bitsOfNat : (width : Nat) → Nat → List Bool
  | 0, _ => []
  | width + 1, value => value.testBit width :: bitsOfNat width value

/-- The number that bits spell, most significant bit first. -/
def natOfBits (bits : List Bool) : Nat :=
  bits.foldl (fun value bit => value * 2 + bit.toNat) 0

/-- The bits of a byte string, most significant bit of each byte first. -/
def bitsOfBytes (bytes : Bytes) : List Bool := bytes.flatMap fun byte => bitsOfNat 8 byte.toNat

/-- The numbers that the first `count` groups of `width` bits spell. -/
def groups (width : Nat) : (count : Nat) → List Bool → List Nat
  | 0, _ => []
  | count + 1, bits => natOfBits (bits.take width) :: groups width count (bits.drop width)

/-! ## Sizes -/

/-- The bits that a word spells. -/
def wordBits : Nat := 11

/-- The lengths of entropy that have a phrase, in bytes. -/
def entropyLengths : List Nat := [16, 24, 32]

/-- The number of words of a phrase for `length` bytes. -/
def wordCount (length : Nat) : Nat := length / 4 * 3

/-- The length of the entropy that `count` words spell, in bytes. -/
def entropyLength (count : Nat) : Nat := count / 3 * 4

/-! ## Phrases -/

/-- The checksum of entropy, one bit for every four bytes. -/
def checksum (hash : HashFunction) (entropy : Bytes) : List Bool :=
  (bitsOfBytes (hash entropy).bytes).take (entropy.length / 4)

/-- The words for entropy, whatever its length. -/
def wordsOf (hash : HashFunction) (entropy : Bytes) : List String :=
  (groups wordBits (wordCount entropy.length) (bitsOfBytes entropy ++ checksum hash entropy)).map
    fun place => words.getD place ""

/-- The phrase for entropy. -/
def encode (hash : HashFunction) (entropy : Bytes) : Except Error String :=
  if entropy.length ∈ entropyLengths then
    .ok (" ".intercalate (wordsOf hash entropy))
  else
    .error (.entropyLength entropy.length)

/-- The places of words in the list; `position` is the position of the first word. -/
def places : (position : Nat) → List String → Except Error (List Nat)
  | _, [] => .ok []
  | position, word :: rest =>
      match place? word with
      | some place => (place :: ·) <$> places (position + 1) rest
      | none => .error (.mnemonic (.unknownWord position))

/-- The entropy that the words of a phrase spell, when their checksum is right. -/
def decode (hash : HashFunction) (phrase : String) : Except Error Bytes := do
  let spelled := Blank.words phrase
  unless spelled.length ∈ entropyLengths.map wordCount do
    throw (.mnemonic (.wordCount spelled.length))
  let places ← places 1 spelled
  let bits := places.flatMap (bitsOfNat wordBits)
  let length := entropyLength spelled.length
  let entropy := (groups 8 length bits).map UInt8.ofNat
  if bits.drop (length * 8) = checksum hash entropy then
    return entropy
  else
    throw (.mnemonic .checksum)

end SecurityKey.Mnemonic
