import SecurityKey.Bytes

/-!
# SHA-256

The digest of a byte string, by which a derivation path is chosen, a mnemonic is
checked and a shared point becomes a secret.  `Digest.sha256` is the function of
FIPS 180-4: the input is padded to blocks of 64 bytes, every block is expanded to 64
words, and the words are folded one by one into eight working words.

Everything that uses the digest takes the hash function as an argument of type
`HashFunction`, so the rest of the library does not depend on which function it is.
-/

set_option autoImplicit false

namespace SecurityKey

/-- The size of a digest in bytes. -/
abbrev digestSize : Nat := 32

/-- A digest. -/
abbrev Digest := FixedBytes digestSize

/-- A function from byte strings to digests. -/
abbrev HashFunction := Bytes → Digest

namespace Digest

/-! ## Words -/

/-- A word rotated to the right. -/
def rotateRight (word : UInt32) (amount : UInt32) : UInt32 :=
  (word >>> amount) ||| (word <<< (32 - amount))

/-- The word that four bytes spell, most significant byte first. -/
def wordOfBytes (bytes : Bytes) : UInt32 := UInt32.ofNat bytes.bigEndian

/-- The fractional parts of the cube roots of the first 64 primes. -/
def roundConstants : List UInt32 := [
  0x428a2f98, 0x71374491, 0xb5c0fbcf, 0xe9b5dba5, 0x3956c25b, 0x59f111f1, 0x923f82a4, 0xab1c5ed5,
  0xd807aa98, 0x12835b01, 0x243185be, 0x550c7dc3, 0x72be5d74, 0x80deb1fe, 0x9bdc06a7, 0xc19bf174,
  0xe49b69c1, 0xefbe4786, 0x0fc19dc6, 0x240ca1cc, 0x2de92c6f, 0x4a7484aa, 0x5cb0a9dc, 0x76f988da,
  0x983e5152, 0xa831c66d, 0xb00327c8, 0xbf597fc7, 0xc6e00bf3, 0xd5a79147, 0x06ca6351, 0x14292967,
  0x27b70a85, 0x2e1b2138, 0x4d2c6dfc, 0x53380d13, 0x650a7354, 0x766a0abb, 0x81c2c92e, 0x92722c85,
  0xa2bfe8a1, 0xa81a664b, 0xc24b8b70, 0xc76c51a3, 0xd192e819, 0xd6990624, 0xf40e3585, 0x106aa070,
  0x19a4c116, 0x1e376c08, 0x2748774c, 0x34b0bcb5, 0x391c0cb3, 0x4ed8aa4a, 0x5b9cca4f, 0x682e6ff3,
  0x748f82ee, 0x78a5636f, 0x84c87814, 0x8cc70208, 0x90befffa, 0xa4506ceb, 0xbef9a3f7, 0xc67178f2]

/-- The eight working words. -/
structure Working where
  a : UInt32
  b : UInt32
  c : UInt32
  d : UInt32
  e : UInt32
  f : UInt32
  g : UInt32
  h : UInt32
  deriving DecidableEq, Repr

/-- The fractional parts of the square roots of the first eight primes. -/
def Working.start : Working :=
  ⟨0x6a09e667, 0xbb67ae85, 0x3c6ef372, 0xa54ff53a, 0x510e527f, 0x9b05688c, 0x1f83d9ab, 0x5be0cd19⟩

/-- The sums of two groups of working words. -/
def Working.add (first second : Working) : Working :=
  ⟨first.a + second.a, first.b + second.b, first.c + second.c, first.d + second.d,
    first.e + second.e, first.f + second.f, first.g + second.g, first.h + second.h⟩

/-- The working words in order. -/
def Working.words (working : Working) : List UInt32 :=
  [working.a, working.b, working.c, working.d, working.e, working.f, working.g, working.h]

/-! ## The compression of one block -/

/-- The words of a block, in order. -/
def blockWords : (count : Nat) → Bytes → List UInt32
  | 0, _ => []
  | count + 1, block => wordOfBytes (block.take 4) :: blockWords count (block.drop 4)

/-- Adds `count` further words to a schedule whose latest word comes first. -/
def expand : (count : Nat) → List UInt32 → List UInt32
  | 0, recent => recent
  | count + 1, recent =>
      let near := recent.getD 1 0
      let far := recent.getD 14 0
      let small0 := rotateRight far 7 ^^^ rotateRight far 18 ^^^ (far >>> 3)
      let small1 := rotateRight near 17 ^^^ rotateRight near 19 ^^^ (near >>> 10)
      expand count ((small1 + recent.getD 6 0 + small0 + recent.getD 15 0) :: recent)

/-- The 64 words of the schedule of a block, in order. -/
def schedule (block : Bytes) : List UInt32 :=
  (expand 48 (blockWords 16 block).reverse).reverse

/-- One round, which folds a round constant and a word of the schedule. -/
def round (working : Working) (constant word : UInt32) : Working :=
  let large1 :=
    rotateRight working.e 6 ^^^ rotateRight working.e 11 ^^^ rotateRight working.e 25
  let choice := (working.e &&& working.f) ^^^ (~~~working.e &&& working.g)
  let first := working.h + large1 + choice + constant + word
  let large0 :=
    rotateRight working.a 2 ^^^ rotateRight working.a 13 ^^^ rotateRight working.a 22
  let majority :=
    (working.a &&& working.b) ^^^ (working.a &&& working.c) ^^^ (working.b &&& working.c)
  let second := large0 + majority
  ⟨first + second, working.a, working.b, working.c, working.d + first, working.e, working.f,
    working.g⟩

/-- Folds a block into the working words. -/
def compress (working : Working) (block : Bytes) : Working :=
  working.add
    ((roundConstants.zip (schedule block)).foldl
      (fun working pair => round working pair.1 pair.2) working)

/-! ## The digest -/

/-- The input with the mark bit, the filling and its length in bits. -/
def padded (input : Bytes) : Bytes :=
  input ++ 0x80 :: List.replicate ((119 - input.length % 64) % 64) 0 ++
    Bytes.ofBigEndian 8 (input.length * 8)

/-- Folds the first `count` blocks of an input into the working words. -/
def fold : (count : Nat) → Working → Bytes → Working
  | 0, working, _ => working
  | count + 1, working, input => fold count (compress working (input.take 64)) (input.drop 64)

/-- The bytes of eight words, most significant byte of each word first. -/
def ofWorking (working : Working) : Digest :=
  FixedBytes.ofBytes digestSize
    (working.words.flatMap fun word => Bytes.ofBigEndian 4 word.toNat)

/-- The SHA-256 digest of a byte string. -/
def sha256 : HashFunction := fun input =>
  ofWorking (fold ((padded input).length / 64) Working.start (padded input))

end Digest

end SecurityKey
