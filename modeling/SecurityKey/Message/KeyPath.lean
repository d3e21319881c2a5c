import SecurityKey.Digest

/-!
# Derivation paths

A device finds a key by a path of numbers.  The path for a digest is a fixed purpose
followed by the first four words of the digest, each of them hardened: with its top bit
set.  So a path shows 31 bits of each of the four words.
-/

set_option autoImplicit false

namespace SecurityKey

/-- The path of a key in the key hierarchy. -/
abbrev KeyPath := List UInt32

namespace KeyPath

/-- A number of a path with its top bit set. -/
def hardened (number : UInt32) : UInt32 := number ||| 0x80000000

/-- The purpose that the paths of digests start with. -/
def purpose : UInt32 := 17

/-- The path for a digest. -/
def ofDigest (digest : Digest) : KeyPath :=
  hardened purpose :: (Digest.blockWords 4 digest.bytes).map hardened

end KeyPath

end SecurityKey
