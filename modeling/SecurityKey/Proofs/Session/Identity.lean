import SecurityKey.Proofs.Session.Payloads
import SecurityKey.Settings.Validity

/-!
# Identities that cannot be confused

The locator of a peer key is read from the right.  The host of a valid identity has no `@` and
its user no `/`, so the last `@` ends the user and the last `/` before it begins the user, and
what is left is the application, whatever text that is (`peerLocator_eq_iff`).

The path for a digest shows its first 16 bytes but for the top bit of every fourth
(`KeyPath.ofDigest_eq_iff`).

So two valid identities that differ ask for one key only if the digests of two different texts
agree in these 124 bits (`identities_kept_apart`).
-/

set_option autoImplicit false

namespace SecurityKey

/-! ## Locators -/

/-- What stands before the last separator and what stands behind it are found again. -/
theorem eq_of_append_separator {α : Type} {separator : α} {before before' after after' : List α}
    (last : separator ∉ after) (last' : separator ∉ after')
    (same : before ++ separator :: after = before' ++ separator :: after') :
    before = before' ∧ after = after' := by
  rcases List.append_eq_append_iff.mp same with ⟨between, rfl, rest⟩ | ⟨between, rfl, rest⟩
  · cases between with
    | nil =>
        cases rest
        exact ⟨(List.append_nil _).symm, rfl⟩
    | cons first others =>
        refine absurd ?_ last
        rw [(List.cons.inj rest).2]
        exact List.mem_append_right _ List.mem_cons_self
  · cases between with
    | nil =>
        cases rest
        exact ⟨List.append_nil _, rfl⟩
    | cons first others =>
        refine absurd ?_ last'
        rw [(List.cons.inj rest).2]
        exact List.mem_append_right _ List.mem_cons_self

/-- Whether the parts of an identity that stand behind separators hold none. -/
structure HostInfo.Separable (info : HostInfo) : Prop where
  user : '/' ∉ info.user.toList
  host : '@' ∉ info.host.toList

/-- A locator is the application, the user behind the last `/` and the host behind the last
`@`. -/
theorem HostInfo.toList_peerLocator (info : HostInfo) :
    info.peerLocator.toList =
      ((info.app.toList ++ "_peerkey:/".toList) ++ '/' :: info.user.toList) ++
        '@' :: info.host.toList := by
  simp [peerLocator]

/-- Locators of identities with separable parts are equal exactly if the parts are. -/
theorem HostInfo.peerLocator_eq_iff {first second : HostInfo} (separable : first.Separable)
    (separable' : second.Separable) :
    first.peerLocator = second.peerLocator ↔
      first.app = second.app ∧ first.user = second.user ∧ first.host = second.host := by
  constructor
  · intro same
    have chars := congrArg String.toList same
    rw [toList_peerLocator, toList_peerLocator] at chars
    obtain ⟨front, host⟩ := eq_of_append_separator separable.host separable'.host chars
    obtain ⟨front, user⟩ := eq_of_append_separator separable.user separable'.user front
    have app := List.append_cancel_right front
    exact ⟨String.toList_inj.mp app, String.toList_inj.mp user, String.toList_inj.mp host⟩
  · rintro ⟨app, user, host⟩
    rw [peerLocator, peerLocator, app, user, host]

/-- A valid identity has separable parts. -/
theorem IdentitySettings.separable_hostInfo {identity : IdentitySettings}
    (valid : identity.violations = []) : identity.hostInfo.Separable := by
  have kept := broken_eq_nil_iff.mp valid
  have user := kept _ (List.mem_cons_of_mem _ (List.mem_cons_of_mem _ List.mem_cons_self))
  have host := kept _ (List.mem_cons_of_mem _ (List.mem_cons_of_mem _ (List.mem_cons_of_mem _
    List.mem_cons_self)))
  exact ⟨(hasDelimiter_eq_false_iff.mp user).2, (hasDelimiter_eq_false_iff.mp host).1⟩

/-! ## Paths -/

namespace KeyPath

/-- What a path shows of a byte of a digest: all of it, but for the top bit of every fourth. -/
def shown (bytes : Bytes) (place : Nat) : UInt8 :=
  if place % 4 = 0 then bytes.getD place 0 &&& 0x7f else bytes.getD place 0

/-- Whether two digests agree in what a path shows of them: in the first 16 bytes, but for the
top bits of bytes 0, 4, 8 and 12. -/
def Agree (first second : Digest) : Prop :=
  ∀ place < 16, shown first.bytes place = shown second.bytes place

theorem toNat_hardened (number : UInt32) :
    (hardened number).toNat = 2 ^ 31 + number.toNat % 2 ^ 31 := by
  have bound := number.toNat_lt
  have low : (number.toNat ||| 2 ^ 31) % 2 ^ 31 = number.toNat % 2 ^ 31 := by
    rw [Nat.or_mod_two_pow, Nat.mod_self, Nat.or_zero]
  have high : (number.toNat ||| 2 ^ 31) / 2 ^ 31 = 1 := by
    rw [Nat.or_div_two_pow, Nat.div_self (by decide)]
    have small : number.toNat / 2 ^ 31 = 0 ∨ number.toNat / 2 ^ 31 = 1 := by omega
    rcases small with none | one
    · rw [none]
      rfl
    · rw [one]
      rfl
  have same : (hardened number).toNat = number.toNat ||| 2 ^ 31 := UInt32.toNat_or _ _
  rw [same, ← Nat.div_add_mod (number.toNat ||| 2 ^ 31) (2 ^ 31), low, high, Nat.mul_one]

theorem hardened_eq_iff {first second : UInt32} :
    hardened first = hardened second ↔ first.toNat % 2 ^ 31 = second.toNat % 2 ^ 31 := by
  rw [← UInt32.toNat_inj, toNat_hardened, toNat_hardened]
  omega

theorem toNat_wordOfBytes (a b c d : UInt8) :
    (Digest.wordOfBytes [a, b, c, d]).toNat =
      ((a.toNat * 256 + b.toNat) * 256 + c.toNat) * 256 + d.toNat := by
  have bounds := Bytes.bigEndian_lt [a, b, c, d]
  rw [Digest.wordOfBytes, UInt32.toNat_ofNat_of_lt' (by simpa using bounds)]
  simp [Bytes.bigEndian]

theorem low_bits_eq_iff {first second : UInt8} :
    first &&& 0x7f = second &&& 0x7f ↔ first.toNat % 128 = second.toNat % 128 := by
  rw [← UInt8.toNat_inj, UInt8.toNat_and, UInt8.toNat_and]
  have mask : (0x7f : UInt8).toNat = 2 ^ 7 - 1 := rfl
  rw [mask, Nat.and_two_pow_sub_one_eq_mod, Nat.and_two_pow_sub_one_eq_mod]

/-- A number of a path shows its four bytes but for the top bit of the first. -/
theorem hardened_word_eq_iff (a b c d a' b' c' d' : UInt8) :
    hardened (Digest.wordOfBytes [a, b, c, d]) = hardened (Digest.wordOfBytes [a', b', c', d']) ↔
      a &&& 0x7f = a' &&& 0x7f ∧ b = b' ∧ c = c' ∧ d = d' := by
  have bounds := And.intro b.toNat_lt (And.intro c.toNat_lt d.toNat_lt)
  have bounds' := And.intro b'.toNat_lt (And.intro c'.toNat_lt d'.toNat_lt)
  rw [hardened_eq_iff, toNat_wordOfBytes, toNat_wordOfBytes, low_bits_eq_iff, ← UInt8.toNat_inj,
    ← UInt8.toNat_inj, ← UInt8.toNat_inj]
  omega

theorem shown_behind_word (a b c d : UInt8) (rest : Bytes) (place : Nat) :
    shown (a :: b :: c :: d :: rest) (place + 4) = shown rest place := by
  simp [shown]

/-- A byte string of at least four bytes starts with a word. -/
theorem exists_word {bytes : Bytes} (enough : 4 ≤ bytes.length) :
    ∃ a b c d rest, bytes = a :: b :: c :: d :: rest := by
  match bytes, enough with
  | a :: b :: c :: d :: rest, _ => exact ⟨a, b, c, d, rest, rfl⟩

/-- The numbers of a path show so much of each word. -/
theorem map_hardened_eq_iff (count : Nat) {first second : Bytes}
    (enough : 4 * count ≤ first.length) (enough' : 4 * count ≤ second.length) :
    (Digest.blockWords count first).map hardened = (Digest.blockWords count second).map hardened ↔
      ∀ place < 4 * count, shown first place = shown second place := by
  induction count generalizing first second with
  | zero => simp [Digest.blockWords]
  | succ count hypothesis =>
      obtain ⟨a, b, c, d, first, rfl⟩ := @exists_word first (by omega)
      obtain ⟨a', b', c', d', second, rfl⟩ := @exists_word second (by omega)
      simp only [List.length_cons] at enough enough'
      have others := @hypothesis first second (by omega) (by omega)
      have numbers : (Digest.blockWords (count + 1) (a :: b :: c :: d :: first)).map hardened =
          (Digest.blockWords (count + 1) (a' :: b' :: c' :: d' :: second)).map hardened ↔
          hardened (Digest.wordOfBytes [a, b, c, d]) =
              hardened (Digest.wordOfBytes [a', b', c', d']) ∧
            (Digest.blockWords count first).map hardened =
              (Digest.blockWords count second).map hardened :=
        List.cons_eq_cons
      -- The first four places are the bytes of the first word, the others those of the rest.
      rw [numbers, hardened_word_eq_iff, others]
      constructor
      · rintro ⟨⟨zeroth, rfl, rfl, rfl⟩, behind⟩ place bound
        match place with
        | 0 => exact zeroth
        | 1 | 2 | 3 => rfl
        | place + 4 =>
            rw [shown_behind_word, shown_behind_word]
            exact behind place (by omega)
      · intro same
        refine ⟨⟨same 0 (by omega), same 1 (by omega), same 2 (by omega), same 3 (by omega)⟩,
          fun place bound => ?_⟩
        rw [← shown_behind_word a b c d first, ← shown_behind_word a' b' c' d' second]
        exact same (place + 4) (by omega)

/-- Digests have the same path exactly if they agree in what a path shows of them. -/
theorem ofDigest_eq_iff {first second : Digest} :
    ofDigest first = ofDigest second ↔ Agree first second := by
  have enough (digest : Digest) : 4 * 4 ≤ digest.bytes.length := by
    rw [digest.length_bytes]
    decide
  rw [ofDigest, ofDigest, List.cons_eq_cons, and_iff_right rfl,
    map_hardened_eq_iff 4 (enough first) (enough second), Agree]

end KeyPath

/-! ## Requests for peer keys -/

/-- Two requests for a peer key are the same message exactly if they name the same path. -/
theorem HostInfo.peerKeyRequest_eq_iff {hash : HashFunction} {first second : HostInfo} :
    first.peerKeyRequest hash = second.peerKeyRequest hash ↔
      KeyPath.ofDigest (hash (Bytes.ofText first.peerLocator)) =
        KeyPath.ofDigest (hash (Bytes.ofText second.peerLocator)) := by
  constructor
  · intro same
    obtain ⟨message, encoded, _⟩ := exists_of_sendable (sendable_peerKeyRequest hash first)
    have read := decode_peerKeyRequest encoded
    have read' := decode_peerKeyRequest (same ▸ encoded)
    exact congrArg GetPublicKey.addressN (Except.ok.inj (read.symm.trans read'))
  · intro same
    rw [peerKeyRequest, peerKeyRequest, same]

/-- For valid identities, whatever text their application is and whatever the hash function:
their locators are equal exactly if the applications, the users and the hosts are; paths of
digests are equal exactly if the digests agree in the first 16 bytes but for the top bits of bytes
0, 4, 8 and 12; and so identities of which a part differs hash different texts, and ask the
device for the key of one path only if the digests of these texts agree in these 124 bits. -/
theorem identities_kept_apart (hash : HashFunction) (first second : IdentitySettings)
    (valid : first.violations = []) (valid' : second.violations = []) :
    (first.hostInfo.peerLocator = second.hostInfo.peerLocator ↔
      first.app = second.app ∧ first.user = second.user ∧ first.host = second.host) ∧
    (∀ digest digest' : Digest,
      KeyPath.ofDigest digest = KeyPath.ofDigest digest' ↔ KeyPath.Agree digest digest') ∧
    (first.hostInfo.peerKeyRequest hash = second.hostInfo.peerKeyRequest hash ↔
      KeyPath.Agree (hash (Bytes.ofText first.hostInfo.peerLocator))
        (hash (Bytes.ofText second.hostInfo.peerLocator))) ∧
    (¬(first.app = second.app ∧ first.user = second.user ∧ first.host = second.host) →
      Bytes.ofText first.hostInfo.peerLocator ≠ Bytes.ofText second.hostInfo.peerLocator) := by
  have locators := HostInfo.peerLocator_eq_iff (IdentitySettings.separable_hostInfo valid)
    (IdentitySettings.separable_hostInfo valid')
  refine ⟨locators, fun _ _ => KeyPath.ofDigest_eq_iff,
    HostInfo.peerKeyRequest_eq_iff.trans KeyPath.ofDigest_eq_iff, fun differ same => ?_⟩
  refine differ (locators.mp (Option.some.inj ?_))
  rw [← Bytes.text?_ofText, ← Bytes.text?_ofText, same]

/-- An identity whose application reads like the locator of another one. -/
theorem identities_kept_apart_at_lookalike :
    let first : IdentitySettings := ⟨"disk_peerkey://alice@home", "bob", "work", ""⟩
    let second : IdentitySettings := ⟨"disk", "alice", "home_peerkey:", "unlock"⟩
    first.violations = [] ∧ second.violations = [] ∧
      first.hostInfo.peerLocator ≠ second.hostInfo.peerLocator := by
  refine ⟨by decide +kernel, by decide +kernel, fun same => ?_⟩
  have parts := (identities_kept_apart Digest.sha256 _ _ (by decide +kernel)
    (by decide +kernel)).1.mp same
  exact absurd parts.2.1 (by decide)

end SecurityKey
