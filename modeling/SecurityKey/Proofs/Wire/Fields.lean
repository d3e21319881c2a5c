import SecurityKey.Proofs.Wire.Reads

/-!
# Complete fields

A field lies on the wire as a tag and a payload, and the wire type in the tag says which
payloads there are (`WireType.Carries`).  Passing over a value takes one payload, and it takes
nothing else (`Scan.skip_eq_ok_iff`).  A value that is read takes the same bytes as one that is
passed over (`Scan.Takes`).

Where a complete payload begins, what comes behind it never matters: every scan of a value is
decided by the payload, whether it reads the value or refuses it (`Scan.Decided`).  This is
shown here for the values that are no containers.
-/

set_option autoImplicit false

namespace SecurityKey

/-! ## Payloads -/

/-- The payloads of a wire type: a number of at most 64 bits, a body behind its length, or a
run of bytes of a fixed width. -/
def WireType.Carries : WireType → Bytes → Prop
  | .varint, payload => ∃ value < 2 ^ 64, payload = Varint.encode value
  | .fixed64, payload => payload.length = 8
  | .lengthDelimited, payload =>
      ∃ body : Bytes, body.length < 2 ^ 64 ∧ payload = Varint.encode body.length ++ body
  | .fixed32, payload => payload.length = 4

theorem WireType.carries_varint {value : Nat} (fits : value < 2 ^ 64) :
    WireType.varint.Carries (Varint.encode value) :=
  ⟨value, fits, rfl⟩

theorem WireType.carries_delimited {body : Bytes} (fits : body.length < 2 ^ 64) :
    WireType.lengthDelimited.Carries (Varint.encode body.length ++ body) :=
  ⟨body, fits, rfl⟩

/-- A field on the wire, with a number that leaves room for a wire type in the tag and a
payload of that wire type. -/
structure WireField where
  id : UInt32
  wire : WireType
  payload : Bytes
  small : id.toNat < 2 ^ 29
  complete : wire.Carries payload

namespace WireField

/-- The field with a body behind its length. -/
def delimited (id : UInt32) (body : Bytes) (small : id.toNat < 2 ^ 29)
    (fits : body.length < 2 ^ 64) : WireField where
  id := id
  wire := .lengthDelimited
  payload := Varint.encode body.length ++ body
  small := small
  complete := WireType.carries_delimited fits

/-- The tag and the payload. -/
def bytes (field : WireField) : Bytes :=
  Varint.encode (field.wire.tag field.id) ++ field.payload

theorem bytes_delimited {id : UInt32} {body : Bytes} (small : id.toNat < 2 ^ 29)
    (fits : body.length < 2 ^ 64) :
    (delimited id body small fits).bytes = Bytes.ofDelimitedField id body :=
  (List.append_assoc _ _ _).symm

/-- Some fields, one behind the other. -/
def join (fields : List WireField) : Bytes := fields.flatMap bytes

theorem join_cons (field : WireField) (fields : List WireField) :
    join (field :: fields) = field.bytes ++ join fields := rfl

theorem join_append (first second : List WireField) :
    join (first ++ second) = join first ++ join second := List.flatMap_append

theorem isEmpty_bytes_append (field : WireField) (rest : Bytes) :
    (field.bytes ++ rest).isEmpty = false := by
  rw [bytes, List.append_assoc]
  exact Varint.isEmpty_encode_append _ _

end WireField

namespace Scan

variable {α β : Type}

/-! ## Passing over a value -/

theorem varint_eq_ok_iff {bits value : Nat} (positive : 0 < bits) {source rest : Bytes} :
    varint bits source = .ok value rest ↔
      value < 2 ^ bits ∧ source = Varint.encode value ++ rest := by
  rw [← Varint.decode_eq_ok_iff positive, varint]
  split
  · rename_i number left decoded
    rw [decoded]
    simp
  · rename_i error decoded
    rw [decoded]
    simp

theorem take_eq_ok_iff {count : Nat} {short : EncodingFault} {source bytes rest : Bytes} :
    take count short source = .ok bytes rest ↔ bytes.length = count ∧ source = bytes ++ rest := by
  constructor
  · intro run
    rw [take] at run
    split at run
    · rename_i enough
      cases run
      exact ⟨List.length_take_of_le enough, (List.take_append_drop count source).symm⟩
    · cases run
  · rintro ⟨rfl, rfl⟩
    exact reads_take bytes short rest

theorem delimited_eq_ok_iff {source body rest : Bytes} :
    delimited source = .ok body rest ↔
      body.length < 2 ^ 64 ∧ source = Varint.encode body.length ++ body ++ rest := by
  constructor
  · intro run
    obtain ⟨length, left, counted, taken⟩ := run_bind_eq_ok.mp run
    obtain ⟨fits, rfl⟩ := (varint_eq_ok_iff (by decide)).mp counted
    obtain ⟨rfl, rfl⟩ := take_eq_ok_iff.mp taken
    exact ⟨fits, (List.append_assoc _ _ _).symm⟩
  · rintro ⟨fits, rfl⟩
    exact reads_delimited fits rest

theorem discard_eq_ok_iff {scan : Scan α} {source rest : Bytes} :
    (discard scan) source = .ok () rest ↔ ∃ value, scan source = .ok value rest := by
  refine run_map_eq_ok.trans (exists_congr fun value => ?_)
  exact and_iff_left rfl

/-- Passing over a value takes just a payload of its wire type. -/
theorem skip_eq_ok_iff {wire : WireType} {source rest : Bytes} :
    skip wire source = .ok () rest ↔
      ∃ payload, wire.Carries payload ∧ source = payload ++ rest := by
  cases wire with
  | varint =>
      rw [skip, discard_eq_ok_iff]
      simp only [varint_eq_ok_iff (show 0 < 64 by decide)]
      constructor
      · rintro ⟨value, fits, source⟩
        exact ⟨_, ⟨value, fits, rfl⟩, source⟩
      · rintro ⟨_, ⟨value, fits, rfl⟩, source⟩
        exact ⟨value, fits, source⟩
  | lengthDelimited =>
      rw [skip, discard_eq_ok_iff]
      simp only [delimited_eq_ok_iff]
      constructor
      · rintro ⟨body, fits, source⟩
        exact ⟨_, ⟨body, fits, rfl⟩, source⟩
      · rintro ⟨_, ⟨body, fits, rfl⟩, source⟩
        exact ⟨body, fits, source⟩
  | fixed64 | fixed32 =>
      rw [skip, discard_eq_ok_iff]
      simp only [take_eq_ok_iff]
      rfl

theorem reads_skip {wire : WireType} {payload : Bytes} (carried : wire.Carries payload) :
    (skip wire).Reads payload (.ok ()) :=
  fun _ => skip_eq_ok_iff.mpr ⟨payload, carried, rfl⟩

theorem lift_eq_ok_iff {result : Except Error α} {value : α} {source rest : Bytes} :
    lift result source = .ok value rest ↔ result = .ok value ∧ source = rest := by
  cases result with
  | ok found =>
      constructor
      · intro run
        cases run
        exact ⟨rfl, rfl⟩
      · rintro ⟨same, rfl⟩
        cases same
        rfl
  | error error =>
      constructor
      · intro run
        cases run
      · rintro ⟨same, _⟩
        cases same

/-- A tag is taken exactly where one was written whose number leaves room for the wire type. -/
theorem tag_eq_ok_iff {id : UInt32} {wire : WireType} {source rest : Bytes} :
    tag source = .ok (id, wire) rest ↔
      id.toNat < 2 ^ 29 ∧ source = Varint.encode (wire.tag id) ++ rest := by
  constructor
  · intro run
    obtain ⟨number, between, read, behind⟩ := run_bind_eq_ok.mp run
    obtain ⟨fits, rfl⟩ := (varint_eq_ok_iff (by decide)).mp read
    obtain ⟨found, after, checked, made⟩ := run_bind_eq_ok.mp behind
    obtain ⟨accepted, rfl⟩ := lift_eq_ok_iff.mp checked
    cases made
    have small : number / 8 < 2 ^ 32 := by omega
    have kept : (UInt32.ofNat (number / 8)).toNat = number / 8 := UInt32.toNat_ofNat_of_lt' small
    have code : wire.code = number % 8 := WireType.code_of_ofCode accepted
    constructor
    · omega
    · rw [WireType.tag, kept, code, Nat.div_add_mod']
  · rintro ⟨small, rfl⟩
    exact reads_tag small wire rest

theorem isEmpty_of_tag {found : UInt32 × WireType} {source rest : Bytes}
    (tagged : tag source = .ok found rest) : source.isEmpty = false := by
  cases source with
  | nil => cases tagged
  | cons byte rest => rfl

/-! ## Scans of one payload -/

/-- A scan that takes just a payload of a wire type whenever it succeeds. -/
def Takes (scan : Scan α) (wire : WireType) : Prop :=
  ∀ ⦃source rest : Bytes⦄ ⦃value : α⦄,
    scan source = .ok value rest → skip wire source = .ok () rest

/-- A scan that takes nothing when it succeeds. -/
def Keeps (scan : Scan α) : Prop :=
  ∀ ⦃source rest : Bytes⦄ ⦃value : α⦄, scan source = .ok value rest → rest = source

section Takes

variable {wire : WireType}

theorem keeps_pure (value : α) : Keeps (pure value : Scan α) := by
  intro source rest result run
  cases run
  rfl

theorem keeps_throw (error : Error) : Keeps (throw error : Scan α) := by
  intro source rest result run
  cases run

theorem keeps_lift (result : Except Error α) : (lift result).Keeps :=
  fun _ _ _ run => (lift_eq_ok_iff.mp run).2.symm

theorem Keeps.bind {scan : Scan α} {next : α → Scan β} (keeps : scan.Keeps)
    (others : ∀ value, (next value).Keeps) : (scan >>= next).Keeps := by
  intro source rest result run
  obtain ⟨value, between, ran, run⟩ := run_bind_eq_ok.mp run
  exact (others value run).trans (keeps ran)

theorem takes_throw (error : Error) : Takes (throw error : Scan α) wire := by
  intro source rest value run
  cases run

theorem Takes.map {scan : Scan α} (takes : scan.Takes wire) (function : α → β) :
    (function <$> scan).Takes wire := by
  intro source rest result run
  obtain ⟨value, ran, _⟩ := run_map_eq_ok.mp run
  exact takes ran

theorem Takes.bind {scan : Scan α} {next : α → Scan β} (takes : scan.Takes wire)
    (others : ∀ value, (next value).Keeps) : (scan >>= next).Takes wire := by
  intro source rest result run
  obtain ⟨value, between, ran, run⟩ := run_bind_eq_ok.mp run
  rw [others value run]
  exact takes ran

/-- What follows a check is of interest only when it passes. -/
theorem takes_after_lift {check : Except Error α} {next : α → Scan β}
    (others : ∀ value, check = .ok value → (next value).Takes wire) :
    (lift check >>= next).Takes wire := by
  cases check with
  | ok value => exact others value rfl
  | error error => exact takes_throw error

theorem takes_skip (wire : WireType) : (skip wire).Takes wire := fun _ _ _ run => run

theorem takes_varint : (varint 64).Takes .varint :=
  fun _ _ value run => discard_eq_ok_iff.mpr ⟨value, run⟩

theorem takes_delimited : delimited.Takes .lengthDelimited :=
  fun _ _ body run => discard_eq_ok_iff.mpr ⟨body, run⟩

theorem takes_fixed32 : (fixed 4).Takes .fixed32 := by
  have taken : (take 4 .shortFixed).Takes .fixed32 :=
    fun _ _ bytes run => discard_eq_ok_iff.mpr ⟨bytes, run⟩
  exact taken.map _

theorem takes_fixed64 : (fixed 8).Takes .fixed64 := by
  have taken : (take 8 .shortFixed).Takes .fixed64 :=
    fun _ _ bytes run => discard_eq_ok_iff.mpr ⟨bytes, run⟩
  exact taken.map _

theorem takes_unsigned (scalar : wire ≠ .lengthDelimited) : (unsigned wire).Takes wire := by
  cases wire with
  | varint => exact takes_varint.map _
  | fixed64 => exact takes_fixed64.map _
  | lengthDelimited => exact absurd rfl scalar
  | fixed32 => exact takes_fixed32.map _

theorem takes_integer (scalar : wire ≠ .lengthDelimited) : (integer wire).Takes wire := by
  cases wire with
  | varint => exact takes_varint.map _
  | fixed64 => exact takes_fixed64.map _
  | lengthDelimited => exact absurd rfl scalar
  | fixed32 => exact takes_fixed32.map _

theorem takes_boolean : boolean.Takes .varint := by
  refine takes_varint.bind fun value => ?_
  split
  · exact keeps_pure false
  · exact keeps_pure true
  · exact keeps_throw _

theorem takes_text : text.Takes .lengthDelimited := by
  refine takes_delimited.bind fun body => ?_
  split
  · exact keeps_pure _
  · exact keeps_throw _

theorem takes_fixedBytes (size : Nat) : (fixedBytes size).Takes .lengthDelimited := by
  refine takes_delimited.bind fun body => ?_
  split
  · exact keeps_pure _
  · exact keeps_throw _

theorem takes_ordinal : ordinal.Takes .varint := takes_varint.map _

end Takes

/-! ## What a payload decides -/

/-- Some bytes decide what a scan comes to, whatever comes behind them. -/
def Decided (scan : Scan α) (bytes : Bytes) : Prop :=
  ∃ result, scan.Settles bytes result

theorem Reads.decided {scan : Scan α} {bytes : Bytes} {result : Except Error α}
    (reads : scan.Reads bytes result) : scan.Decided bytes :=
  ⟨result, reads.settles⟩

theorem decided_throw (error : Error) (bytes : Bytes) : Decided (throw error : Scan α) bytes :=
  ⟨_, settles_throw error bytes⟩

theorem Decided.map {scan : Scan α} {bytes : Bytes} (decided : scan.Decided bytes)
    (function : α → β) : (function <$> scan).Decided bytes := by
  obtain ⟨result, settles⟩ := decided
  exact ⟨_, settles.map function⟩

/-- What follows without taking anything is decided by the bytes before it. -/
theorem Decided.bind {scan : Scan α} {next : α → Scan β} {bytes : Bytes}
    (decided : scan.Decided bytes) (others : ∀ value, (next value).Decided []) :
    (scan >>= next).Decided bytes := by
  obtain ⟨result, settles⟩ := decided
  choose after behind using others
  exact ⟨_, settles.bind behind⟩

theorem decided_lift (result : Except Error α) : (lift result).Decided [] :=
  (reads_lift result).decided

/-- A check either fails, or the bytes decide what comes after it. -/
theorem decided_after_lift {check : Except Error α} {next : α → Scan β} {bytes : Bytes}
    (others : ∀ value, check = .ok value → (next value).Decided bytes) :
    (lift check >>= next).Decided bytes := by
  cases check with
  | ok value => exact others value rfl
  | error error => exact decided_throw error bytes

/-- The outcome that the bytes decide is the one that a scan of just them has. -/
theorem Decided.settles {scan : Scan α} {bytes : Bytes} (decided : scan.Decided bytes) :
    scan.Settles bytes (outcome (scan bytes)) := by
  obtain ⟨result, settles⟩ := decided
  rwa [settles.outcome_eq]

/-! ## Values -/

section Values

variable {wire : WireType} {payload : Bytes}

theorem decided_varint (carried : WireType.varint.Carries payload) :
    (varint 64).Decided payload := by
  obtain ⟨value, fits, rfl⟩ := carried
  exact (reads_varint (by decide) fits).decided

theorem decided_delimited (carried : WireType.lengthDelimited.Carries payload) :
    delimited.Decided payload := by
  obtain ⟨body, fits, rfl⟩ := carried
  exact (reads_delimited fits).decided

theorem decided_fixed {width : Nat} (exact : payload.length = width) :
    (fixed width).Decided payload := by
  subst exact
  exact (reads_take payload .shortFixed).decided.map _

theorem decided_unsigned (carried : wire.Carries payload) (scalar : wire ≠ .lengthDelimited) :
    (unsigned wire).Decided payload := by
  cases wire with
  | varint => exact (decided_varint carried).map _
  | fixed64 => exact (decided_fixed carried).map _
  | lengthDelimited => exact absurd rfl scalar
  | fixed32 => exact (decided_fixed carried).map _

theorem decided_integer (carried : wire.Carries payload) (scalar : wire ≠ .lengthDelimited) :
    (integer wire).Decided payload := by
  cases wire with
  | varint => exact (decided_varint carried).map _
  | fixed64 => exact (decided_fixed carried).map _
  | lengthDelimited => exact absurd rfl scalar
  | fixed32 => exact (decided_fixed carried).map _

theorem decided_boolean (carried : WireType.varint.Carries payload) : boolean.Decided payload := by
  refine (decided_varint carried).bind fun value => ?_
  split
  · exact (reads_pure false).decided
  · exact (reads_pure true).decided
  · exact decided_throw _ _

theorem decided_text (carried : WireType.lengthDelimited.Carries payload) :
    text.Decided payload := by
  refine (decided_delimited carried).bind fun body => ?_
  split
  · exact (reads_pure _).decided
  · exact decided_throw _ _

theorem decided_fixedBytes (size : Nat) (carried : WireType.lengthDelimited.Carries payload) :
    (fixedBytes size).Decided payload := by
  refine (decided_delimited carried).bind fun body => ?_
  split
  · exact (reads_pure _).decided
  · exact decided_throw _ _

theorem decided_ordinal (carried : WireType.varint.Carries payload) : ordinal.Decided payload :=
  (decided_varint carried).map _

end Values

end Scan
end SecurityKey
