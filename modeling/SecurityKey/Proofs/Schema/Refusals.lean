import SecurityKey.Schema.Decode

/-!
# Why bytes cannot be read

Reading an object fails for two reasons only: its bytes are badly encoded, or what they
encode does not fit the schema (`Schema.error_of_decode`).  No other error comes from the
bytes of a message, whatever they are.  `Refusal` lists what there is to refuse
(`Schema.refuses_decodeAt`).

Each scan refuses for these reasons (`Scan.Refuses`), and what is put together from such scans
does so too, as with the bytes that a scan leaves.  The decoder of the nested bodies is one
that refuses for these reasons by induction on the depth.
-/

set_option autoImplicit false

namespace SecurityKey

/-- Whether an error is about the bytes of an object: they are badly encoded or do not fit the
schema. -/
def Error.isRefusal : Error → Bool
  | .encoding _ | .schema _ => true
  | _ => false

/-- The errors with which bytes are refused.  A number that is out of a range comes with the
bound that it exceeds, but for a varint that does not fit into a word. -/
inductive Refusal : Error → Prop
  | encoding (fault : EncodingFault) : Refusal (.encoding fault)
  | above {value maximum : Nat} (out : maximum < value) :
      Refusal (.schema (.smallerInteger value maximum))
  | below {value minimum : Int} (out : value < minimum) :
      Refusal (.schema (.largerInteger value minimum))
  | pastWord : Refusal (Varint.overflow 64)
  | size (expected actual : Nat) : Refusal (.schema (.fixedBinary expected actual))
  | wire (expected : Expectation) (found : Nat) :
      Refusal (.schema (.unexpectedWireType expected found))
  | deep : Refusal tooDeep
  | missing (name : String) : Refusal (.schema (.missingField name))

theorem Refusal.isRefusal {error : Error} (refusal : Refusal error) : error.isRefusal = true := by
  cases refusal <;> rfl

/-- A varint that is too wide is reported with the first number behind its limit, as long as
there is one in a word. -/
theorem Varint.overflow_of_lt {bits : Nat} (narrow : bits < 64) :
    overflow bits = .schema (.smallerInteger (2 ^ bits) (2 ^ bits - 1)) := by
  have bound : 2 ^ bits ≤ 2 ^ 63 := Nat.pow_le_pow_right (by decide) (by omega)
  rw [overflow, Nat.min_eq_left (by omega)]

theorem Refusal.overflow {bits : Nat} (word : bits ≤ 64) : Refusal (Varint.overflow bits) := by
  rcases Nat.lt_or_eq_of_le word with narrow | rfl
  · rw [Varint.overflow_of_lt narrow]
    exact .above (Nat.sub_lt (Nat.two_pow_pos bits) Nat.one_pos)
  · exact .pastWord

/-- A result that is no other error than a refusal. -/
def Refuses {α : Type} (result : Except Error α) : Prop :=
  ∀ error, result = .error error → Refusal error

namespace Refuses

variable {α β : Type}

theorem ok (value : α) : Refuses (.ok value) := by
  intro error failed
  cases failed

theorem refusal {error : Error} (refusal : Refusal error) :
    Refuses (.error error : Except Error α) := by
  intro other failed
  cases failed
  exact refusal

theorem bind {step : Except Error α} {next : α → Except Error β} (first : Refuses step)
    (second : ∀ value, Refuses (next value)) : Refuses (step >>= next) := by
  cases step with
  | ok value => exact second value
  | error error => exact refusal (first error rfl)

end Refuses

/-- A varint of no more than a word is read or refused. -/
theorem Varint.refuses_decode {bits : Nat} (word : bits ≤ 64) (source : Bytes) :
    Refuses (decode bits source) := by
  have groups : ∀ shift value : Nat, Refuses (decodeFrom bits shift value source) := by
    induction source with
    | nil => exact fun _ _ => .refusal (.encoding _)
    | cons byte rest hypothesis =>
        intro shift value
        simp only [decodeFrom]
        repeat' split
        · exact .refusal (.encoding _)
        · exact .refusal (.overflow word)
        · exact .refusal (.encoding _)
        · exact .ok _
        · exact hypothesis _ _
  exact groups 0 0

/-! ## Scans -/

namespace Scan

variable {α β : Type}

/-- A scan that fails with nothing but refusals. -/
def Refuses (scan : Scan α) : Prop :=
  ∀ (source rest : Bytes) (error : Error), scan source = .error error rest → Refusal error

theorem refuses_pure (value : α) : Refuses (pure value : Scan α) := by
  intro source rest error run
  cases run

theorem refuses_throw {error : Error} (refusal : Refusal error) :
    Refuses (throw error : Scan α) := by
  intro source rest other run
  cases run
  exact refusal

theorem Refuses.bind {scan : Scan α} {next : α → Scan β} (first : scan.Refuses)
    (second : ∀ value, (next value).Refuses) : Refuses (scan >>= next) := by
  intro source rest error run
  change EStateM.bind scan next source = _ at run
  unfold EStateM.bind at run
  split at run
  · next value middle ran => exact second value _ _ _ run
  · next ran =>
      cases run
      exact first _ _ _ ran

theorem Refuses.map {scan : Scan α} (function : α → β) (refuses : scan.Refuses) :
    Refuses (function <$> scan) := by
  intro source rest error run
  change EStateM.map function scan source = _ at run
  unfold EStateM.map at run
  split at run
  · cases run
  · next ran =>
      cases run
      exact refuses _ _ _ ran

theorem refuses_lift {result : Except Error α} (refuses : SecurityKey.Refuses result) :
    Refuses (lift result) := by
  cases result with
  | ok value => exact refuses_pure value
  | error error => exact refuses_throw (refuses error rfl)

theorem refuses_varint {bits : Nat} (word : bits ≤ 64) : Refuses (varint bits) := by
  intro source rest error run
  unfold varint at run
  split at run
  · cases run
  · next decoded =>
      cases run
      exact Varint.refuses_decode word source error decoded

theorem refuses_take (count : Nat) (short : EncodingFault) : Refuses (take count short) := by
  intro source rest error run
  unfold take at run
  split at run
  · cases run
  · cases run
    exact .encoding short

theorem refuses_delimited : Refuses delimited :=
  (refuses_varint (Nat.le_refl 64)).bind fun length => refuses_take length .shortBytes

theorem refuses_fixed (width : Nat) : Refuses (fixed width) :=
  (refuses_take width .shortFixed).map _

theorem refuses_tag : Refuses tag := by
  refine (refuses_varint (by decide : 32 ≤ 64)).bind fun tag => ?_
  refine (refuses_lift ?_).bind fun _ => refuses_pure _
  unfold WireType.ofCode
  split
  · exact .ok _
  · exact .ok _
  · exact .ok _
  · exact .ok _
  · exact .refusal (.encoding _)

theorem refuses_skip (wire : WireType) : Refuses (skip wire) := by
  cases wire
  · exact (refuses_varint (Nat.le_refl 64)).map _
  · exact (refuses_take 8 .shortFixed).map _
  · exact refuses_delimited.map _
  · exact (refuses_take 4 .shortFixed).map _

theorem refuses_unsigned (wire : WireType) : Refuses (unsigned wire) := by
  cases wire
  · exact (refuses_varint (Nat.le_refl 64)).map _
  · exact (refuses_fixed 8).map _
  · exact (refuses_varint (Nat.le_refl 64)).map _
  · exact (refuses_fixed 4).map _

theorem refuses_integer (wire : WireType) : Refuses (integer wire) := by
  cases wire
  · exact (refuses_varint (Nat.le_refl 64)).map _
  · exact (refuses_fixed 8).map _
  · exact (refuses_varint (Nat.le_refl 64)).map _
  · exact (refuses_fixed 4).map _

theorem refuses_boolean : Refuses boolean := by
  refine (refuses_varint (Nat.le_refl 64)).bind fun value => ?_
  split
  · exact refuses_pure _
  · exact refuses_pure _
  · rename_i notZero notOne
    exact refuses_throw (.above (Nat.lt_of_le_of_ne (Nat.pos_of_ne_zero notZero) (Ne.symm notOne)))

theorem refuses_text : Refuses text := by
  refine refuses_delimited.bind fun body => ?_
  split
  · exact refuses_pure _
  · exact refuses_throw (.encoding _)

theorem refuses_fixedBytes (size : Nat) : Refuses (fixedBytes size) := by
  refine refuses_delimited.bind fun body => ?_
  split
  · exact refuses_pure _
  · exact refuses_throw (.size _ _)

theorem refuses_require (expectation : Expectation) (wire : WireType) :
    Refuses (lift (expectation.require wire)) := by
  refine refuses_lift ?_
  unfold Expectation.require
  split
  · exact .ok _
  · exact .refusal (.wire _ _)

end Scan

/-! ## Values -/

theorem refuses_narrowUnsigned (value : UInt64) : Refuses (narrowUnsigned value) := by
  unfold narrowUnsigned
  split
  · exact .ok _
  · exact .refusal (.above (by omega))

theorem refuses_narrowSigned (value : Int64) : Refuses (narrowSigned value) := by
  unfold narrowSigned
  split
  · rename_i less
    exact .refusal (.below less)
  · split
    · exact .refusal (.above (by omega))
    · exact .ok _

theorem refuses_openBody {Decoder : Type} (nested : Option Decoder) (wire : WireType) :
    (openBody nested wire).Refuses := by
  unfold openBody
  cases nested with
  | none => exact Scan.refuses_throw .deep
  | some decode =>
      exact (Scan.refuses_require .object wire).bind fun _ =>
        Scan.refuses_delimited.bind fun _ => Scan.refuses_pure _

/-- What is read of a packed run is refused with one of its items. -/
theorem refuses_decodeRun {α : Type} {item : Scan α} (refuses : item.Refuses) (body : Bytes) :
    Refuses (decodeRun item body) := by
  fun_induction decodeRun item body with
  | case1 => exact .ok _
  | case2 body _ error rest ran => exact .refusal (refuses _ _ _ ran)
  | case3 body _ value rest _ _ hypothesis => exact hypothesis.bind fun _ => .ok _
  | case4 => exact .ok _

/-- A decoder of nested bodies that fails with nothing but refusals, if there is one. -/
def RefusesInside (nested : Option NestedDecoder) : Prop :=
  ∀ decode ∈ nested, ∀ schema record body, Refuses (decode schema record body)

theorem refusesInside_none : RefusesInside none := fun _ member => by cases member

theorem refuses_decodeNested {nested : Option NestedDecoder} (inside : RefusesInside nested)
    (wire : WireType) (schema : Schema) (record : schema.Record) :
    (decodeNested nested wire schema record).Refuses := by
  unfold decodeNested openBody
  cases nested with
  | none => exact Scan.refuses_throw .deep
  | some decode =>
      simp only [bind_assoc, pure_bind]
      exact (Scan.refuses_require .object wire).bind fun _ =>
        Scan.refuses_delimited.bind fun body =>
          Scan.refuses_lift (inside decode rfl schema record body)

/-- One occurrence of a value is read or refused. -/
theorem Shape.refuses_decode {nested : Option NestedDecoder} (inside : RefusesInside nested)
    (wire : WireType) :
    (shape : Shape) → (value : shape.Value) → (shape.decode nested wire value).Refuses
  | .u32, _ =>
      (Scan.refuses_require _ wire).bind fun _ =>
        (Scan.refuses_unsigned wire).bind fun value =>
          Scan.refuses_lift (refuses_narrowUnsigned value)
  | .u64, _ => (Scan.refuses_require _ wire).bind fun _ => Scan.refuses_unsigned wire
  | .i32, _ =>
      (Scan.refuses_require _ wire).bind fun _ =>
        (Scan.refuses_integer wire).bind fun value =>
          Scan.refuses_lift (refuses_narrowSigned value)
  | .i64, _ => (Scan.refuses_require _ wire).bind fun _ => Scan.refuses_integer wire
  | .boolean, _ => (Scan.refuses_require _ wire).bind fun _ => Scan.refuses_boolean
  | .text, _ => (Scan.refuses_require _ wire).bind fun _ => Scan.refuses_text
  | .blob, _ => (Scan.refuses_require _ wire).bind fun _ => Scan.refuses_delimited
  | .fixed size, _ => (Scan.refuses_require _ wire).bind fun _ => Scan.refuses_fixedBytes size
  | .enumeration _, _ =>
      (Scan.refuses_require _ wire).bind fun _ =>
        ((Scan.refuses_varint (Nat.le_refl 64)).map _).map _
  | .optional item, _ => (item.refuses_decode inside wire item.blank).map _
  | .repeated item, items => by
      -- An item of a packed run is read as a varint and holds no container.
      have single := item.refuses_decode refusesInside_none .varint item.blank
      unfold Shape.decode
      split
      · exact (refuses_openBody nested wire).bind fun opened =>
          (Scan.refuses_lift (refuses_decodeRun single opened.2)).bind fun _ =>
            Scan.refuses_pure _
      · exact (item.refuses_decode inside wire item.blank).bind fun _ => Scan.refuses_pure _
  | .boxed item, value => item.refuses_decode inside wire value
  | .object schema, record => refuses_decodeNested inside wire schema record
  | .nest, value => (refuses_decodeNested inside wire Nest.schema value.toRecord).map _

/-! ## Objects -/

namespace Schema

variable {nested : Option NestedDecoder} (inside : RefusesInside nested)
include inside

theorem refuses_decodeField? (wire : WireType) (id : UInt32) :
    (schema : Schema) → (draft : schema.Draft) → (scan : Scan schema.Draft) →
      schema.decodeField? nested wire id draft = some scan → scan.Refuses
  | .nil, _, _, found => by cases found
  | .field number _ _ shape others, ((value, seen), draft), scan, found => by
      simp only [decodeField?] at found
      split at found
      · cases found
        exact (shape.refuses_decode inside wire value).map _
      · obtain ⟨scan, inner, rfl⟩ := Option.map_eq_some_iff.mp found
        exact (refuses_decodeField? wire id others draft scan inner).map _

theorem refuses_decodeOccurrence (schema : Schema) (draft : schema.Draft) (id : UInt32)
    (wire : WireType) : (schema.decodeOccurrence nested draft id wire).Refuses := by
  unfold decodeOccurrence
  split
  · next scan found => exact refuses_decodeField? inside wire id schema draft scan found
  · exact (Scan.refuses_skip wire).map _

theorem refuses_decodeFields (schema : Schema) (draft : schema.Draft) (body : Bytes) :
    Refuses (schema.decodeFields nested draft body) := by
  fun_induction decodeFields nested schema draft body with
  | case1 => exact .ok _
  | case2 draft body _ error rest tagged => exact .refusal (Scan.refuses_tag _ _ _ tagged)
  | case3 draft body _ id wire rest _ error left occurred =>
      exact .refusal (refuses_decodeOccurrence inside _ _ _ _ _ _ _ occurred)
  | case4 draft body _ id wire rest _ next left _ hypothesis => exact hypothesis

omit inside in
/-- A required field that has not occurred is refused. -/
theorem refuses_finish : (schema : Schema) → (draft : schema.Draft) → Refuses (schema.finish draft)
  | .nil, _ => .ok _
  | .field _ name required _ others, ((value, seen), draft) => by
      rw [finish]
      split
      · exact .refusal (.missing name)
      · exact (refuses_finish others draft).bind fun _ => .ok _

theorem refuses_decodeBody (schema : Schema) (record : schema.Record) (body : Bytes) :
    Refuses (schema.decodeBody nested record body) :=
  (refuses_decodeFields inside schema _ body).bind fun draft => refuses_finish schema draft

omit inside in
theorem refuses_decodeAt (room : Nat) (schema : Schema) (record : schema.Record) (body : Bytes) :
    Refuses (decodeAt room schema record body) := by
  have refuses := decodeAt_induction
    (fun decode => ∀ schema record body, Refuses (decode schema record body))
    (fun _ inside => refuses_decodeBody inside) room
  exact refuses schema record body

omit inside in
/-- Bytes that cannot be read are badly encoded or do not fit the schema. -/
theorem error_of_decode {schema : Schema} {input : Bytes} {error : Error}
    (unreadable : schema.decode input = .error error) : error.isRefusal = true :=
  (refuses_decodeAt _ schema _ input error unreadable).isRefusal

end Schema
end SecurityKey
