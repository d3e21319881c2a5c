import SecurityKey.Proofs.Wire.Containers
import SecurityKey.Proofs.Wire.Fields
import SecurityKey.Proofs.Wire.Spelled

/-!
# Finding what was written

A writer is told a value under a key, and a reader is asked for that key: the values are those
of `FieldValue`, an object among them with fields of its own.  `FieldValue.writing` are the steps
that write a value, and `FieldValue.reading` the steps that read it, each with the answer that is
expected.

The tag of a field is a number of at most 32 bits for the reader, three of which are the wire
type.  So a key below `2 ^ 29` is found, and what is read behind it is what was written
(`FieldValue.answers`); a reader that does not know the key passes over the field.  A writer takes
any key, and one that leaves no room for the wire type is refused by the reader.  The main
statement is `Reader.finds_written`.
-/

set_option autoImplicit false

namespace SecurityKey

/-! ## Values under keys -/

mutual
/-- A value that can be written under a key. -/
inductive FieldValue where
  | unsigned (value : UInt64)
  | boolean (value : Bool)
  | text (value : String)
  | blob (value : Bytes)
  | ordinal (value : UInt64)
  | object (fields : FieldList)

/-- The fields of an object, in order. -/
inductive FieldList where
  | nil
  | field (id : UInt32) (value : FieldValue) (others : FieldList)
end

mutual
/-- The tree in which a value stands under a key, before other fields. -/
def FieldValue.plant (id : UInt32) (others : Tree) : FieldValue → Tree
  | .unsigned value | .ordinal value => .leaf id (.number value.toNat) others
  | .boolean value => .leaf id (.number value.toNat) others
  | .text value => .leaf id (.body (Bytes.ofText value)) others
  | .blob value => .leaf id (.body value) others
  | .object fields => .object id fields.tree others

/-- The tree of the fields of an object. -/
def FieldList.tree : FieldList → Tree
  | .nil => .nil
  | .field id value others => value.plant id others.tree
end

namespace FieldValue

/-- The wire type of a value. -/
def wire : FieldValue → WireType
  | .unsigned _ | .boolean _ | .ordinal _ => .varint
  | .text _ | .blob _ | .object _ => .lengthDelimited

/-- The body of a value that lies behind its length. -/
def delimited (body : Bytes) : Bytes := Varint.encode body.length ++ body

/-- What lies on the wire behind the tag of a value. -/
def payload : FieldValue → Bytes
  | .unsigned value | .ordinal value => Varint.encode value.toNat
  | .boolean value => Varint.encode value.toNat
  | .text value => delimited (Bytes.ofText value)
  | .blob value => delimited value
  | .object fields => delimited fields.tree.encode

/-- How many objects are inside one another at most, the value itself counted. -/
def height : FieldValue → Nat
  | .object fields => fields.tree.height + 1
  | _ => 0

theorem encode_plant (id : UInt32) (others : Tree) (value : FieldValue) :
    (value.plant id others).encode =
      Varint.encode (value.wire.tag id) ++ (value.payload ++ others.encode) := by
  cases value with
  | unsigned | boolean | ordinal =>
      simp [plant, wire, payload, Tree.encode, Leaf.field, Bytes.ofVarintField]
  | text | blob | object =>
      simp [plant, wire, payload, delimited, Tree.encode, Leaf.field, Bytes.ofDelimitedField]

theorem height_plant (id : UInt32) (others : Tree) (value : FieldValue) :
    (value.plant id others).height = max value.height others.height := by
  cases value <;> simp [plant, height, Tree.height]

end FieldValue

/-! ## Steps that write -/

mutual
/-- The steps that write a value under the key that is pending. -/
def FieldValue.writing : FieldValue → List Writer.Operation
  | .unsigned value => [.unsigned value]
  | .boolean value => [.boolean value]
  | .text value => [.text value]
  | .blob value => [.blob value]
  | .ordinal value => [.ordinal value]
  | .object fields => .startObject :: (fields.writing ++ [.endObject])

/-- The steps that write some fields. -/
def FieldList.writing : FieldList → List Writer.Operation
  | .nil => []
  | .field id value others => .key id :: (value.writing ++ others.writing)
end

mutual
theorem FieldValue.spells {id : UInt32} {rest : List Writer.Operation} {others : Tree}
    {last : Option UInt32} (behind : Writer.Spells (some id) rest others last) :
    (value : FieldValue) →
      Writer.Spells (some id) (value.writing ++ rest) (value.plant id others) last
  | .unsigned _ | .boolean _ | .text _ | .blob _ | .ordinal _ => .leaf rfl behind
  | .object fields => by
      obtain ⟨closing, inside⟩ := fields.spells none
      have closed := Writer.Spells.object inside behind
      rwa [FieldValue.writing, List.cons_append, List.append_assoc]

theorem FieldList.spells : (fields : FieldList) → (pending : Option UInt32) →
    ∃ last, Writer.Spells pending fields.writing fields.tree last
  | .nil, pending => ⟨pending, .nil pending⟩
  | .field id value others, pending => by
      obtain ⟨last, behind⟩ := others.spells (some id)
      exact ⟨last, .key (value.spells behind)⟩
end

/-! ## Steps that read -/

namespace Reader

/-- A step of a reader and the answer that it is expected to give. -/
structure Exchange where
  operation : Operation
  answer : operation.Answer

/-- Some steps that all give the answers that are expected, from one reader to another. -/
inductive Answers : List Exchange → Reader → Reader → Prop where
  | nil (reader : Reader) : Answers [] reader reader
  | cons {exchange : Exchange} {rest : List Exchange} {reader between after : Reader}
      (ran : exchange.operation.run reader = .ok exchange.answer between)
      (others : Answers rest between after) : Answers (exchange :: rest) reader after

theorem Answers.append {first second : List Exchange} {reader between after : Reader}
    (answers : Answers first reader between) (others : Answers second between after) :
    Answers (first ++ second) reader after := by
  induction answers with
  | nil => exact others
  | cons ran _ hypothesis => exact .cons ran (hypothesis others)

end Reader

mutual
/-- The steps that read a value behind its key. -/
def FieldValue.reading : FieldValue → List Reader.Exchange
  | .unsigned value => [⟨.unsigned, value⟩]
  | .boolean value => [⟨.boolean, value⟩]
  | .text value => [⟨.text, value⟩]
  | .blob value => [⟨.blob, value⟩]
  | .ordinal value => [⟨.ordinal, value⟩]
  | .object fields =>
      ⟨.startObject, ()⟩ :: (fields.reading ++ [⟨.key [], none⟩, ⟨.endObject, ()⟩])

/-- The steps that read some fields, each of them asked for by its own key. -/
def FieldList.reading : FieldList → List Reader.Exchange
  | .nil => []
  | .field id value others => ⟨.key [id], some 0⟩ :: (value.reading ++ others.reading)
end

mutual
/-- The keys inside a value leave room for a wire type. -/
def FieldValue.Narrow : FieldValue → Prop
  | .object fields => fields.Narrow
  | _ => True

/-- The keys of some fields, and those inside their values, leave room for a wire type. -/
def FieldList.Narrow : FieldList → Prop
  | .nil => True
  | .field id value others => id.toNat < 2 ^ 29 ∧ value.Narrow ∧ others.Narrow
end

/-! ## Keys -/

theorem FieldValue.length_body_lt {body : Bytes}
    (fits : (FieldValue.delimited body).length < 2 ^ 64) : body.length < 2 ^ 64 := by
  rw [FieldValue.delimited, List.length_append] at fits
  omega

theorem FieldValue.carries (value : FieldValue) (fits : value.payload.length < 2 ^ 64) :
    value.wire.Carries value.payload := by
  cases value with
  | unsigned value | ordinal value => exact WireType.carries_varint value.toNat_lt
  | boolean value => exact WireType.carries_varint (by cases value <;> decide)
  | text | blob | object => exact WireType.carries_delimited (FieldValue.length_body_lt fits)

namespace Reader

variable {known : List UInt32} {pending : Option WireType} {id : UInt32} {wire : WireType}

theorem seek_nil : seek known pending [] = (.ok none, none, []) := by
  rw [seek]
  rfl

/-- Behind a tag its field is found, or passed over when it is not known. -/
theorem seek_tagged {body rest : Bytes} (tagged : Scan.tag body = .ok (id, wire) rest) :
    seek known pending body =
      match known.idxOf? id with
      | some position => (.ok (some position), some wire, rest)
      | none =>
          match Scan.skip wire rest with
          | .error error left => (.error error, some wire, left)
          | .ok () left => seek known (some wire) left := by
  rw [seek, Scan.isEmpty_of_tag tagged, if_neg Bool.false_ne_true]
  split
  · rename_i refused
    rw [tagged] at refused
    cases refused
  · rename_i number found left ran
    rw [tagged] at ran
    cases ran
    cases known.idxOf? id with
    | some position => rfl
    | none =>
        dsimp only
        split
        · rename_i failed
          simp only [failed]
        · rename_i passed
          simp only [passed]

/-- A tag that is refused ends the search. -/
theorem seek_untagged {body left : Bytes} {error : Error} (filled : body.isEmpty = false)
    (refused : Scan.tag body = .error error left) :
    seek known pending body = (.error error, pending, left) := by
  rw [seek, filled, if_neg Bool.false_ne_true]
  split
  · rename_i failed
    rw [refused] at failed
    cases failed
    rfl
  · rename_i tagged
    rw [refused] at tagged
    cases tagged

/-- A field that is known is found, and what lies behind its tag is left. -/
theorem seek_known {position : Nat} (small : id.toNat < 2 ^ 29)
    (found : known.idxOf? id = some position) (rest : Bytes) :
    seek known pending (Varint.encode (wire.tag id) ++ rest) =
      (.ok (some position), some wire, rest) := by
  rw [seek_tagged (Scan.reads_tag small wire rest), found]

/-- A field that is not known is passed over. -/
theorem seek_unknown {payload : Bytes} (small : id.toNat < 2 ^ 29) (unknown : id ∉ known)
    (carried : wire.Carries payload) (rest : Bytes) :
    seek known pending (Varint.encode (wire.tag id) ++ (payload ++ rest)) =
      seek known (some wire) rest := by
  have absent : known.idxOf? id = none := List.idxOf?_eq_none_iff.mpr unknown
  have skipped : Scan.skip wire (payload ++ rest) = .ok () rest := Scan.reads_skip carried rest
  rw [seek_tagged (Scan.reads_tag small wire (payload ++ rest)), absent]
  simp only [skipped]

/-- A tag without room for the wire type is refused, whatever keys are known. -/
theorem seek_large (large : 2 ^ 29 ≤ id.toNat) (rest : Bytes) :
    seek known pending (Varint.encode (wire.tag id) ++ rest) =
      (.error (Varint.overflow 32), pending, Varint.encode (wire.tag id) ++ rest) :=
  seek_untagged (Varint.isEmpty_encode_append _ _) (Scan.tag_of_large large wire rest)

section Views

variable {input : Bytes} {outer : List Bytes}

theorem key_known (small : id.toNat < 2 ^ 29) (rest : Bytes) :
    key [id] ⟨input, (Varint.encode (wire.tag id) ++ rest) :: outer, pending⟩ =
      .ok (some 0) ⟨input, rest :: outer, some wire⟩ := by
  have found : [id].idxOf? id = some 0 := by simp [List.idxOf?]
  simp only [key, seek_known small found]

theorem key_nil :
    key known ⟨input, [] :: outer, pending⟩ = .ok none ⟨input, [] :: outer, none⟩ := by
  simp only [key, seek_nil]

/-- A value is read where its payload lies. -/
theorem value_of_reads {α : Type} (expectation : Expectation) (wire : WireType)
    (scan : WireType → Scan α) {payload : Bytes} {result : α}
    (admitted : expectation.require wire = .ok ())
    (reads : (scan wire).Reads payload (.ok result)) (rest : Bytes) :
    value expectation scan ⟨input, (payload ++ rest) :: outer, some wire⟩ =
      .ok result ⟨input, rest :: outer, some wire⟩ := by
  have run : scan wire (payload ++ rest) = .ok result rest := reads rest
  simp only [value, admitted, onView, run]

/-- An object inside is opened on its body. -/
theorem startObject_of_delimited {body : Bytes} (room : outer.length + 1 < maximumDepth)
    (fits : body.length < 2 ^ 64) (rest : Bytes) :
    startObject ⟨input, (FieldValue.delimited body ++ rest) :: outer, some .lengthDelimited⟩ =
      .ok () ⟨input, body :: rest :: outer, none⟩ := by
  have opened : openContainer
      ⟨input, (FieldValue.delimited body ++ rest) :: outer, some .lengthDelimited⟩ =
        .ok () ⟨input, body :: rest :: outer, some .lengthDelimited⟩ := by
    have shallow : ¬(Reader.mk input ((FieldValue.delimited body ++ rest) :: outer)
        (some .lengthDelimited)).depth = maximumDepth := Nat.ne_of_lt room
    have read : value .object (fun _ => Scan.delimited)
        ⟨input, (FieldValue.delimited body ++ rest) :: outer, some .lengthDelimited⟩ = _ :=
      value_of_reads .object .lengthDelimited (fun _ => Scan.delimited) rfl
        (Scan.reads_delimited fits) rest
    rw [openContainer, if_neg shallow]
    simp only [read]
  exact (startWith_eq none _).trans (by rw [opened])

theorem startObject_root (bytes : Bytes) :
    startObject (ofBytes bytes) = .ok () ⟨[], [bytes], none⟩ := rfl

theorem endObject_nil :
    endObject ⟨input, [] :: outer, pending⟩ = .ok () ⟨input, outer, pending⟩ := rfl

end Views
end Reader

/-! ## Values that are read back -/

section Answers

open Reader

/-- A value is read by one step, which takes its payload. -/
theorem answers_value {exchange : Exchange} {wire : WireType} {payload rest : Bytes}
    {input : Bytes} {outer : List Bytes}
    (ran : exchange.operation.run ⟨input, (payload ++ rest) :: outer, some wire⟩ =
      .ok exchange.answer ⟨input, rest :: outer, some wire⟩) :
    ∃ last, Answers [exchange] ⟨input, (payload ++ rest) :: outer, some wire⟩
      ⟨input, rest :: outer, last⟩ :=
  ⟨some wire, .cons ran (.nil _)⟩

mutual
/-- A value is read back where its payload lies, when there is room for its objects. -/
theorem FieldValue.answers (input : Bytes) (outer : List Bytes) (rest : Bytes) :
    (value : FieldValue) → value.payload.length < 2 ^ 64 → value.Narrow →
      value.height + (outer.length + 1) ≤ maximumDepth →
        ∃ last, Answers value.reading ⟨input, (value.payload ++ rest) :: outer, some value.wire⟩
          ⟨input, rest :: outer, last⟩
  | .unsigned value, _, _, _ =>
      answers_value (value_of_reads .unsignedInteger .varint Scan.unsigned rfl
        (Scan.reads_unsigned value) rest)
  | .boolean value, _, _, _ =>
      answers_value (value_of_reads .boolean .varint (fun _ => Scan.boolean) rfl
        (Scan.reads_boolean value) rest)
  | .text value, fits, _, _ =>
      answers_value (value_of_reads .string .lengthDelimited (fun _ => Scan.text) rfl
        (Scan.reads_text (FieldValue.length_body_lt fits)) rest)
  | .blob value, fits, _, _ =>
      answers_value (value_of_reads .binary .lengthDelimited (fun _ => Scan.delimited) rfl
        (Scan.reads_delimited (FieldValue.length_body_lt fits)) rest)
  | .ordinal value, _, _, _ =>
      answers_value (value_of_reads .enumeration .varint (fun _ => Scan.ordinal) rfl
        (Scan.reads_ordinal value) rest)
  | .object fields, fits, narrow, room => by
      have short := FieldValue.length_body_lt fits
      rw [FieldValue.height] at room
      have opened : startObject ⟨input, (FieldValue.delimited fields.tree.encode ++ rest) :: outer,
          some .lengthDelimited⟩ = .ok () ⟨input, fields.tree.encode :: rest :: outer, none⟩ :=
        startObject_of_delimited (by omega) short rest
      obtain ⟨last, inside⟩ := fields.answers input (rest :: outer) [] none short narrow
        (by rw [List.length_cons]; omega)
      rw [List.append_nil] at inside
      have closed : Answers [⟨.key [], none⟩, ⟨.endObject, ()⟩] ⟨input, [] :: rest :: outer, last⟩
          ⟨input, rest :: outer, none⟩ := .cons key_nil (.cons endObject_nil (.nil _))
      exact ⟨none, .cons opened (inside.append closed)⟩

/-- Fields whose keys leave room for a wire type are found and read back one by one. -/
theorem FieldList.answers (input : Bytes) (outer : List Bytes) (rest : Bytes)
    (pending : Option WireType) :
    (fields : FieldList) → fields.tree.encode.length < 2 ^ 64 → fields.Narrow →
      fields.tree.height + (outer.length + 1) ≤ maximumDepth →
        ∃ last, Answers fields.reading ⟨input, (fields.tree.encode ++ rest) :: outer, pending⟩
          ⟨input, rest :: outer, last⟩
  | .nil, _, _, _ => ⟨pending, .nil _⟩
  | .field id value others, fits, ⟨small, narrow, narrowOthers⟩, room => by
      have bytes := value.encode_plant id others.tree
      have height := value.height_plant id others.tree
      rw [FieldList.tree] at fits room ⊢
      rw [bytes, List.length_append, List.length_append] at fits
      rw [height] at room
      rw [bytes, List.append_assoc, List.append_assoc]
      obtain ⟨middle, first⟩ := value.answers input outer (others.tree.encode ++ rest)
        (by omega) narrow (by omega)
      obtain ⟨last, behind⟩ := others.answers input outer rest middle (by omega) narrowOthers
        (by omega)
      exact ⟨last, .cons (key_known small _) (first.append behind)⟩
end

end Answers

namespace Reader

/-- **A key is found when it leaves room for the wire type.**  A writer takes every key, with
every value under it that is not too high.  A reader of what it gives is asked for the key, finds
it, and reads the value that was written; a reader that does not know the key passes over the
field; an object is opened on its fields.  All this holds for keys below `2 ^ 29`.  The tag of a
larger key is refused, whatever keys the reader knows. -/
theorem finds_written (id : UInt32) (value : FieldValue) (shallow : value.height < maximumDepth)
    (fits : value.payload.length < 2 ^ 64) :
    ∃ bytes : Bytes,
      outcomes ((.startObject :: .key id ::
          (value.writing ++ [.endObject, .takeBytes])).map Writer.Operation.run) Writer.empty =
        .ok none :: .ok none ::
          (value.writing.map (fun _ => .ok none) ++ [.ok none, .ok (some bytes)]) ∧
      (id.toNat < 2 ^ 29 →
        (value.Narrow → Answers (⟨.startObject, ()⟩ :: ⟨.key [id], some 0⟩ ::
            (value.reading ++ [⟨.key [id], none⟩, ⟨.endObject, ()⟩, ⟨.checkComplete, ()⟩]))
          (ofBytes bytes) (ofBytes [])) ∧
        (∀ known : List UInt32, id ∉ known →
          Answers [⟨.startObject, ()⟩, ⟨.key known, none⟩, ⟨.endObject, ()⟩, ⟨.checkComplete, ()⟩]
            (ofBytes bytes) (ofBytes [])) ∧
        ∀ fields : FieldList, value = .object fields → ∃ after,
          Answers [⟨.startObject, ()⟩, ⟨.key [id], some 0⟩, ⟨.startObject, ()⟩] (ofBytes bytes)
            after ∧ after.views = [fields.tree.encode, []]) ∧
      (2 ^ 29 ≤ id.toNat → ∃ opened, startObject (ofBytes bytes) = .ok () opened ∧
        ∀ known : List UInt32, key known opened = .error (Varint.overflow 32) opened) := by
  have bytes : (value.plant id .nil).encode =
      Varint.encode (value.wire.tag id) ++ (value.payload ++ []) := value.encode_plant id .nil
  refine ⟨(value.plant id .nil).encode, ?_, ?_, ?_⟩
  · have spelled : Writer.Spells none (.key id :: (value.writing ++ [])) (value.plant id .nil)
        (some id) := .key (value.spells (.nil (some id)))
    have height := value.height_plant id .nil
    rw [List.append_nil] at spelled
    refine Writer.outcomes_of_spells spelled ?_
    rw [height]
    exact Nat.max_lt.mpr ⟨shallow, maximumDepth_pos⟩
  · intro small
    rw [bytes]
    have opened := startObject_root (Varint.encode (value.wire.tag id) ++ (value.payload ++ []))
    have found : key [id] ⟨[], [Varint.encode (value.wire.tag id) ++ (value.payload ++ [])], none⟩ =
        .ok (some 0) ⟨[], [value.payload ++ []], some value.wire⟩ := key_known small _
    refine ⟨fun narrow => ?_, fun known unknown => ?_, ?_⟩
    · obtain ⟨last, read⟩ := value.answers [] [] [] fits narrow shallow
      have closed : Answers [⟨.key [id], none⟩, ⟨.endObject, ()⟩, ⟨.checkComplete, ()⟩]
          ⟨[], [[]], last⟩ (ofBytes []) :=
        .cons key_nil (.cons endObject_nil (.cons rfl (.nil _)))
      exact .cons opened (.cons found (read.append closed))
    · have passed : key known
          ⟨[], [Varint.encode (value.wire.tag id) ++ (value.payload ++ [])], none⟩ =
            .ok none ⟨[], [[]], none⟩ := by
        simp only [key, seek_unknown small unknown (value.carries fits), seek_nil]
      exact .cons opened (.cons passed (.cons endObject_nil (.cons rfl (.nil _))))
    · rintro fields rfl
      have inside : startObject ⟨[], [(FieldValue.object fields).payload ++ []],
          some .lengthDelimited⟩ = .ok () ⟨[], [fields.tree.encode, []], none⟩ :=
        startObject_of_delimited (by decide) (FieldValue.length_body_lt fits) []
      exact ⟨_, .cons opened (.cons found (.cons inside (.nil _))), rfl⟩
  · intro large
    refine ⟨_, startObject_root _, fun known => ?_⟩
    simp only [key, bytes, seek_large large]

/-- A text in an object in an object. -/
def someValue : FieldValue := .object (.field 1 (.text "a") .nil)

/-- It is written under a key and found again. -/
theorem finds_written_of_text :
    outcomes ((.startObject :: .key 7 ::
        (someValue.writing ++ [.endObject, .takeBytes])).map Writer.Operation.run) Writer.empty =
      .ok none :: .ok none ::
        (someValue.writing.map (fun _ => .ok none) ++ [.ok none, .ok (some [58, 3, 10, 1, 97])]) ∧
      Answers [⟨.startObject, ()⟩, ⟨.key [7], some 0⟩, ⟨.startObject, ()⟩, ⟨.key [1], some 0⟩,
          ⟨.text, "a"⟩, ⟨.key [], none⟩, ⟨.endObject, ()⟩, ⟨.key [7], none⟩, ⟨.endObject, ()⟩,
          ⟨.checkComplete, ()⟩]
        (ofBytes [58, 3, 10, 1, 97]) (ofBytes []) := by
  obtain ⟨bytes, written, found, _⟩ := finds_written 7 someValue (by decide) (by decide +kernel)
  have output : outcomes ((.startObject :: .key 7 ::
        (someValue.writing ++ [.endObject, .takeBytes])).map Writer.Operation.run) Writer.empty =
      .ok none :: .ok none ::
        (someValue.writing.map (fun _ => .ok none) ++
          [.ok none, .ok (some [58, 3, 10, 1, 97])]) := by
    decide +kernel
  have same : bytes = [58, 3, 10, 1, 97] := by simpa using written.symm.trans output
  subst same
  have narrow : someValue.Narrow := ⟨by decide, trivial, trivial⟩
  exact ⟨output, (found (by decide)).1 narrow⟩

/-- A number under a key that leaves no room for the wire type is written, and not found. -/
theorem large_key_is_not_found :
    outcomes ([.startObject, .key 536870912, .unsigned 1, .endObject, .takeBytes].map
        Writer.Operation.run) Writer.empty =
      [.ok none, .ok none, .ok none, .ok none, .ok (some [128, 128, 128, 128, 16, 1])] ∧
      outcome ((do Reader.startObject; Reader.key [536870912])
          (ofBytes [128, 128, 128, 128, 16, 1])) =
        .error (.schema (.smallerInteger 4294967296 4294967295)) := by
  constructor
  · decide +kernel
  · decide +kernel

end Reader
end SecurityKey
