import SecurityKey.Proofs.Schema.Places

/-!
# Packed runs

The elements of a list of numbers or truth values come one by one, each as a field of its own,
or several of them in a packed run.  A body is cut into parts, each of them an element, a run or
another field (`Part`), and the same body without runs has an element for every element of a run
(`Part.unpacked`).

A run is read as its elements are, one after the other and up to the first one that is out of
range (`decodeRun_packedRun`), and so the two bodies are read alike
(`decodeFields_unpacked`), as long as there is room for the container that a run is.  Where there
is none, a run is refused before anything of it is looked at, while an element is no container.

The main statement is `Schema.decode_unpacked`.
-/

set_option autoImplicit false

namespace SecurityKey

variable {nested : Option NestedDecoder}

/-! ## Elements -/

/-- The truth value that a number on the wire stands for, or its refusal. -/
def truthOf (number : UInt64) : Except Error Bool :=
  if number.toNat ≤ 1 then
    .ok (number.toNat == 1)
  else
    .error (.schema (.smallerInteger number.toNat 1))

/-- The element that a number on the wire stands for, or its refusal when it is out of range. -/
def Shape.ofNumber : (item : Shape) → UInt64 → Except Error item.Value
  | .u32, number => narrowUnsigned number
  | .u64, number => .ok number
  | .boolean, number => truthOf number
  | item, _ => .ok item.blank

/-- The body of a packed run. -/
def packedRun (numbers : List UInt64) : Bytes :=
  numbers.flatMap fun number => Varint.encode number.toNat

theorem Scan.reads_truth (number : UInt64) :
    Scan.boolean.Reads (Varint.encode number.toNat) (truthOf number) := by
  have read := Scan.reads_varint (by decide) number.toNat_lt
  rw [← List.append_nil (Varint.encode _), Scan.boolean, truthOf]
  refine read.bind ?_
  split
  · rename_i zero
    simpa [zero] using Scan.reads_pure false
  · rename_i one
    simpa [one] using Scan.reads_pure true
  · rename_i none zero one
    have large : ¬number.toNat ≤ 1 := by
      intro small
      rcases Nat.le_one_iff_eq_zero_or_eq_one.mp small with same | same
      · exact zero same
      · exact one same
    rw [if_neg large]
    exact Scan.reads_lift (.error _)

/-- One occurrence of an element is read as the number stands for it, with no look at what was
there. -/
theorem reads_element (nested : Option NestedDecoder) {item : Shape}
    (packable : item.packable = true) (number : UInt64) (storage : item.Value) :
    (item.decode nested .varint storage).Reads (Varint.encode number.toNat)
      (item.ofNumber number) := by
  cases item with
  | u32 =>
      rw [← List.append_nil (Varint.encode _)]
      exact Scan.Reads.after_lift
        ((Scan.reads_unsigned number).bind (Scan.reads_lift (narrowUnsigned number))) rfl
  | u64 => exact (Scan.reads_unsigned number).after_lift rfl
  | boolean => exact (Scan.reads_truth number).after_lift rfl
  | _ => cases packable

/-- A run is read element by element. -/
theorem decodeRun_packedRun {item : Shape} (packable : item.packable = true)
    (numbers : List UInt64) :
    decodeRun (item.decode none .varint item.blank) (packedRun numbers) =
      numbers.mapM item.ofNumber := by
  induction numbers with
  | nil =>
      rw [decodeRun]
      rfl
  | cons number others hypothesis =>
      have read := reads_element none packable number item.blank (packedRun others)
      have first : packedRun (number :: others) = Varint.encode number.toNat ++ packedRun others :=
        rfl
      have shorter : (packedRun others).length <
          (Varint.encode number.toNat ++ packedRun others).length := by
        have filled := Varint.isEmpty_encode_append number.toNat []
        rw [List.append_nil, List.isEmpty_eq_false_iff] at filled
        have positive := List.length_pos_iff.mpr filled
        rw [List.length_append]
        omega
      rw [decodeRun, first, Varint.isEmpty_encode_append, if_neg Bool.false_ne_true, read,
        List.mapM_cons]
      cases item.ofNumber number with
      | error error => rfl
      | ok value =>
          change (if _ then _ else _) = _
          rw [if_pos shorter, hypothesis]
          rfl

/-! ## Parts of a body -/

/-- A part of a body, as it is seen from a list in it: an element, a packed run of elements, or
another field. -/
inductive Part where
  | element (number : UInt64)
  | run (numbers : List UInt64)
  | other (field : WireField)

namespace Part

/-- The bytes of a part, when the list has the number `id`. -/
def bytes (id : UInt32) : Part → Bytes
  | .element number => Bytes.ofVarintField id number.toNat
  | .run numbers => Bytes.ofDelimitedField id (packedRun numbers)
  | .other field => field.bytes

/-- The elements that a part holds. -/
def elements : Part → List UInt64
  | .element number => [number]
  | .run numbers => numbers
  | .other _ => []

/-- A part with an occurrence of its own for every element. -/
def unpacked : Part → List Part
  | .run numbers => numbers.map .element
  | part => [part]

/-- A run holds an element, and its length can be written. -/
def Fits : Part → Prop
  | .run numbers => numbers ≠ [] ∧ (packedRun numbers).length < 2 ^ 64
  | _ => True

/-- A field that is no part of the list has another number. -/
def Apart (id : UInt32) : Part → Prop
  | .other field => field.id ≠ id
  | _ => True

/-- Some parts, one behind the other. -/
def join (id : UInt32) (parts : List Part) : Bytes := parts.flatMap (bytes id)

theorem join_cons (id : UInt32) (part : Part) (parts : List Part) :
    join id (part :: parts) = part.bytes id ++ join id parts := rfl

theorem join_append (id : UInt32) (parts others : List Part) :
    join id (parts ++ others) = join id parts ++ join id others := List.flatMap_append

theorem join_elements (id : UInt32) (numbers : List UInt64) :
    join id (numbers.map .element) =
      numbers.flatMap fun number => Bytes.ofVarintField id number.toNat := by
  rw [join, List.flatMap_map]
  rfl

end Part

namespace Schema

/-! ## Lists that grow -/

variable {schema : Schema} {id : UInt32} {item : Shape}

/-- The draft in which elements have been appended to a list. -/
def Place.push (place : Place schema id (.repeated item)) (values : List item.Value)
    (draft : schema.Draft) : schema.Draft :=
  place.set (List.append (place.get draft).1 values, true) draft

theorem Place.push_push (place : Place schema id (.repeated item))
    (values later : List item.Value) (draft : schema.Draft) :
    place.push later (place.push values draft) = place.push (values ++ later) draft := by
  rw [push, push, push, get_set, set_set]
  exact congrArg (fun known => place.set (known, true) draft) (List.append_assoc _ _ _)

/-- A field whose number leaves no room for the wire type is refused. -/
theorem decodeFields_of_large (large : 2 ^ 29 ≤ id.toNat) (wire : WireType)
    (draft : schema.Draft) (rest : Bytes) :
    schema.decodeFields nested draft (Varint.encode (wire.tag id) ++ rest) =
      .error (Varint.overflow 32) :=
  decodeFields_untagged draft (Varint.isEmpty_encode_append _ _) (Scan.tag_of_large large wire rest)

section Parts

variable (place : Place schema id (.repeated item)) (packable : item.packable = true)
include packable

theorem settles_element (nested : Option NestedDecoder) (draft : schema.Draft)
    (number : UInt64) :
    (schema.decodeOccurrence nested draft id .varint).Settles (Varint.encode number.toNat)
      ((fun value => place.push [value] draft) <$> item.ofNumber number) := by
  have single : (item.packable && WireType.varint == .lengthDelimited) = false :=
    Bool.and_eq_false_imp.mpr fun _ => rfl
  have read := (reads_element nested packable number item.blank).settles
  rw [decodeOccurrence_place .varint place, Shape.decode, single, if_neg Bool.false_ne_true]
  have appended := (read.bind_pure fun value => List.append (place.get draft).1 [value]).map
    fun items => place.set (items, true) draft
  rwa [Functor.map_map] at appended

theorem settles_run (decode : NestedDecoder) (draft : schema.Draft) {numbers : List UInt64}
    (fits : (packedRun numbers).length < 2 ^ 64) :
    (schema.decodeOccurrence (some decode) draft id .lengthDelimited).Settles
      (Varint.encode (packedRun numbers).length ++ packedRun numbers)
      ((fun values => place.push values draft) <$> numbers.mapM item.ofNumber) := by
  have several : (item.packable && WireType.lengthDelimited == .lengthDelimited) = true :=
    Bool.and_eq_true_iff.mpr ⟨packable, rfl⟩
  rw [decodeOccurrence_place .lengthDelimited place, Shape.decode, several, if_pos rfl]
  have read := Scan.reads_lift (numbers.mapM item.ofNumber)
  rw [← decodeRun_packedRun packable] at read
  have opened : (openBody (some decode) .lengthDelimited >>= fun opened =>
      Scan.lift (decodeRun (item.decode none .varint item.blank) opened.2) >>= fun run =>
        pure (List.append (place.get draft).1 run)).Reads
          (Varint.encode (packedRun numbers).length ++ packedRun numbers ++ []) _ :=
    (reads_openBody decode fits).bind (read.bind_pure _)
  rw [List.append_nil, decodeRun_packedRun packable] at opened
  have appended := opened.settles.map fun items => place.set (items, true) draft
  rwa [Functor.map_map] at appended

/-- One occurrence of an element is appended. -/
theorem decodeFields_element (small : id.toNat < 2 ^ 29) (draft : schema.Draft)
    (number : UInt64) (rest : Bytes) :
    schema.decodeFields nested draft (Bytes.ofVarintField id number.toNat ++ rest) =
      item.ofNumber number >>= fun value =>
        schema.decodeFields nested (place.push [value] draft) rest := by
  have settles := settles_element place packable nested draft number
  rw [Bytes.ofVarintField, decodeFields_occurrence small settles rest]
  cases item.ofNumber number with
  | error error => rfl
  | ok value => rfl

/-- The elements of a run are appended when all of them are in range. -/
theorem decodeFields_run (small : id.toNat < 2 ^ 29) (decode : NestedDecoder)
    (draft : schema.Draft) {numbers : List UInt64}
    (fits : (packedRun numbers).length < 2 ^ 64) (rest : Bytes) :
    schema.decodeFields (some decode) draft
        (Bytes.ofDelimitedField id (packedRun numbers) ++ rest) =
      numbers.mapM item.ofNumber >>= fun values =>
        schema.decodeFields (some decode) (place.push values draft) rest := by
  have settles := settles_run place packable decode draft fits
  rw [Bytes.ofDelimitedField, List.append_assoc (Varint.encode _),
    decodeFields_occurrence small settles rest]
  cases numbers.mapM item.ofNumber with
  | error error => rfl
  | ok values => rfl

/-- Some occurrences in a row append what a run of the same elements does. -/
theorem decodeFields_elements (small : id.toNat < 2 ^ 29) (draft : schema.Draft)
    (number : UInt64) (numbers : List UInt64) (rest : Bytes) :
    schema.decodeFields nested draft
        (((number :: numbers).flatMap fun number => Bytes.ofVarintField id number.toNat) ++ rest) =
      (number :: numbers).mapM item.ofNumber >>= fun values =>
        schema.decodeFields nested (place.push values draft) rest := by
  induction numbers generalizing number draft with
  | nil =>
      rw [List.flatMap_singleton, decodeFields_element place packable small, List.mapM_cons]
      cases item.ofNumber number with
      | error error => rfl
      | ok value => rfl
  | cons next numbers hypothesis =>
      rw [List.flatMap_cons, List.append_assoc, decodeFields_element place packable small,
        List.mapM_cons]
      cases item.ofNumber number with
      | error error => rfl
      | ok value =>
          change schema.decodeFields nested (place.push [value] draft) _ = _
          rw [hypothesis]
          cases (next :: numbers).mapM item.ofNumber with
          | error error => rfl
          | ok values => exact congrArg (schema.decodeFields nested · rest) (place.push_push _ _ _)

include place in
/-- A body is read alike with its runs and with an occurrence for every element. -/
theorem decodeFields_unpacked (decode : NestedDecoder) (draft : schema.Draft)
    {parts : List Part} (fit : ∀ part ∈ parts, part.Fits) (rest : Bytes) :
    schema.decodeFields (some decode) draft (Part.join id parts ++ rest) =
      schema.decodeFields (some decode) draft
        (Part.join id (parts.flatMap Part.unpacked) ++ rest) := by
  induction parts generalizing draft with
  | nil => rfl
  | cons part parts hypothesis =>
      obtain ⟨fits, others⟩ := List.forall_mem_cons.mp fit
      have behind := fun draft : schema.Draft => hypothesis draft others
      rw [List.flatMap_cons, Part.join_cons, Part.join_append, List.append_assoc,
        List.append_assoc]
      cases part with
      | other field =>
          have single : Part.join id (Part.other field).unpacked = field.bytes :=
            List.flatMap_singleton _ _
          rw [single, Part.bytes, decodeFields_field, decodeFields_field]
          simp only [behind]
      | element number =>
          have single : Part.join id (Part.element number).unpacked =
              (Part.element number).bytes id := List.flatMap_singleton _ _
          rw [single]
          by_cases small : id.toNat < 2 ^ 29
          · rw [Part.bytes, decodeFields_element place packable small,
              decodeFields_element place packable small]
            simp only [behind]
          · rw [Part.bytes, Bytes.ofVarintField, List.append_assoc, List.append_assoc,
              decodeFields_of_large (Nat.not_lt.mp small),
              decodeFields_of_large (Nat.not_lt.mp small)]
      | run numbers =>
          obtain ⟨some, fits⟩ := fits
          obtain ⟨number, others, rfl⟩ := List.exists_cons_of_ne_nil some
          rw [Part.unpacked, Part.join_elements]
          by_cases small : id.toNat < 2 ^ 29
          · rw [Part.bytes, decodeFields_run place packable small decode draft fits,
              decodeFields_elements place packable small]
            simp only [behind]
          · rw [Part.bytes, Bytes.ofDelimitedField, List.flatMap_cons, Bytes.ofVarintField]
            simp only [List.append_assoc]
            rw [decodeFields_of_large (Nat.not_lt.mp small),
              decodeFields_of_large (Nat.not_lt.mp small)]

include place in
/-- A run is refused where there is no room for a container. -/
theorem decodeFields_run_of_full (small : id.toNat < 2 ^ 29) (draft : schema.Draft)
    (body rest : Bytes) :
    schema.decodeFields none draft (Bytes.ofDelimitedField id body ++ rest) = .error tooDeep := by
  have refused : (schema.decodeOccurrence none draft id .lengthDelimited).Settles
      (Varint.encode body.length ++ body) (.error tooDeep) := by
    have container : (item.packable && WireType.lengthDelimited == .lengthDelimited) = true :=
      Bool.and_eq_true_iff.mpr ⟨packable, rfl⟩
    rw [decodeOccurrence_place .lengthDelimited place, Shape.decode, container, if_pos rfl]
    exact Scan.settles_throw tooDeep _
  rw [Bytes.ofDelimitedField, List.append_assoc (Varint.encode _),
    decodeFields_occurrence small refused rest]
  rfl

/-- What is appended to a list are the elements of all parts, in order. -/
theorem elements_of_decodeFields {parts : List Part} (fit : ∀ part ∈ parts, part.Fits)
    (apart : ∀ part ∈ parts, part.Apart id) (draft result : schema.Draft)
    (read : schema.decodeFields nested draft (Part.join id parts) = .ok result) :
    ∃ values, (parts.flatMap Part.elements).mapM item.ofNumber = .ok values ∧
      (place.get result).1 = List.append (place.get draft).1 values := by
  induction parts generalizing draft with
  | nil =>
      rw [Part.join, List.flatMap_nil, decodeFields_nil] at read
      cases read
      exact ⟨[], rfl, (List.append_nil _).symm⟩
  | cons part parts hypothesis =>
      obtain ⟨fits, others⟩ := List.forall_mem_cons.mp fit
      obtain ⟨other, further⟩ := List.forall_mem_cons.mp apart
      rw [Part.join_cons] at read
      rw [List.flatMap_cons, List.mapM_append]
      -- What a part appends comes before what the parts behind it append.
      have behind : ∀ values : List item.Value, part.elements.mapM item.ofNumber = .ok values →
          schema.decodeFields nested (place.push values draft) (Part.join id parts) = .ok result →
          ∃ all, (part.elements.mapM item.ofNumber >>= fun first =>
            (parts.flatMap Part.elements).mapM item.ofNumber >>= fun second =>
              pure (first ++ second)) = .ok all ∧
            (place.get result).1 = List.append (place.get draft).1 all := by
        intro values first read
        obtain ⟨later, second, appended⟩ := hypothesis others further _ read
        refine ⟨values ++ later, ?_, ?_⟩
        · rw [first, second]
          rfl
        · rw [appended, Place.push, Place.get_set]
          exact List.append_assoc _ _ _
      cases part with
      | other field =>
          rw [Part.bytes, decodeFields_field] at read
          obtain ⟨taken, first, read⟩ := bind_eq_ok.mp read
          obtain ⟨values, second, appended⟩ := hypothesis others further _ read
          rw [get_takeField_of_ne place other first] at appended
          refine ⟨values, ?_, appended⟩
          rw [second]
          rfl
      | element number =>
          by_cases small : id.toNat < 2 ^ 29
          · rw [Part.bytes, decodeFields_element place packable small] at read
            obtain ⟨value, first, read⟩ := bind_eq_ok.mp read
            refine behind [value] ?_ read
            rw [Part.elements, List.mapM_cons, first]
            rfl
          · rw [Part.bytes, Bytes.ofVarintField, List.append_assoc,
              decodeFields_of_large (Nat.not_lt.mp small)] at read
            cases read
      | run numbers =>
          by_cases small : id.toNat < 2 ^ 29
          · cases nested with
            | none =>
                rw [Part.bytes, decodeFields_run_of_full place packable small] at read
                cases read
            | some decode =>
                rw [Part.bytes, decodeFields_run place packable small decode draft fits.2] at read
                obtain ⟨values, first, read⟩ := bind_eq_ok.mp read
                exact behind values first read
          · rw [Part.bytes, Bytes.ofDelimitedField, List.append_assoc, List.append_assoc,
              decodeFields_of_large (Nat.not_lt.mp small)] at read
            cases read

end Parts

/-! ## Whole objects -/

/-- Reads an object inside `depth - 1` others, so that with it `depth` containers are open. -/
def decodeAtDepth (depth : Nat) : NestedDecoder := decodeAt (maximumDepth - depth)

/-- **A packed run and the same elements one by one are read alike.**  The elements of a list of
numbers or truth values may come in any mixture of single occurrences and runs, with other fields
in between and anything behind them: when fewer than `maximumDepth` containers are open, the
object is read as with an occurrence for every element, and fails as it does.  What an object
that is read has in the list is what was there and then all these elements, in order.  In an
object at depth `maximumDepth` a run is refused for the depth, whatever it holds, and an
occurrence of an element is appended. -/
theorem decode_unpacked {schema : Schema} {id : UInt32} {item : Shape}
    (place : Place schema id (.repeated item)) (packable : item.packable = true) :
    (∀ depth < maximumDepth, ∀ (storage : schema.Record) (parts : List Part) (rest : Bytes),
      (∀ part ∈ parts, part.Fits) →
        decodeAtDepth depth schema storage (Part.join id parts ++ rest) =
          decodeAtDepth depth schema storage
            (Part.join id (parts.flatMap Part.unpacked) ++ rest)) ∧
    (∀ (depth : Nat) (storage record : schema.Record) (parts : List Part),
      (∀ part ∈ parts, part.Fits) → (∀ part ∈ parts, part.Apart id) →
        decodeAtDepth depth schema storage (Part.join id parts) = .ok record →
          ∃ values, (parts.flatMap Part.elements).mapM item.ofNumber = .ok values ∧
            place.value record = List.append (place.value storage) values) ∧
    ∀ (storage : schema.Record) (before : List WireField) (draft : schema.Draft),
      id.toNat < 2 ^ 29 →
      before.foldlM (schema.takeField none) (schema.draft storage) = .ok draft →
        (∀ body rest : Bytes,
          decodeAtDepth maximumDepth schema storage
            (WireField.join before ++ (Bytes.ofDelimitedField id body ++ rest)) =
              .error tooDeep) ∧
        ∀ (number : UInt64) (rest : Bytes),
          decodeAtDepth maximumDepth schema storage
            (WireField.join before ++ (Bytes.ofVarintField id number.toNat ++ rest)) =
              item.ofNumber number >>= fun value =>
                schema.decodeFields none (place.push [value] draft) rest >>= schema.finish := by
  refine ⟨?_, ?_, ?_⟩
  · intro depth shallow storage parts rest fit
    obtain ⟨room, same⟩ : ∃ room, maximumDepth - depth = room + 1 :=
      Nat.exists_eq_add_one.mpr (Nat.sub_pos_of_lt shallow)
    rw [decodeAtDepth, same]
    exact congrArg (· >>= schema.finish)
      (decodeFields_unpacked place packable (decodeAt room) (schema.draft storage) fit rest)
  · intro depth storage record parts fit apart read
    obtain ⟨nested, same⟩ := exists_decodeBody (maximumDepth - depth)
    rw [decodeAtDepth, same, decodeBody] at read
    obtain ⟨draft, fields, finished⟩ := bind_eq_ok.mp read
    obtain ⟨values, inRange, appended⟩ :=
      elements_of_decodeFields place packable fit apart _ _ fields
    rw [Place.get_draft] at appended
    exact ⟨values, inRange, (place.value_of_finish draft record finished).trans appended⟩
  · intro storage before draft small taken
    have behind : ∀ rest : Bytes,
        decodeAtDepth maximumDepth schema storage (WireField.join before ++ rest) =
          schema.decodeFields none draft rest >>= schema.finish := by
      intro rest
      change (schema.decodeFields none (schema.draft storage) _ >>= schema.finish) = _
      rw [decodeFields_join, taken]
      rfl
    constructor
    · intro body rest
      rw [behind, decodeFields_run_of_full place packable small]
      rfl
    · intro number rest
      rw [behind, decodeFields_element place packable small]
      cases item.ofNumber number with
      | error error => rfl
      | ok value => rfl

/-- An object with a list of numbers and a name. -/
def numbersSchema : Schema :=
  .optional 1 "numbers" (.repeated .u32) <| .optional 4 "name" .text .nil

instance : DecidableEq numbersSchema.Record :=
  inferInstanceAs (DecidableEq (List UInt32 × String × Unit))

/-- The place of the list. -/
def numbersPlace : Place numbersSchema 1 (.repeated .u32) := .here

/-- The name on the wire. -/
def nameField : WireField := .delimited 4 [97] (by decide) (by decide)

/-- Four numbers in an element and two runs, with the name between them; a number out of range
in a run; and a run and an element in an object that no container can be opened in. -/
theorem decode_unpacked_of_numbers :
    numbersSchema.decode [8, 1, 10, 3, 2, 172, 2, 34, 1, 97, 10, 1, 3] =
        .ok ([(1 : UInt32), (2 : UInt32), (300 : UInt32), (3 : UInt32)], "a", ()) ∧
      numbersSchema.decode [10, 6, 7, 128, 128, 128, 128, 16] =
        numbersSchema.decode [8, 7, 8, 128, 128, 128, 128, 16] ∧
      decodeAtDepth maximumDepth numbersSchema numbersSchema.blank [10, 1, 3] = .error tooDeep ∧
      decodeAtDepth maximumDepth numbersSchema numbersSchema.blank [8, 3] =
        .ok ([(3 : UInt32)], "", ()) := by
  obtain ⟨alike, _, full⟩ := decode_unpacked numbersPlace rfl
  have root : 1 < maximumDepth := by decide
  refine ⟨?_, ?_, ?_, ?_⟩
  · have mixture := alike 1 root numbersSchema.blank
      [.element 1, .run [2, 300], .other nameField, .run [3]] []
      (by simp [Part.Fits]; decide +kernel)
    have runs : Part.join 1 [.element 1, .run [2, 300], .other nameField, .run [3]] ++ [] =
        [8, 1, 10, 3, 2, 172, 2, 34, 1, 97, 10, 1, 3] := by decide +kernel
    have singles : Part.join 1 ([Part.element 1, .run [2, 300], .other nameField,
        .run [3]].flatMap Part.unpacked) ++ [] =
          [8, 1, 8, 2, 8, 172, 2, 34, 1, 97, 8, 3] := by decide +kernel
    have read : numbersSchema.decode [8, 1, 8, 2, 8, 172, 2, 34, 1, 97, 8, 3] =
        .ok ([(1 : UInt32), (2 : UInt32), (300 : UInt32), (3 : UInt32)], "a", ()) := by
      decide +kernel
    rw [runs, singles] at mixture
    exact mixture.trans read
  · have outOfRange := alike 1 root numbersSchema.blank [.run [7, 4294967296]] []
      (by simp [Part.Fits]; decide +kernel)
    have run : Part.join 1 [.run [7, 4294967296]] ++ [] = [10, 6, 7, 128, 128, 128, 128, 16] := by
      decide +kernel
    have singles : Part.join 1 ([Part.run [7, 4294967296]].flatMap Part.unpacked) ++ [] =
        [8, 7, 8, 128, 128, 128, 128, 16] := by decide +kernel
    rwa [run, singles] at outOfRange
  · obtain ⟨refused, _⟩ := full numbersSchema.blank [] _ (by decide) rfl
    have run : Bytes.ofDelimitedField 1 [3] ++ [] = [10, 1, 3] := by decide +kernel
    have refusal := refused [3] []
    rwa [run] at refusal
  · obtain ⟨_, appended⟩ := full numbersSchema.blank [] _ (by decide) rfl
    have element : Bytes.ofVarintField 1 (3 : UInt64).toNat ++ [] = [8, 3] := by decide +kernel
    have read := appended 3 []
    rw [element] at read
    exact read.trans (congrArg (· >>= numbersSchema.finish) (decodeFields_nil _))

end Schema
end SecurityKey
