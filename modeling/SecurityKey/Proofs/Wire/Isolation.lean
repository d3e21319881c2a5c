import SecurityKey.Proofs.Schema.Integers
import SecurityKey.Proofs.Wire.Containers

/-!
# Containers are isolated

Whatever a reader is asked to do inside a container, and whatever fails there, it works on the
body of this container alone.  The body was carved out of the view around it when the container
was opened, so the views of the containers around it stay as they are, and what is left of the
parent when the container is closed is what lies behind the body (`containers_isolated`).

A step takes a piece from the front of the innermost view, also when it fails, and what it
answers is what this piece spells (`Operation.Spelled`).  The views that it leaves in place of
the innermost one make up the rest of it (`Confined`, `confined_run`): there is one view, or two
behind a start, or none behind an end.  So over any steps inside a container, the pieces and what
is left, one behind the other, are the body of the container (`exists_taken_inside`).
-/

set_option autoImplicit false

namespace SecurityKey

/-! ## Numbers that were read -/

namespace Bytes

theorem littleEndian_lt (bytes : Bytes) : littleEndian bytes < 256 ^ bytes.length := by
  induction bytes with
  | nil => exact Nat.one_pos
  | cons byte rest hypothesis =>
      have small := byte.toNat_lt
      rw [littleEndian, List.length_cons, Nat.pow_succ']
      omega

/-- Every byte string of some width is the form of the number that it spells. -/
theorem ofLittleEndian_littleEndian (bytes : Bytes) :
    ofLittleEndian bytes.length (littleEndian bytes) = bytes := by
  induction bytes with
  | nil => rfl
  | cons byte rest hypothesis =>
      have small := byte.toNat_lt
      have low : UInt8.ofNat (byte.toNat + 256 * littleEndian rest) = byte := by
        rw [← UInt8.toNat_inj, UInt8.toNat_ofNat']
        omega
      have high : (byte.toNat + 256 * littleEndian rest) / 256 = littleEndian rest := by omega
      rw [littleEndian, List.length_cons, ofLittleEndian, low, high, hypothesis]

end Bytes

theorem residue_toInt {bits : Nat} (word : BitVec bits) :
    residue bits word.toInt = word.toNat := by
  have same := congrArg BitVec.toNat (ofNat_residue bits word.toInt)
  rwa [BitVec.ofInt_toInt, BitVec.toNat_ofNat, Nat.mod_eq_of_lt (residue_lt bits _)] at same

theorem residue_natCast {bits value : Nat} (fits : value < 2 ^ bits) :
    residue bits value = value := by
  have power : ((2 ^ bits : Nat) : Int) = 2 ^ bits := Int.natCast_pow 2 bits
  have inside : FitsBits false bits value := by
    change (0 : Int) ≤ value ∧ (value : Int) ≤ 2 ^ bits - 1
    omega
  rw [residue_of_fits inside, Int.toNat_natCast]

/-! ## Pieces that scans take -/

/-- A refusal is no answer, so nothing is to be shown of one. -/
theorem of_refused {ε α : Type} {error : ε} {told : α → Prop} (answer : α)
    (same : Except.error error = .ok answer) : told answer := by
  cases same

namespace Scan

variable {α β : Type}

/-- What a scan leaves is an end of its source, also when it fails. -/
def Trims (scan : Scan α) : Prop := ∀ source, leaves (scan source) <:+ source

theorem trims_pure (value : α) : Trims (pure value : Scan α) :=
  fun source => List.suffix_refl source

theorem trims_throw (error : Error) : Trims (throw error : Scan α) :=
  fun source => List.suffix_refl source

theorem Trims.map {scan : Scan α} (trims : scan.Trims) (function : α → β) :
    Trims (function <$> scan) := by
  intro source
  rw [leaves_map]
  exact trims source

theorem Trims.bind {scan : Scan α} {next : α → Scan β} (first : scan.Trims)
    (others : ∀ value, (next value).Trims) : Trims (scan >>= next) := by
  intro source
  have left := first source
  cases ran : scan source with
  | ok value between =>
      rw [ran] at left
      rw [run_bind_of_ok ran]
      exact (others value between).trans left
  | error error between =>
      rw [ran] at left
      rw [run_bind_of_error ran]
      exact left

theorem trims_lift (result : Except Error α) : Trims (lift result) := by
  cases result with
  | ok value => exact trims_pure value
  | error error => exact trims_throw error

theorem trims_varint {bits : Nat} (positive : 0 < bits) : Trims (varint bits) := by
  intro source
  cases ran : varint bits source with
  | ok value rest =>
      obtain ⟨_, split⟩ := (varint_eq_ok_iff positive).mp ran
      exact ⟨Varint.encode value, split.symm⟩
  | error error rest =>
      rw [varint] at ran
      split at ran
      · cases ran
      · cases ran
        exact List.suffix_refl source

theorem trims_take (count : Nat) (short : EncodingFault) : Trims (take count short) := by
  intro source
  rw [take]
  split
  · exact List.drop_suffix count source
  · exact List.suffix_refl source

theorem trims_delimited : Trims delimited :=
  (trims_varint (by decide)).bind fun length => trims_take length .shortBytes

theorem trims_fixed (width : Nat) : Trims (fixed width) := (trims_take width .shortFixed).map _

theorem trims_tag : Trims tag :=
  (trims_varint (by decide)).bind fun _ => (trims_lift _).bind fun _ => trims_pure _

theorem trims_skip (wire : WireType) : Trims (skip wire) := by
  cases wire with
  | varint => exact (trims_varint (by decide)).map _
  | fixed64 => exact (trims_take 8 .shortFixed).map _
  | lengthDelimited => exact trims_delimited.map _
  | fixed32 => exact (trims_take 4 .shortFixed).map _

/-- A scan takes a piece from the front of its source, also when it fails, and a value that it
comes to is spelled by the piece. -/
def Spells (scan : Scan α) (spelled : α → Bytes → Prop) : Prop :=
  ∀ source, ∃ piece, source = piece ++ leaves (scan source) ∧
    ∀ value, outcome (scan source) = .ok value → spelled value piece

theorem Trims.spells {scan : Scan α} {spelled : α → Bytes → Prop} (trims : scan.Trims)
    (taken : ∀ source rest value, scan source = .ok value rest →
      ∃ piece, source = piece ++ rest ∧ spelled value piece) : scan.Spells spelled := by
  intro source
  cases ran : scan source with
  | ok value rest =>
      obtain ⟨piece, split, told⟩ := taken source rest value ran
      refine ⟨piece, split, ?_⟩
      intro other same
      cases same
      exact told
  | error error rest =>
      have left := trims source
      rw [ran] at left
      obtain ⟨piece, split⟩ := left
      exact ⟨piece, split.symm, of_refused⟩

theorem spells_varint : (varint 64).Spells fun value piece =>
    value < 2 ^ 64 ∧ piece = Varint.encode value := by
  refine (trims_varint (by decide)).spells fun source rest value ran => ?_
  obtain ⟨fits, split⟩ := (varint_eq_ok_iff (by decide)).mp ran
  exact ⟨_, split, fits, rfl⟩

theorem spells_fixed (width : Nat) : (fixed width).Spells fun value piece =>
    value < 256 ^ width ∧ piece = Bytes.ofLittleEndian width value := by
  refine (trims_fixed width).spells fun source rest value ran => ?_
  obtain ⟨bytes, taken, rfl⟩ := run_map_eq_ok.mp ran
  obtain ⟨rfl, split⟩ := take_eq_ok_iff.mp taken
  exact ⟨bytes, split, Bytes.littleEndian_lt bytes, (Bytes.ofLittleEndian_littleEndian bytes).symm⟩

theorem spells_delimited : delimited.Spells fun body piece =>
    piece = Varint.encode body.length ++ body := by
  refine trims_delimited.spells fun source rest body ran => ?_
  exact ⟨_, (delimited_eq_ok_iff.mp ran).2, rfl⟩

/-- A scan that goes on with the value of another one and takes nothing more. -/
theorem Spells.bind {scan : Scan α} {next : α → Scan β} {spelled : α → Bytes → Prop}
    {told : β → Bytes → Prop} (spells : scan.Spells spelled)
    (others : ∀ value source, leaves (next value source) = source ∧
      ∀ result piece, outcome (next value source) = .ok result → spelled value piece →
        told result piece) : (scan >>= next).Spells told := by
  intro source
  obtain ⟨piece, split, tells⟩ := spells source
  cases ran : scan source with
  | ok value rest =>
      rw [ran] at split tells
      rw [run_bind_of_ok ran]
      obtain ⟨kept, goesOn⟩ := others value rest
      exact ⟨piece, by rwa [kept], fun result same => goesOn result piece same (tells value rfl)⟩
  | error error rest =>
      rw [ran] at split
      rw [run_bind_of_error ran]
      exact ⟨piece, split, of_refused⟩

theorem Spells.map {scan : Scan α} {function : α → β} {spelled : α → Bytes → Prop}
    {told : β → Bytes → Prop} (spells : scan.Spells spelled)
    (tells : ∀ value piece, spelled value piece → told (function value) piece) :
    (function <$> scan).Spells told := by
  rw [map_eq_pure_bind]
  refine spells.bind fun value source => ⟨rfl, fun result piece same => ?_⟩
  cases same
  exact tells value piece

end Scan

namespace Reader

/-! ## What a step answers -/

namespace Operation

/-- A piece of the wire spells what a step answers: a key that is found ends with its tag, and a
value is just what was taken. -/
def Spelled : (operation : Operation) → operation.Answer → Bytes → Prop
  | .key known, answer, piece => ∀ position, answer = some position →
      ∃ (id : UInt32) (wire : WireType), known[position]? = some id ∧
        Varint.encode (wire.tag id) <:+ piece
  | .unsigned, (value : UInt64), piece => ∃ wire, Sends false value.toNat wire piece
  | .integer, (value : Int64), piece => ∃ wire, Sends true value.toInt wire piece
  | .boolean, (value : Bool), piece => piece = Varint.encode value.toNat
  | .text, (value : String), piece =>
      piece = Varint.encode (Bytes.ofText value).length ++ Bytes.ofText value
  | .blob, (value : Bytes), piece => piece = Varint.encode value.length ++ value
  | .fixedBytes _, value, piece => piece = Varint.encode value.bytes.length ++ value.bytes
  | .ordinal, (value : UInt64), piece => piece = Varint.encode value.toNat
  | _, _, _ => True

/-- The steps that close a container. -/
def IsEnd : Operation → Prop
  | endArray | endObject => True
  | _ => False

end Operation

end Reader

namespace Scan

theorem spells_unsigned (wire : WireType) : (unsigned wire).Spells fun value piece =>
    ∃ form, Sends false value.toNat form piece := by
  have word : ∀ value : Nat, value < 2 ^ 64 → (UInt64.ofNat value).toNat = value :=
    fun value fits => UInt64.toNat_ofNat_of_lt' fits
  have varint : ((UInt64.ofNat <$> Scan.varint 64 : Scan UInt64)).Spells fun value piece =>
      ∃ form, Sends false value.toNat form piece := by
    refine spells_varint.map fun value piece => ?_
    rintro ⟨fits, rfl⟩
    have sent : Sends false value .varint (Varint.encode (residue 64 value)) := .varint
    rw [residue_natCast fits] at sent
    exact ⟨_, by rwa [word value fits]⟩
  cases wire with
  | varint | lengthDelimited => exact varint
  | fixed64 =>
      refine (spells_fixed 8).map fun value piece => ?_
      rintro ⟨fits, rfl⟩
      have sent : Sends false value .fixed64 (Bytes.ofLittleEndian 8 (residue 64 value)) := .fixed64
      rw [residue_natCast fits] at sent
      exact ⟨_, by rwa [word value fits]⟩
  | fixed32 =>
      refine (spells_fixed 4).map fun value piece => ?_
      rintro ⟨fits, rfl⟩
      have small : value < 2 ^ 32 := fits
      have inside : FitsBits false 32 value := by
        change (0 : Int) ≤ value ∧ (value : Int) ≤ 2 ^ 32 - 1
        omega
      have sent := Sends.fixed32 inside
      rw [residue_natCast small] at sent
      exact ⟨_, by rwa [word value (by omega)]⟩

theorem spells_integer (wire : WireType) : (integer wire).Spells fun value piece =>
    ∃ form, Sends true value.toInt form piece := by
  -- The bits that are taken are the residue of the number that they stand for.
  have whole : ∀ value < 2 ^ 64,
      residue 64 (Int64.ofBitVec (BitVec.ofNat 64 value)).toInt = value := by
    intro value fits
    rw [Int64.toInt_ofBitVec, residue_toInt, BitVec.toNat_ofNat, Nat.mod_eq_of_lt fits]
  have varint : (((fun value => Int64.ofBitVec (BitVec.ofNat 64 value)) <$> Scan.varint 64 :
      Scan Int64)).Spells fun value piece => ∃ form, Sends true value.toInt form piece := by
    refine spells_varint.map fun value piece => ?_
    rintro ⟨fits, rfl⟩
    refine ⟨.varint, ?_⟩
    conv => rhs; rw [← whole value fits]
    exact .varint
  cases wire with
  | varint | lengthDelimited => exact varint
  | fixed64 =>
      refine (spells_fixed 8).map fun value piece => ?_
      rintro ⟨fits, rfl⟩
      refine ⟨.fixed64, ?_⟩
      conv => rhs; rw [← whole value fits]
      exact .fixed64
  | fixed32 =>
      refine (spells_fixed 4).map fun value piece => ?_
      rintro ⟨fits, rfl⟩
      have short : residue 32 (Int32.ofBitVec (BitVec.ofNat 32 value)).toInt64.toInt = value := by
        rw [Int32.toInt_toInt64, Int32.toInt_ofBitVec, residue_toInt, BitVec.toNat_ofNat,
          Nat.mod_eq_of_lt fits]
      refine ⟨.fixed32, ?_⟩
      conv => rhs; rw [← short]
      refine .fixed32 ?_
      rw [Int32.toInt_toInt64]
      exact ⟨Int32.le_toInt _, Int.le_sub_one_of_lt (Int32.toInt_lt _)⟩

theorem spells_boolean : boolean.Spells fun value piece =>
    piece = Varint.encode value.toNat := by
  refine spells_varint.bind fun value source => ?_
  split
  · refine ⟨rfl, fun result piece same told => ?_⟩
    cases same
    exact told.2
  · refine ⟨rfl, fun result piece same told => ?_⟩
    cases same
    exact told.2
  · refine ⟨rfl, fun result piece same => ?_⟩
    cases same

theorem spells_text : text.Spells fun value piece =>
    piece = Varint.encode (Bytes.ofText value).length ++ Bytes.ofText value := by
  refine spells_delimited.bind fun body source => ?_
  cases decoded : body.text? with
  | none =>
      refine ⟨rfl, fun result piece same => ?_⟩
      cases same
  | some value =>
      refine ⟨rfl, fun result piece same told => ?_⟩
      cases same
      rwa [Bytes.ofText_of_text? decoded]

theorem spells_fixedBytes (size : Nat) : (fixedBytes size).Spells fun value piece =>
    piece = Varint.encode value.bytes.length ++ value.bytes := by
  refine spells_delimited.bind fun body source => ?_
  split
  · refine ⟨rfl, fun result piece same told => ?_⟩
    cases same
    exact told
  · refine ⟨rfl, fun result piece same => ?_⟩
    cases same

theorem spells_ordinal : ordinal.Spells fun value piece =>
    piece = Varint.encode value.toNat := by
  refine spells_varint.map fun value piece => ?_
  rintro ⟨fits, rfl⟩
  rw [UInt64.toNat_ofNat_of_lt' fits]

end Scan

namespace Reader

/-! ## One step -/

/-- All that is left to be read, in the containers that are open and outside of them. -/
def unread (reader : Reader) : Bytes := reader.views.flatten ++ reader.input

section Confined

variable {α : Type}

/-- A step works on the innermost view: it takes a piece from the front, which spells what the
step answers, and the views that it leaves in place of this one make up the rest. -/
def Confined (step : Reading α) (spelled : α → Bytes → Prop) : Prop :=
  ∀ (input view : Bytes) (outer : List Bytes) (pending : Option WireType), ∃ piece inner,
    (leaves (step ⟨input, view :: outer, pending⟩)).views = inner ++ outer ∧
    (leaves (step ⟨input, view :: outer, pending⟩)).input = input ∧
    view = piece ++ inner.flatten ∧
    ∀ answer, outcome (step ⟨input, view :: outer, pending⟩) = .ok answer → spelled answer piece

theorem confined_value {expectation : Expectation} {scan : WireType → Scan α}
    {spelled : α → Bytes → Prop} (spells : ∀ wire, (scan wire).Spells spelled) :
    Confined (value expectation scan) spelled := by
  intro input view outer pending
  have idle : view = [] ++ [view].flatten := (List.append_nil view).symm
  cases pending with
  | none => exact ⟨[], [view], rfl, rfl, idle, of_refused⟩
  | some wire =>
      simp only [value]
      cases expectation.require wire with
      | error error => exact ⟨[], [view], rfl, rfl, idle, of_refused⟩
      | ok admitted =>
          obtain ⟨piece, split, tells⟩ := spells wire view
          simp only [onView]
          cases ran : scan wire view with
          | ok answer rest =>
              rw [ran] at split tells
              exact ⟨piece, [rest], rfl, rfl, by rwa [List.flatten_singleton], tells⟩
          | error error rest =>
              rw [ran] at split
              exact ⟨piece, [rest], rfl, rfl, by rwa [List.flatten_singleton], of_refused⟩

/-- The length of a body is what a start takes, and the body is a view in front of the rest. -/
theorem confined_openContainer : Confined openContainer fun _ _ => True := by
  intro input view outer pending
  rw [openContainer]
  split
  · exact ⟨[], [view], rfl, rfl, (List.append_nil view).symm, of_refused⟩
  · obtain ⟨piece, inner, views, kept, split, tells⟩ :=
      @confined_value _ .object _ _ (fun _ => Scan.spells_delimited) input view outer pending
    dsimp only
    cases ran : value .object (fun _ => Scan.delimited) ⟨input, view :: outer, pending⟩ with
    | ok body reader =>
        rw [ran] at views kept tells
        have counted : piece = Varint.encode body.length ++ body := tells body rfl
        refine ⟨Varint.encode body.length, body :: inner, congrArg (body :: ·) views, kept, ?_,
          fun _ _ => trivial⟩
        rw [split, counted, List.flatten_cons, List.append_assoc]
    | error error reader =>
        rw [ran] at views kept
        exact ⟨piece, inner, views, kept, split, of_refused⟩

theorem confined_startWith (wire : Option WireType) :
    Confined (startWith wire) fun _ _ => True := by
  intro input view outer pending
  obtain ⟨piece, inner, views, kept, split, tells⟩ :=
    confined_openContainer input view outer pending
  rw [startWith_eq]
  cases ran : openContainer ⟨input, view :: outer, pending⟩ with
  | ok opened after =>
      rw [ran] at views kept tells
      exact ⟨piece, inner, views, kept, split, fun _ _ => tells opened rfl⟩
  | error error left =>
      rw [ran] at views kept
      exact ⟨piece, inner, views, kept, split, of_refused⟩

theorem confined_closeContainer : Confined closeContainer fun _ _ => True := by
  intro input view outer pending
  cases view with
  | nil => exact ⟨[], [], rfl, rfl, rfl, fun _ _ => trivial⟩
  | cons byte rest =>
      exact ⟨[], [byte :: rest], rfl, rfl, (List.append_nil (byte :: rest)).symm, of_refused⟩

theorem seek_taken (known : List UInt32) (pending : Option WireType) (body : Bytes) :
    ∃ piece, body = piece ++ (seek known pending body).2.2 ∧
      ∀ position, (seek known pending body).1 = .ok (some position) →
        ∃ (id : UInt32) (wire : WireType), known[position]? = some id ∧
          Varint.encode (wire.tag id) <:+ piece := by
  fun_induction seek known pending body with
  | case1 =>
      refine ⟨[], rfl, fun position found => ?_⟩
      cases found
  | case2 pending body _ error rest refused =>
      have left := Scan.trims_tag body
      rw [refused] at left
      obtain ⟨piece, split⟩ := left
      refine ⟨piece, split.symm, fun position found => ?_⟩
      cases found
  | case3 pending body _ id wire rest tagged position found =>
      obtain ⟨_, source⟩ := Scan.tag_eq_ok_iff.mp tagged
      refine ⟨_, source, fun other same => ?_⟩
      cases same
      obtain ⟨inside, same, _⟩ := List.idxOf?_eq_some_iff.mp found
      exact ⟨id, wire, List.getElem?_eq_some_iff.mpr ⟨inside, same⟩, List.suffix_refl _⟩
  | case4 pending body _ id wire rest tagged _ error left refused =>
      have passed := Scan.trims_skip wire rest
      rw [refused] at passed
      obtain ⟨_, source⟩ := Scan.tag_eq_ok_iff.mp tagged
      obtain ⟨piece, split⟩ := passed.trans ⟨_, source.symm⟩
      refine ⟨piece, split.symm, fun position found => ?_⟩
      cases found
  | case5 pending body _ id wire rest tagged _ left skipped hypothesis =>
      have passed := Scan.trims_skip wire rest
      rw [skipped] at passed
      obtain ⟨_, source⟩ := Scan.tag_eq_ok_iff.mp tagged
      obtain ⟨front, split⟩ := passed.trans ⟨_, source.symm⟩
      obtain ⟨piece, further, tells⟩ := hypothesis
      refine ⟨front ++ piece, ?_, fun position found => ?_⟩
      · rw [List.append_assoc, ← further]
        exact split.symm
      · obtain ⟨known, form, listed, suffix⟩ := tells position found
        exact ⟨known, form, listed, suffix.trans (List.suffix_append front piece)⟩

theorem confined_key (known : List UInt32) :
    Confined (key known) (Operation.Spelled (.key known)) := by
  intro input view outer pending
  obtain ⟨piece, split, tells⟩ := seek_taken known pending view
  simp only [key]
  cases sought : seek known pending view with
  | mk found left =>
      obtain ⟨next, rest⟩ := left
      rw [sought] at split tells
      cases found with
      | ok position =>
          refine ⟨piece, [rest], rfl, rfl, by rwa [List.flatten_singleton], ?_⟩
          intro answer same
          cases same
          exact fun found named => tells found (congrArg _ named)
      | error error =>
          exact ⟨piece, [rest], rfl, rfl, by rwa [List.flatten_singleton], of_refused⟩

/-- Every step works on the innermost view. -/
theorem confined_run (operation : Operation) : Confined operation.run operation.Spelled := by
  cases operation with
  | key known => exact confined_key known
  | unsigned => exact confined_value Scan.spells_unsigned
  | integer => exact confined_value Scan.spells_integer
  | boolean => exact confined_value fun _ => Scan.spells_boolean
  | text => exact confined_value fun _ => Scan.spells_text
  | blob => exact confined_value fun _ => Scan.spells_delimited
  | fixedBytes size => exact confined_value fun _ => Scan.spells_fixedBytes size
  | ordinal => exact confined_value fun _ => Scan.spells_ordinal
  | startArray => exact confined_startWith (some .varint)
  | startObject => exact confined_startWith none
  | endArray | endObject => exact confined_closeContainer
  | isArrayEnd =>
      intro input view outer pending
      exact ⟨[], [view], rfl, rfl, (List.append_nil view).symm, fun _ _ => trivial⟩
  | checkComplete =>
      intro input view outer pending
      exact ⟨[], [view], rfl, rfl, (List.append_nil view).symm, fun _ _ => trivial⟩

end Confined

/-! ## Some steps in a row -/

/-- The pieces that some steps take, one each, spell what these steps answer. -/
inductive Takes : List Operation → Reader → List Bytes → Prop where
  | nil (reader : Reader) : Takes [] reader []
  | cons {operation : Operation} {operations : List Operation} {reader : Reader} {piece : Bytes}
      {pieces : List Bytes}
      (spelled : ∀ answer, outcome (operation.run reader) = .ok answer →
        operation.Spelled answer piece)
      (others : Takes operations (leaves (operation.step reader)) pieces) :
      Takes (operation :: operations) reader (piece :: pieces)

/-- From a reader on, and behind every one of the steps, more containers are open than a level
says. -/
def StaysAbove (level : Nat) : List Operation → Reader → Prop
  | [], reader => level < reader.depth
  | operation :: operations, reader =>
      level < reader.depth ∧ StaysAbove level operations (leaves (operation.step reader))

/-- Views that more containers than some outer ones belong to begin with the innermost one. -/
theorem exists_view {views inner outer : List Bytes} (parts : views = inner ++ outer)
    (above : outer.length < views.length) : ∃ view others, inner = view :: others := by
  cases inner with
  | nil => exact absurd above (by rw [parts, List.nil_append]; exact Nat.lt_irrefl _)
  | cons view others => exact ⟨view, others, rfl⟩

/-- The pieces that steps inside some containers take, and what they leave of the inner views,
are these views one behind the other.  The views around them stay. -/
theorem exists_taken_inside {operations : List Operation} {reader : Reader}
    {inner outer : List Bytes} (views : reader.views = inner ++ outer)
    (above : StaysAbove outer.length operations reader) :
    ∃ pieces left, Takes operations reader pieces ∧
      (stateAfter (operations.map Operation.step) reader).views = left ++ outer ∧ left ≠ [] ∧
      inner.flatten = pieces.flatten ++ left.flatten := by
  induction operations generalizing reader inner with
  | nil =>
      obtain ⟨view, others, rfl⟩ := exists_view views above
      exact ⟨[], view :: others, .nil reader, views, List.cons_ne_nil _ _, rfl⟩
  | cons operation operations hypothesis =>
      obtain ⟨view, others, rfl⟩ := exists_view views above.1
      obtain ⟨input, _, pending⟩ := reader
      cases views
      obtain ⟨piece, between, stepped, _, split, spelled⟩ :=
        confined_run operation input view (others ++ outer) pending
      rw [← leaves_map fun _ => (), ← List.append_assoc] at stepped
      obtain ⟨pieces, left, takes, last, occupied, further⟩ := hypothesis stepped above.2
      refine ⟨piece :: pieces, left, .cons spelled takes, last, occupied, ?_⟩
      rw [List.flatten_cons, split, List.flatten_cons, List.append_assoc, List.append_assoc,
        ← further, List.flatten_append]

/-- Where no container is open, a step takes nothing. -/
theorem run_outside (operation : Operation) (input : Bytes) (pending : Option WireType) :
    (leaves (operation.run ⟨input, [], pending⟩)).unread = input ∧
      ∀ answer, outcome (operation.run ⟨input, [], pending⟩) = .ok answer →
        operation.Spelled answer [] := by
  have refused : ∀ {α : Type} (expectation : Expectation) (scan : WireType → Scan α)
      (spelled : α → Bytes → Prop),
      (leaves (value expectation scan ⟨input, [], pending⟩)).unread = input ∧
        ∀ answer, outcome (value expectation scan ⟨input, [], pending⟩) = .ok answer →
          spelled answer [] := by
    intro α expectation scan spelled
    cases pending with
    | none => exact ⟨rfl, of_refused⟩
    | some wire =>
        simp only [value]
        cases expectation.require wire with
        | error error => exact ⟨rfl, of_refused⟩
        | ok admitted => exact ⟨rfl, of_refused⟩
  have opened : (Reader.mk [] [input] pending).unread = input := by
    rw [unread, List.flatten_singleton, List.append_nil]
  cases operation with
  | unsigned | integer | boolean | text | blob | fixedBytes size | ordinal => exact refused _ _ _
  | key known | endArray | endObject | isArrayEnd => exact ⟨rfl, of_refused⟩
  | startArray | startObject => exact ⟨opened, fun _ _ => trivial⟩
  | checkComplete =>
      refine ⟨?_, fun _ _ => trivial⟩
      change (leaves (checkComplete _)).unread = _
      rw [checkComplete]
      split
      · rfl
      · rfl

/-- A step takes a piece from the front of what is left to be read. -/
theorem exists_taken (operation : Operation) (reader : Reader) :
    ∃ piece, reader.unread = piece ++ (leaves (operation.step reader)).unread ∧
      ∀ answer, outcome (operation.run reader) = .ok answer → operation.Spelled answer piece := by
  rw [Operation.step, leaves_map]
  obtain ⟨input, views, pending⟩ := reader
  cases views with
  | nil =>
      obtain ⟨kept, spelled⟩ := run_outside operation input pending
      exact ⟨[], kept.symm, spelled⟩
  | cons view outer =>
      obtain ⟨piece, inner, views, kept, split, spelled⟩ :=
        confined_run operation input view outer pending
      refine ⟨piece, ?_, spelled⟩
      change (view :: outer).flatten ++ input = _
      rw [unread, views, kept, List.flatten_cons, List.flatten_append, split]
      simp only [List.append_assoc]

theorem exists_taken_of_operations (operations : List Operation) (reader : Reader) :
    ∃ pieces, Takes operations reader pieces ∧ reader.unread =
      pieces.flatten ++ (stateAfter (operations.map Operation.step) reader).unread := by
  induction operations generalizing reader with
  | nil => exact ⟨[], .nil reader, rfl⟩
  | cons operation operations hypothesis =>
      obtain ⟨piece, split, spelled⟩ := exists_taken operation reader
      obtain ⟨pieces, takes, further⟩ := hypothesis (leaves (operation.step reader))
      refine ⟨piece :: pieces, .cons spelled takes, ?_⟩
      rw [List.flatten_cons, List.append_assoc, split, further]
      rfl

/-! ## Containers -/

/-- What an end needs, and what it does. -/
theorem step_end_iff {ending : Operation} (ends : ending.IsEnd) {view : Bytes}
    {outer : List Bytes} {reader after : Reader} (views : reader.views = view :: outer) :
    ending.step reader = .ok () after ↔ view = [] ∧ after = { reader with views := outer } := by
  have closes : ending.step reader = .ok () after ↔ closeContainer reader = .ok () after := by
    cases ending with
    | endArray | endObject =>
        refine run_map_eq_ok.trans ⟨?_, fun ran => ⟨(), ran, rfl⟩⟩
        rintro ⟨_, ran, _⟩
        exact ran
    | _ => cases ends
  rw [closes]
  obtain ⟨input, _, pending⟩ := reader
  cases views
  cases view with
  | nil =>
      constructor
      · intro ran
        cases ran
        exact ⟨rfl, rfl⟩
      · rintro ⟨_, rfl⟩
        rfl
  | cons byte rest =>
      constructor
      · intro ran
        cases ran
      · rintro ⟨empty, _⟩
        cases empty

/-- A start opens a container, and what it does to the pending value keeps the views. -/
theorem exists_opened_of_start {start : Operation} (starts : start.IsStart)
    {reader inside : Reader} (opened : start.step reader = .ok () inside) :
    ∃ between, openContainer reader = .ok () between ∧ inside.views = between.views := by
  have begun : ∀ wire : Option WireType, startWith wire reader = .ok () inside →
      ∃ between, openContainer reader = .ok () between ∧ inside.views = between.views := by
    intro wire ran
    rw [startWith_eq] at ran
    cases carved : openContainer reader with
    | ok _ between =>
        rw [carved] at ran
        cases ran
        exact ⟨between, rfl, rfl⟩
    | error error left =>
        rw [carved] at ran
        cases ran
  obtain ⟨_, ran, _⟩ := run_map_eq_ok.mp opened
  cases start with
  | startArray => exact begun (some .varint) ran
  | startObject => exact begun none ran
  | _ => cases starts

/-- Opening a container inside another one carves its body out of the view. -/
theorem carved_of_openContainer {input view : Bytes} {outer : List Bytes}
    {pending : Option WireType} {between : Reader}
    (ran : openContainer ⟨input, view :: outer, pending⟩ = .ok () between) :
    ∃ body rest, view = Varint.encode body.length ++ body ++ rest ∧
      between.views = body :: rest :: outer := by
  rw [openContainer] at ran
  split at ran
  · cases ran
  dsimp only at ran
  split at ran
  · rename_i body left carved
    cases ran
    rw [value] at carved
    split at carved
    · cases carved
    split at carved
    · cases carved
    simp only [onView] at carved
    split at carved
    · rename_i found rest delimited
      cases carved
      exact ⟨body, rest, (Scan.delimited_eq_ok_iff.mp delimited).2, rfl⟩
    · cases carved
  · cases ran

/-- A start inside a container carves a body out of the view. -/
theorem step_start {start : Operation} (starts : start.IsStart) {reader inside : Reader}
    (nested : 0 < reader.depth) (opened : start.step reader = .ok () inside) :
    ∃ body rest outer,
      reader.views = (Varint.encode body.length ++ body ++ rest) :: outer ∧
      inside.views = body :: rest :: outer := by
  obtain ⟨between, ran, same⟩ := exists_opened_of_start starts opened
  obtain ⟨input, views, pending⟩ := reader
  cases views with
  | nil => exact absurd nested (Nat.lt_irrefl 0)
  | cons view outer =>
      obtain ⟨body, rest, rfl, carved⟩ := carved_of_openContainer ran
      exact ⟨body, rest, outer, rfl, same.trans carved⟩

/-- Nothing is left to be read exactly when a reader is complete. -/
theorem checkComplete_eq_ok_iff {reader after : Reader} :
    checkComplete reader = .ok () after ↔
      reader.depth = 0 ∧ reader.unread = [] ∧ after = reader := by
  obtain ⟨input, views, pending⟩ := reader
  rw [checkComplete]
  cases views with
  | nil =>
      cases input with
      | nil =>
          constructor
          · intro ran
            cases ran
            exact ⟨rfl, rfl, rfl⟩
          · rintro ⟨_, _, rfl⟩
            rfl
      | cons byte rest =>
          constructor
          · intro ran
            cases ran
          · rintro ⟨_, empty, _⟩
            cases empty
  | cons view outer =>
      constructor
      · intro ran
        cases ran
      · rintro ⟨outside, _⟩
        cases outside

/-- Containers are isolated.  Behind any steps on some bytes, a start inside a container carves a
body out of the view around it.  Whatever steps are taken inside the new container, and
whatever fails there, the pieces that they take and what they leave in it make up the body, one
behind the other, and the views around it stay.  The matching end comes to its value exactly
when the body is used up, and then what lies behind the body is left.  The reader is complete
exactly when no container is open and the pieces that were taken are all of the bytes. -/
theorem containers_isolated (bytes : Bytes) (before : List Operation) :
    let reader := stateAfter (before.map Operation.step) (ofBytes bytes)
    (∀ (start : Operation) (inside : Reader), start.IsStart → 0 < reader.depth →
      start.step reader = .ok () inside →
      ∃ body rest outer,
        reader.views = (Varint.encode body.length ++ body ++ rest) :: outer ∧
        inside.views = body :: rest :: outer ∧
        ∀ operations, StaysAbove reader.depth operations inside →
          let last := stateAfter (operations.map Operation.step) inside
          ∃ pieces inner, Takes operations inside pieces ∧
            last.views = inner ++ rest :: outer ∧ inner ≠ [] ∧
            body = pieces.flatten ++ inner.flatten ∧
            ∀ (ending : Operation) (after : Reader), ending.IsEnd → last.depth = reader.depth + 1 →
              (ending.step last = .ok () after ↔
                body = pieces.flatten ∧ after = { last with views := rest :: outer })) ∧
    ∃ pieces, Takes before (ofBytes bytes) pieces ∧
      bytes = pieces.flatten ++ reader.unread ∧
      ∀ after, checkComplete reader = .ok () after ↔
        reader.depth = 0 ∧ bytes = pieces.flatten ∧ after = reader := by
  intro reader
  refine ⟨fun start inside starts nested opened => ?_, ?_⟩
  · obtain ⟨body, rest, outer, carved, views⟩ := step_start starts nested opened
    have level : reader.depth = (rest :: outer).length := by
      rw [depth, carved]
      rfl
    refine ⟨body, rest, outer, carved, views, fun operations above => ?_⟩
    rw [level] at above
    obtain ⟨pieces, inner, takes, left, occupied, parts⟩ :=
      @exists_taken_inside _ _ [body] _ views above
    rw [List.flatten_singleton] at parts
    refine ⟨pieces, inner, takes, left, occupied, parts, fun ending after ends single => ?_⟩
    -- Only the container itself is open, so the inner views are what is left of its body.
    obtain ⟨view, rfl⟩ : ∃ view, inner = [view] := by
      refine List.length_eq_one_iff.mp ?_
      rw [depth, left, level, List.length_append] at single
      omega
    have alone : (stateAfter (operations.map Operation.step) inside).views =
        view :: rest :: outer := left
    rw [step_end_iff ends alone, parts, List.flatten_singleton, List.append_right_eq_self]
  · obtain ⟨pieces, takes, parts⟩ := exists_taken_of_operations before (ofBytes bytes)
    have whole : (ofBytes bytes).unread = bytes := rfl
    rw [whole] at parts
    refine ⟨pieces, takes, parts, fun after => ?_⟩
    rw [checkComplete_eq_ok_iff]
    refine and_congr_right fun _ => and_congr_left fun _ => ?_
    conv => rhs; lhs; rw [parts]
    exact List.append_right_eq_self.symm

/-- An object is read in spite of two refusals: a text is asked for where there is a number, and
the end comes before the second field.  All of its body has been taken when it is closed, and
the field behind it is left. -/
theorem isolated_behind_refusals :
    let inside : Reader := ⟨[], [[0x08, 1, 0x08, 2], [0x10, 7]], none⟩
    let operations : List Operation :=
      [.key [1], .text, .unsigned, .endObject, .key [1], .unsigned]
    ∃ pieces, Takes operations inside pieces ∧ [0x08, 1, 0x08, 2] = pieces.flatten ∧
      Operation.endObject.step (stateAfter (operations.map Operation.step) inside) =
        .ok () ⟨[], [[0x10, 7]], some .varint⟩ := by
  intro inside operations
  have starts : ∀ {reader between : Reader}, openContainer reader = .ok () between →
      Operation.startObject.step reader = .ok () { between with pending := none } := by
    intro reader between ran
    refine run_map_eq_ok.mpr ⟨(), (startWith_eq none reader).trans ?_, rfl⟩
    rw [ran]
    rfl
  let bytes : Bytes := [0x0a, 4, 0x08, 1, 0x08, 2, 0x10, 7]
  have outermost : openContainer (ofBytes bytes) = .ok () ⟨[], [bytes], none⟩ := rfl
  have field : (Operation.key [1]).step ⟨[], [bytes], none⟩ =
      .ok () ⟨[], [[4, 0x08, 1, 0x08, 2, 0x10, 7]], some .lengthDelimited⟩ := by cbv
  have carved : openContainer ⟨[], [[4, 0x08, 1, 0x08, 2, 0x10, 7]], some .lengthDelimited⟩ =
      .ok () { inside with pending := some .lengthDelimited } := by cbv
  have reached : stateAfter ([.startObject, .key [1]].map Operation.step) (ofBytes bytes) =
      ⟨[], [[4, 0x08, 1, 0x08, 2, 0x10, 7]], some .lengthDelimited⟩ := by
    change leaves (Operation.step (.key [1])
      (leaves (Operation.startObject.step (ofBytes bytes)))) = _
    rw [starts outermost, leaves, field, leaves]
  have carves := (containers_isolated bytes [.startObject, .key [1]]).1 .startObject inside trivial
  rw [reached] at carves
  obtain ⟨body, rest, outer, _, views, isolated⟩ := carves (by decide) (starts carved)
  cases views
  obtain ⟨pieces, inner, takes, _, _, _, closes⟩ := isolated operations (by cbv)
  have ended : Operation.endObject.step (stateAfter (operations.map Operation.step) inside) =
      .ok () ⟨[], [[0x10, 7]], some .varint⟩ := by cbv
  obtain ⟨used, _⟩ := (closes .endObject _ trivial (by cbv)).mp ended
  exact ⟨pieces, takes, used, ended⟩

end Reader
end SecurityKey
