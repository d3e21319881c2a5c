import SecurityKey.Proofs.Schema.FieldByField
import SecurityKey.Proofs.Wire.Found

/-!
# Objects on a reader

A reader is driven over an object by the schema of the object: the object is opened, and as long
as there is another key that the schema lists, the value behind it is read into its field; then the
object is closed, and a required field that has not occurred is reported (`Schema.readObject`).  A
packed run is read element by element until it is used up, and a nested object as an object of its
own.

`Schema.decode` carves a body out of the bytes and decodes it on its own, whereas the reader keeps
the views around it.  Both come to the same: at every depth the reader takes from the innermost
view what is scanned of it and gives the same value, or both fail with the same error
(`Reader.Tracks`).  The views further out are left as they are.  The main statement is
`Schema.outcome_readObject`.

The loops over keys and elements are given a number of turns, and nested objects a number of
levels.  Every turn takes a byte, and the reader refuses an object for its depth before the levels
are used up, so that both numbers are of no interest as long as they are large enough.
-/

set_option autoImplicit false

namespace SecurityKey

/-! ## The steps of an object -/

/-- Takes a step again and again, at most `turns` times, as long as it says how to go on. -/
def Reader.repeatedly {σ : Type} (step : σ → Reading (Option σ)) : (turns : Nat) → σ → Reading σ
  | 0, state => pure state
  | turns + 1, state => do
      match ← step state with
      | none => pure state
      | some next => repeatedly step turns next

/-- Reads another element of a packed run, if there is one. -/
def Reader.element {α : Type} (item : Reading α) (items : List α) : Reading (Option (List α)) := do
  if ← Reader.isArrayEnd then
    pure none
  else
    let value ← item
    pure (some (items ++ [value]))

/-- How the objects nested inside an object are read, into storage that is there. -/
abbrev NestedReader := (schema : Schema) → schema.Record → Reading schema.Record

/-- Reads the value of the pending key into storage that is there. -/
def Shape.read (turns : Nat) (nested : NestedReader) :
    (shape : Shape) → shape.Value → Reading shape.Value
  | .u32, _ => do
      let value ← Reader.unsigned
      MonadExcept.ofExcept (narrowUnsigned value)
  | .u64, _ => Reader.unsigned
  | .i32, _ => do
      let value ← Reader.integer
      MonadExcept.ofExcept (narrowSigned value)
  | .i64, _ => Reader.integer
  | .boolean, _ => Reader.boolean
  | .text, _ => Reader.text
  | .blob, _ => Reader.blob
  | .fixed size, _ => Reader.fixedBytes size
  | .enumeration table, _ => table.ofOrdinal <$> Reader.ordinal
  | .optional item, _ => some <$> item.read turns nested item.blank
  | .repeated item, items => do
      let reader ← get
      if item.packable && reader.isPacked then
        Reader.startArray
        let element := Reader.element (item.read turns nested item.blank)
        let items ← Reader.repeatedly element turns items
        Reader.endArray
        pure items
      else
        let value ← item.read turns nested item.blank
        pure (List.append items [value])
  | .boxed item, value => item.read turns nested value
  | .object schema, record => nested schema record
  | .nest, value => Nest.ofRecord <$> nested Nest.schema value.toRecord

namespace Schema

/-- Reads the value of the pending key into the field at a position. -/
def readField (turns : Nat) (nested : NestedReader) :
    (schema : Schema) → (position : Nat) → schema.Draft → Reading schema.Draft
  | .nil, _, draft => pure draft
  | .field _ _ _ shape _, 0, ((value, _), draft) =>
      (fun value => ((value, true), draft)) <$> shape.read turns nested value
  | .field _ _ _ _ others, position + 1, (entry, draft) =>
      (fun draft => (entry, draft)) <$> others.readField turns nested position draft

/-- Reads another field that is listed, if there is one. -/
def readNext (turns : Nat) (nested : NestedReader) (schema : Schema) (draft : schema.Draft) :
    Reading (Option schema.Draft) := do
  match ← Reader.key schema.ids with
  | none => pure none
  | some position => some <$> schema.readField turns nested position draft

/-- Reads an object with objects inside one another at `levels` levels.  Those further in are left
to `deeper`. -/
def readObject (deeper : NestedReader) (turns : Nat) : (levels : Nat) → NestedReader
  | 0 => deeper
  | levels + 1 => fun schema record => do
      Reader.startObject
      let draft ← Reader.repeatedly (schema.readNext turns (readObject deeper turns levels)) turns
        (schema.draft record)
      Reader.endObject
      MonadExcept.ofExcept (schema.finish draft)

end Schema

namespace Reader

/-! ## What is taken from the innermost view -/

variable {α β : Type} {input : Bytes} {outer : List Bytes} {wire : WireType}
  {last middle : Option WireType → Prop}

/-- What a step comes to that takes from the innermost view what a scan takes, and gives what it
gives, or fails as it does.  Behind it one of the wire types `last` is pending. -/
inductive Tracks (input : Bytes) (outer : List Bytes) (last : Option WireType → Prop) :
    EStateM.Result Error Bytes α → EStateM.Result Error Reader α → Prop where
  | ok {value : α} {rest : Bytes} {pending : Option WireType} (holds : last pending) :
      Tracks input outer last (.ok value rest) (.ok value ⟨input, rest :: outer, pending⟩)
  | error {error : Error} {rest : Bytes} {left : Reader} :
      Tracks input outer last (.error error rest) (.error error left)

theorem Tracks.weaken {scanned : EStateM.Result Error Bytes α}
    {ran : EStateM.Result Error Reader α} (tracks : Tracks input outer middle scanned ran)
    (weaker : ∀ pending, middle pending → last pending) : Tracks input outer last scanned ran := by
  cases tracks with
  | ok holds => exact .ok (weaker _ holds)
  | error => exact .error

theorem Tracks.eq_ok {value : α} {rest : Bytes} {ran : EStateM.Result Error Reader α}
    (tracks : Tracks input outer last (.ok value rest) ran) :
    ∃ pending, last pending ∧ ran = .ok value ⟨input, rest :: outer, pending⟩ := by
  cases tracks with
  | ok holds => exact ⟨_, holds, rfl⟩

theorem Tracks.eq_error {error : Error} {rest : Bytes} {ran : EStateM.Result Error Reader α}
    (tracks : Tracks input outer last (.error error rest) ran) :
    ∃ left, ran = .error error left := by
  cases tracks with
  | error => exact ⟨_, rfl⟩

/-- A result that was computed without reading. -/
theorem tracks_lift {pending : Option WireType} (holds : last pending) (result : Except Error α)
    (view : Bytes) :
    Tracks input outer last (Scan.lift result view)
      ((MonadExcept.ofExcept result : Reading α) ⟨input, view :: outer, pending⟩) := by
  cases result with
  | ok value => exact .ok holds
  | error error => exact .error

theorem Tracks.bind {scan : Scan α} {next : α → Scan β} {step : Reading α}
    {follow : α → Reading β} {view : Bytes} {reader : Reader}
    (tracks : Tracks input outer middle (scan view) (step reader))
    (others : ∀ (value : α) (rest : Bytes) (pending : Option WireType),
      scan view = .ok value rest → middle pending →
        Tracks input outer last (next value rest)
          (follow value ⟨input, rest :: outer, pending⟩)) :
    Tracks input outer last ((scan >>= next) view) ((step >>= follow) reader) := by
  cases scanned : scan view with
  | ok value rest =>
      rw [scanned] at tracks
      obtain ⟨pending, holds, ran⟩ := tracks.eq_ok
      rw [run_bind_of_ok scanned, run_bind_of_ok ran]
      exact others value rest pending scanned holds
  | error error rest =>
      rw [scanned] at tracks
      obtain ⟨left, ran⟩ := tracks.eq_error
      rw [run_bind_of_error scanned, run_bind_of_error ran]
      exact .error

theorem Tracks.map {scan : Scan α} {step : Reading α} {view : Bytes} {reader : Reader}
    (tracks : Tracks input outer last (scan view) (step reader)) (function : α → β) :
    Tracks input outer last ((function <$> scan) view) ((function <$> step) reader) := by
  rw [map_eq_pure_bind, map_eq_pure_bind]
  exact tracks.bind fun value rest pending _ holds => .ok holds

/-- A value of the pending key is scanned when its wire type is admitted. -/
theorem tracks_value (expectation : Expectation) (scan : WireType → Scan α) (view : Bytes) :
    Tracks input outer (· = some wire)
      ((Scan.lift (expectation.require wire) >>= fun _ => scan wire) view)
      (value expectation scan ⟨input, view :: outer, some wire⟩) := by
  cases admitted : expectation.require wire with
  | error error =>
      simp only [value, admitted]
      exact .error
  | ok passed =>
      simp only [value, admitted, onView]
      change Tracks _ _ _ (scan wire view) _
      cases scan wire view with
      | ok value rest => exact .ok rfl
      | error error rest => exact .error

/-! ## Containers -/

theorem length_carved_le {body rest view : Bytes} {expectation : Expectation}
    (carved : (Scan.lift (expectation.require wire) >>= fun _ => Scan.delimited) view =
      .ok body rest) : body.length ≤ view.length := by
  obtain ⟨_, _, admitted, taken⟩ := run_bind_eq_ok.mp carved
  obtain ⟨_, rfl⟩ := Scan.lift_eq_ok_iff.mp admitted
  obtain ⟨_, rfl⟩ := Scan.delimited_eq_ok_iff.mp taken
  rw [List.length_append, List.length_append]
  omega

/-- A container is opened on its body, read and closed, when there is room for it. -/
theorem tracks_container {Decoder : Type} {nested : Option Decoder} {steps : Reading α}
    {result : Decoder × Bytes → Except Error α} {next : Option WireType} (view : Bytes)
    (full : nested = none → outer.length + 1 = maximumDepth)
    (room : ∀ decoder ∈ nested, outer.length + 1 < maximumDepth)
    (tracks : ∀ decoder ∈ nested, ∀ body rest : Bytes, body.length ≤ view.length →
      Tracks input outer last (Scan.lift (result (decoder, body)) rest)
        (steps ⟨input, body :: rest :: outer, next⟩)) :
    Tracks input outer last
      ((openBody nested wire >>= fun opened => Scan.lift (result opened)) view)
      ((startWith next >>= fun _ => steps) ⟨input, view :: outer, some wire⟩) := by
  cases nested with
  | none =>
      have deep : (Reader.mk input (view :: outer) (some wire)).depth = maximumDepth := full rfl
      have refused : startWith next ⟨input, view :: outer, some wire⟩ =
          .error tooDeep ⟨input, view :: outer, some wire⟩ := by
        rw [startWith_eq, openContainer, if_pos deep]
      rw [run_bind_of_error refused]
      exact .error
  | some decoder =>
      have scanned : (openBody (some decoder) wire >>= fun opened => Scan.lift (result opened)) =
          (Scan.lift (Expectation.object.require wire) >>= fun _ => Scan.delimited) >>=
            fun body => Scan.lift (result (decoder, body)) := by
        simp only [openBody, bind_assoc, pure_bind]
      have shallow : ¬(Reader.mk input (view :: outer) (some wire)).depth = maximumDepth :=
        Nat.ne_of_lt (room decoder rfl)
      have opens := startWith_eq next ⟨input, view :: outer, some wire⟩
      rw [openContainer, if_neg shallow] at opens
      have carves : Tracks input outer (· = some wire)
          ((Scan.lift (Expectation.object.require wire) >>= fun _ => Scan.delimited) view)
          (value .object (fun _ => Scan.delimited) ⟨input, view :: outer, some wire⟩) :=
        tracks_value .object (fun _ => Scan.delimited) view
      rw [scanned]
      cases carved : (Scan.lift (Expectation.object.require wire) >>= fun _ => Scan.delimited)
          view with
      | error error left =>
          rw [carved] at carves
          obtain ⟨behind, ran⟩ := carves.eq_error
          rw [ran] at opens
          rw [run_bind_of_error carved, run_bind_of_error opens]
          exact .error
      | ok body rest =>
          rw [carved] at carves
          obtain ⟨_, _, ran⟩ := carves.eq_ok
          rw [ran] at opens
          rw [run_bind_of_ok carved, run_bind_of_ok opens]
          exact tracks decoder rfl body rest (length_carved_le carved)

/-- A container that is used up is closed, and what was read of it is judged. -/
theorem Tracks.close {computed : Except Error α} {step : Reading α} {reader : Reader}
    {rest : Bytes}
    (tracks : Tracks input (rest :: outer) last (Scan.lift computed []) (step reader))
    (after : α → Except Error β) :
    Tracks input outer last (Scan.lift (computed >>= after) rest)
      ((step >>= fun value => closeContainer >>= fun _ => MonadExcept.ofExcept (after value))
        reader) := by
  cases computed with
  | error error =>
      obtain ⟨left, ran⟩ := tracks.eq_error
      rw [run_bind_of_error ran]
      exact .error
  | ok value =>
      obtain ⟨pending, holds, ran⟩ := tracks.eq_ok
      rw [run_bind_of_ok ran]
      exact tracks_lift holds (after value) rest

/-! ## Loops -/

section Loops

variable {σ : Type} {step : σ → Reading (Option σ)} {state next : σ} {reader after left : Reader}

theorem repeatedly_of_none (turns : Nat) (ran : step state reader = .ok none after) :
    repeatedly step (turns + 1) state reader = .ok state after := by
  rw [repeatedly, run_bind_of_ok ran]
  rfl

theorem repeatedly_of_some (turns : Nat) (ran : step state reader = .ok (some next) after) :
    repeatedly step (turns + 1) state reader = repeatedly step turns next after := by
  rw [repeatedly, run_bind_of_ok ran]

/-- Two readers that the first step does not tell apart. -/
theorem repeatedly_congr {other : Reader} (turns : Nat)
    (same : step state reader = step state other) :
    repeatedly step (turns + 1) state reader = repeatedly step (turns + 1) state other := by
  rw [repeatedly]
  exact run_bind_congr same _

theorem repeatedly_of_error (turns : Nat) {error : Error}
    (failed : step state reader = .error error left) :
    repeatedly step (turns + 1) state reader = .error error left := by
  rw [repeatedly, run_bind_of_error failed]

end Loops

end Reader

/-! ## Values -/

open Reader

/-- A nested object is read, inside `level` containers around its object, as it is decoded. -/
structure Reader.Follows (level turns : Nat) (nested : Option NestedDecoder)
    (reader : NestedReader) : Prop where
  full : nested = none → level + 1 = maximumDepth
  room : ∀ decoder ∈ nested, level + 1 < maximumDepth
  object : ∀ (schema : Schema) (storage : schema.Record) (input : Bytes) (outer : List Bytes)
    (wire : WireType) (view : Bytes), outer.length = level → view.length < turns →
      Tracks input outer (fun _ => True) (decodeNested nested wire schema storage view)
        (reader schema storage ⟨input, view :: outer, some wire⟩)

section Values

variable {level turns : Nat} {nested : Option NestedDecoder} {reader : NestedReader}
  {input : Bytes} {outer : List Bytes} {wire : WireType}

/-- A value that is a varint takes at least one byte. -/
theorem Shape.shrinks_decode (shape : Shape) (storage : shape.Value) :
    (shape.decode nested .varint storage).Shrinks := by
  intro source rest value run
  obtain ⟨number, taken⟩ := Scan.discard_eq_ok_iff.mp (takes_decode shape storage run)
  exact Scan.shrinks_varint 64 source rest number taken

theorem Shape.tracks_packable (item : Shape) (packable : item.packable = true)
    (storage : item.Value) (view : Bytes) :
    Tracks input outer (· = some wire) (item.decode nested wire storage view)
      (item.read turns reader storage ⟨input, view :: outer, some wire⟩) := by
  cases item with
  | u32 =>
      rw [Shape.decode, Shape.read, ← bind_assoc]
      refine (tracks_value .unsignedInteger Scan.unsigned view).bind
        fun value rest _ _ holds => tracks_lift ?_ _ rest
      exact holds
  | u64 => exact tracks_value .unsignedInteger Scan.unsigned view
  | boolean => exact tracks_value .boolean (fun _ => Scan.boolean) view
  | _ => cases packable

/-- Another element of a run is read behind those that are there. -/
theorem Reader.tracks_element {item : Shape} (packable : item.packable = true)
    (items : List item.Value) {body : Bytes} (filled : body ≠ []) :
    Tracks input outer (· = some .varint)
      (((fun value => some (items ++ [value])) <$> item.decode none .varint item.blank) body)
      (element (item.read turns reader item.blank) items
        ⟨input, body :: outer, some .varint⟩) := by
  cases body with
  | nil => exact absurd rfl filled
  | cons byte tail =>
      have step : element (item.read turns reader item.blank) items
          ⟨input, (byte :: tail) :: outer, some .varint⟩ =
        ((fun value => some (items ++ [value])) <$> item.read turns reader item.blank)
          ⟨input, (byte :: tail) :: outer, some .varint⟩ := by
        rw [map_eq_pure_bind]
        rfl
      rw [step]
      exact (item.tracks_packable packable item.blank (byte :: tail)).map _

/-- Its first element is the last one of those in front of the rest of a run. -/
theorem append_decodeRun {α : Type} {item : Scan α} (items : List α) {body rest : Bytes}
    {value : α} (taken : item body = .ok value rest) (shorter : rest.length < body.length) :
    List.append items <$> decodeRun item body =
      List.append (items ++ [value]) <$> decodeRun item rest := by
  have filled : body ≠ [] := List.ne_nil_of_length_pos (Nat.zero_lt_of_lt shorter)
  rw [decodeRun, List.isEmpty_eq_false_iff.mpr filled, if_neg Bool.false_ne_true, taken]
  simp only [if_pos shorter]
  cases decodeRun item rest with
  | error error => rfl
  | ok values => exact congrArg Except.ok (List.append_assoc items [value] values).symm

/-- A packed run is read element by element. -/
theorem Reader.tracks_run {item : Shape} (packable : item.packable = true) (count : Nat)
    (items : List item.Value) (body : Bytes) (enough : body.length < count) :
    Tracks input outer (· = some .varint)
      (Scan.lift (List.append items <$>
        decodeRun (item.decode none .varint item.blank) body) [])
      (repeatedly (element (item.read turns reader item.blank)) count items
        ⟨input, body :: outer, some .varint⟩) := by
  induction count generalizing items body with
  | zero => exact absurd enough (Nat.not_lt_zero _)
  | succ count hypothesis =>
      by_cases used : body = []
      · subst used
        have ended : element (item.read turns reader item.blank) items
            ⟨input, [] :: outer, some .varint⟩ = .ok none ⟨input, [] :: outer, some .varint⟩ :=
          rfl
        have whole : List.append items <$> (.ok [] : Except Error (List item.Value)) =
            .ok items := congrArg Except.ok (List.append_nil items)
        rw [repeatedly_of_none count ended, decodeRun, List.isEmpty_nil, if_pos rfl, whole]
        exact .ok rfl
      · have step : Tracks input outer (· = some .varint) _
            (element (item.read turns reader item.blank) items ⟨input, body :: outer, _⟩) :=
          tracks_element packable items used
        cases taken : item.decode none .varint item.blank body with
        | error error rest =>
            rw [run_map_eq_error.mpr taken] at step
            obtain ⟨left, failed⟩ := step.eq_error
            rw [repeatedly_of_error count failed, decodeRun, List.isEmpty_eq_false_iff.mpr used,
              if_neg Bool.false_ne_true, taken]
            exact .error
        | ok value rest =>
            have more : ((fun value => some (items ++ [value])) <$>
                item.decode none .varint item.blank) body = .ok (some (items ++ [value])) rest :=
              run_map_eq_ok.mpr ⟨value, taken, rfl⟩
            rw [more] at step
            obtain ⟨_, rfl, ran⟩ := step.eq_ok
            have shorter := item.shrinks_decode item.blank _ _ _ taken
            rw [repeatedly_of_some count ran, append_decodeRun items taken shorter]
            exact hypothesis (items ++ [value]) rest (by omega)

theorem Reader.tracks_packed {item : Shape} (packable : item.packable = true)
    (follows : Reader.Follows level turns nested reader) (inside : outer.length = level)
    (items : List item.Value) (view : Bytes) (enough : view.length < turns) :
    Tracks input outer (fun _ => True)
      ((do
        let (_, body) ← openBody nested wire
        let run ← Scan.lift (decodeRun (item.decode none .varint item.blank) body)
        pure (List.append items run) : Scan (List item.Value)) view)
      ((do
        Reader.startArray
        let items ← repeatedly (element (item.read turns reader item.blank)) turns items
        Reader.endArray
        pure items : Reading (List item.Value)) ⟨input, view :: outer, some wire⟩) := by
  have scanned : (do
        let (_, body) ← openBody nested wire
        let run ← Scan.lift (decodeRun (item.decode none .varint item.blank) body)
        pure (List.append items run) : Scan (List item.Value)) =
      openBody nested wire >>= fun opened => Scan.lift (List.append items <$>
        decodeRun (item.decode none .varint item.blank) opened.2) := by
    refine bind_congr fun opened => ?_
    change (Scan.lift (decodeRun _ opened.2) >>= fun run => pure (List.append items run)) = _
    cases decodeRun (item.decode none .varint item.blank) opened.2 with
    | ok run => rfl
    | error error => rfl
  rw [scanned]
  refine tracks_container view (fun none => inside ▸ follows.full none)
    (fun decoder reached => inside ▸ follows.room decoder reached)
    fun decoder _ body rest short => ?_
  have run : Tracks input (rest :: outer) (· = some .varint)
      (Scan.lift (List.append items <$> decodeRun (item.decode none .varint item.blank) body) [])
      (repeatedly (element (item.read turns reader item.blank)) turns items
        ⟨input, body :: rest :: outer, some .varint⟩) :=
    tracks_run packable turns items body (Nat.lt_of_le_of_lt short enough)
  have closed := run.close pure
  rw [bind_pure] at closed
  exact closed.weaken fun _ _ => trivial

/-- A value is read as it is decoded. -/
theorem Shape.tracks_read (follows : Reader.Follows level turns nested reader)
    (inside : outer.length = level) :
    (shape : Shape) → (storage : shape.Value) → (view : Bytes) → view.length < turns →
      Tracks input outer (fun _ => True) (shape.decode nested wire storage view)
        (shape.read turns reader storage ⟨input, view :: outer, some wire⟩)
  | .u32, storage, view, _ | .u64, storage, view, _ | .boolean, storage, view, _ =>
      (Shape.tracks_packable _ rfl storage view).weaken fun _ _ => trivial
  | .i32, _, view, _ => by
      rw [Shape.decode, Shape.read, ← bind_assoc]
      exact (tracks_value _ _ view).bind fun value rest _ _ _ => tracks_lift trivial _ rest
  | .i64, _, view, _ => (tracks_value .integer Scan.integer view).weaken fun _ _ => trivial
  | .text, _, view, _ => (tracks_value .string (fun _ => Scan.text) view).weaken fun _ _ => trivial
  | .blob, _, view, _ =>
      (tracks_value .binary (fun _ => Scan.delimited) view).weaken fun _ _ => trivial
  | .fixed size, _, view, _ =>
      (tracks_value .binary (fun _ => Scan.fixedBytes size) view).weaken fun _ _ => trivial
  | .enumeration table, _, view, _ => by
      have ordinal : Tracks input outer (· = some wire)
          ((Scan.lift (Expectation.enumeration.require wire) >>= fun _ => Scan.ordinal) view)
          (Reader.ordinal ⟨input, view :: outer, some wire⟩) :=
        tracks_value .enumeration (fun _ => Scan.ordinal) view
      have read := ordinal.map table.ofOrdinal
      rw [map_bind] at read
      exact read.weaken fun _ _ => trivial
  | .optional item, _, view, enough =>
      (item.tracks_read follows inside item.blank view enough).map some
  | .repeated item, items, view, enough => by
      have pending : (some wire == some WireType.lengthDelimited) = (wire == .lengthDelimited) := by
        cases wire <;> rfl
      have read : Shape.read turns reader (.repeated item) items ⟨input, view :: outer, some wire⟩ =
          (if (item.packable && wire == WireType.lengthDelimited) = true then do
            Reader.startArray
            let items ←
              repeatedly (element (item.read turns reader item.blank)) turns items
            Reader.endArray
            pure items
          else do
            let value ← item.read turns reader item.blank
            pure (List.append items [value])) ⟨input, view :: outer, some wire⟩ := by
        rw [← pending]
        rfl
      rw [read, Shape.decode]
      split
      · rename_i packed
        obtain ⟨packable, _⟩ := Bool.and_eq_true_iff.mp packed
        exact tracks_packed packable follows inside items view enough
      · exact (item.tracks_read follows inside item.blank view enough).bind
          fun value rest _ _ _ => .ok trivial
  | .boxed item, storage, view, enough => item.tracks_read follows inside storage view enough
  | .object schema, storage, view, enough =>
      follows.object schema storage input outer wire view inside enough
  | .nest, storage, view, enough =>
      (follows.object Nest.schema (Nest.toRecord storage) input outer wire view inside
        enough).map Nest.ofRecord

end Values

/-! ## The fields of an object -/

section Fields

variable {level turns : Nat} {nested : Option NestedDecoder} {reader : NestedReader}
  {input : Bytes} {outer : List Bytes} {wire : WireType} {id : UInt32}

/-- The value behind a key is read into the first field with its number, and a number that is not
listed is the number of no field. -/
theorem Schema.tracks_readField (follows : Reader.Follows level turns nested reader)
    (inside : outer.length = level) (input : Bytes) (id : UInt32) (wire : WireType) :
    (schema : Schema) → (draft : schema.Draft) →
      (schema.ids.idxOf? id = none → schema.decodeField? nested wire id draft = none) ∧
      ∀ position : Nat, schema.ids.idxOf? id = some position →
        ∃ scan, schema.decodeField? nested wire id draft = some scan ∧
          ∀ view : Bytes, view.length < turns →
            Tracks input outer (fun _ => True) (scan view)
              (schema.readField turns reader position draft ⟨input, view :: outer, some wire⟩)
  | .nil, _ => ⟨fun _ => rfl, fun _ found => by cases found⟩
  | .field number _ _ shape others, ((value, seen), draft) => by
      obtain ⟨absent, present⟩ := Schema.tracks_readField follows inside input id wire others draft
      rw [Schema.ids, List.idxOf?_cons, Schema.decodeField?]
      by_cases same : number = id
      · rw [if_pos same, if_pos (beq_iff_eq.mpr same)]
        refine ⟨fun missing => (Option.some_ne_none _ missing).elim, fun position found => ?_⟩
        cases found
        refine ⟨_, rfl, fun view enough => ?_⟩
        exact (shape.tracks_read follows inside value view enough).map _
      · rw [if_neg same, if_neg (beq_iff_eq.not.mpr same)]
        refine ⟨fun missing => ?_, fun position found => ?_⟩
        · rw [absent (Option.map_eq_none_iff.mp missing)]
          rfl
        · obtain ⟨place, behind, rfl⟩ := Option.map_eq_some_iff.mp found
          obtain ⟨scan, decoded, tracks⟩ := present place behind
          refine ⟨_, congrArg (Option.map _) decoded, fun view enough => ?_⟩
          exact (tracks view enough).map _

section Next

variable {schema : Schema} {draft : schema.Draft} {pending next : Option WireType}
  {body rest : Bytes}

theorem Schema.readNext_of_key {start after : Reader} {found : Option Nat}
    (ran : Reader.key schema.ids start = .ok found after) :
    schema.readNext turns reader draft start =
      match found with
      | none => .ok none after
      | some position => (some <$> schema.readField turns reader position draft) after := by
  rw [readNext, run_bind_of_ok ran]
  cases found with
  | none => rfl
  | some position => rfl

theorem Schema.readNext_of_seek_error {left : Bytes} {error : Error}
    (sought : Reader.seek schema.ids pending body = (.error error, next, left)) :
    ∃ after, schema.readNext turns reader draft ⟨input, body :: outer, pending⟩ =
      .error error after := by
  have failed : Reader.key schema.ids ⟨input, body :: outer, pending⟩ =
      .error error ⟨input, left :: outer, next⟩ := by
    simp only [Reader.key, sought]
  exact ⟨_, run_bind_of_error failed _⟩

/-- Two bodies in which the same is found. -/
theorem Schema.readNext_congr
    (same : Reader.seek schema.ids pending body = Reader.seek schema.ids next rest) :
    schema.readNext turns reader draft ⟨input, body :: outer, pending⟩ =
      schema.readNext turns reader draft ⟨input, rest :: outer, next⟩ := by
  have keys : Reader.key schema.ids ⟨input, body :: outer, pending⟩ =
      Reader.key schema.ids ⟨input, rest :: outer, next⟩ := by
    simp only [Reader.key, same]
  exact run_bind_congr keys _

end Next

/-- Behind a tag the next field is read when it is listed, and passed over when it is not. -/
theorem Schema.readNext_of_tag (follows : Reader.Follows level turns nested reader)
    (inside : outer.length = level) (input : Bytes) {schema : Schema} (draft : schema.Draft)
    (pending : Option WireType) {body rest : Bytes}
    (tagged : Scan.tag body = .ok (id, wire) rest) (short : rest.length < turns) :
    match schema.decodeOccurrence nested draft id wire rest with
    | .error error _ => ∃ left,
        schema.readNext turns reader draft ⟨input, body :: outer, pending⟩ = .error error left
    | .ok further behind => ∃ next,
        schema.readNext turns reader draft ⟨input, body :: outer, pending⟩ =
            .ok (some further) ⟨input, behind :: outer, next⟩ ∨
          further = draft ∧
            schema.readNext turns reader draft ⟨input, body :: outer, pending⟩ =
              schema.readNext turns reader draft ⟨input, behind :: outer, next⟩ := by
  have sought : seek schema.ids pending body = _ := seek_tagged tagged
  obtain ⟨absent, present⟩ := schema.tracks_readField follows inside input id wire draft
  rw [decodeOccurrence]
  cases found : schema.ids.idxOf? id with
  | none =>
      rw [found] at sought
      rw [absent found]
      cases passed : Scan.skip wire rest with
      | error error left =>
          have failed : ((fun _ => draft) <$> Scan.skip wire) rest = .error error left :=
            run_map_eq_error.mpr passed
          simp only [passed] at sought
          simp only [failed]
          exact Schema.readNext_of_seek_error sought
      | ok result left =>
          have skipped : ((fun _ => draft) <$> Scan.skip wire) rest = .ok draft left :=
            run_map_eq_ok.mpr ⟨(), passed, rfl⟩
          simp only [passed] at sought
          dsimp only
          rw [skipped]
          exact ⟨some wire, .inr ⟨rfl, Schema.readNext_congr sought⟩⟩
  | some position =>
      rw [found] at sought
      obtain ⟨scan, listed, tracks⟩ := present position found
      have read := (tracks rest short).map some
      have keyed : Reader.key schema.ids ⟨input, body :: outer, pending⟩ =
          .ok (some position) ⟨input, rest :: outer, some wire⟩ := by
        simp only [key, sought]
      simp only [listed, Schema.readNext_of_key keyed]
      cases ran : scan rest with
      | error error left =>
          rw [run_map_eq_error.mpr ran] at read
          exact read.eq_error
      | ok further behind =>
          have taken : (some <$> scan) rest = .ok (some further) behind :=
            run_map_eq_ok.mpr ⟨further, ran, rfl⟩
          rw [taken] at read
          obtain ⟨next, _, step⟩ := read.eq_ok
          exact ⟨next, .inl step⟩

/-- The fields of an object are read as they are decoded. -/
theorem Schema.tracks_fields (follows : Reader.Follows level turns nested reader)
    (inside : outer.length = level) (schema : Schema) (count : Nat) (draft : schema.Draft)
    (body : Bytes) (pending : Option WireType) (short : body.length < turns)
    (enough : body.length < count) :
    Tracks input outer (· = none) (Scan.lift (schema.decodeFields nested draft body) [])
      (repeatedly (schema.readNext turns reader) count draft ⟨input, body :: outer, pending⟩) := by
  obtain ⟨count, rfl⟩ := Nat.exists_eq_add_one.mpr (Nat.zero_lt_of_lt enough)
  fun_induction Schema.decodeFields nested schema draft body generalizing count pending with
  | case1 draft body used =>
      cases List.isEmpty_iff.mp used
      have ended : schema.readNext turns reader draft ⟨input, [] :: outer, pending⟩ =
          .ok none ⟨input, [] :: outer, none⟩ := Schema.readNext_of_key key_nil
      rw [repeatedly_of_none count ended]
      exact .ok rfl
  | case2 draft body filled error left refused =>
      have sought : seek schema.ids pending body = (.error error, pending, left) :=
        seek_untagged (Bool.eq_false_iff.mpr filled) refused
      obtain ⟨after, failed⟩ := Schema.readNext_of_seek_error sought
      rw [repeatedly_of_error count failed]
      exact .error
  | case3 draft body filled id wire rest tagged error left refused =>
      have shorter := Scan.shrinks_tag _ _ _ tagged
      have next := Schema.readNext_of_tag follows inside input draft pending tagged (by omega)
      rw [refused] at next
      obtain ⟨after, failed⟩ := next
      rw [repeatedly_of_error count failed]
      exact .error
  | case4 draft body filled id wire rest tagged further behind taken hypothesis =>
      have shorter := Scan.shrinks_tag _ _ _ tagged
      have kept := Schema.narrows_decodeOccurrence _ _ _ _ _ _ _ _ taken
      have next := Schema.readNext_of_tag follows inside input draft pending tagged (by omega)
      rw [taken] at next
      obtain ⟨last, known | ⟨rfl, unknown⟩⟩ := next
      · -- A field that was read has used up a turn, and its tag a byte.
        obtain ⟨count, rfl⟩ := Nat.exists_eq_add_one.mpr (by omega : 0 < count)
        rw [repeatedly_of_some (count + 1) known]
        exact hypothesis last (by omega) count (by omega)
      · rw [repeatedly_congr count unknown]
        exact hypothesis last (by omega) count (by omega)

/-- A body inside another one is read and closed as it is decoded. -/
theorem Schema.tracks_body (follows : Reader.Follows level turns nested reader) (schema : Schema)
    (storage : schema.Record) (body rest : Bytes) (inside : (rest :: outer).length = level)
    (short : body.length < turns) :
    Tracks input outer (fun _ => True) (Scan.lift (schema.decodeBody nested storage body) rest)
      ((do
        let draft ← repeatedly (schema.readNext turns reader) turns (schema.draft storage)
        Reader.endObject
        MonadExcept.ofExcept (schema.finish draft)) ⟨input, body :: rest :: outer, none⟩) :=
  ((schema.tracks_fields follows inside turns (schema.draft storage) body none short short).close
    schema.finish).weaken fun _ _ => trivial

end Fields

/-! ## Objects inside objects -/

namespace Schema

/-- The decoder of the objects inside an object inside which `room` more containers may be
open. -/
def decoderAt : Nat → Option NestedDecoder
  | 0 => none
  | room + 1 => some (decodeAt room)

theorem decodeAt_eq (room : Nat) : decodeAt room = decodeBody (decoderAt room) := by
  cases room with
  | zero => rfl
  | succ room => rfl

end Schema

/-- With as many levels as there is room for containers, and one more, a nested object is read as it
is decoded, or refused as it is by the decoder. -/
theorem Reader.follows_readObject (deeper : NestedReader) (turns room : Nat) {level levels : Nat}
    (full : level + 1 + room = maximumDepth) (enough : room < levels) :
    Reader.Follows level turns (Schema.decoderAt room) (Schema.readObject deeper turns levels) := by
  induction room generalizing level levels with
  | zero =>
      obtain ⟨levels, rfl⟩ := Nat.exists_eq_add_one.mpr enough
      refine ⟨fun _ => full, nofun, fun schema storage input outer wire view inside _ => ?_⟩
      exact tracks_container view (fun _ => inside ▸ full) nofun nofun
  | succ room hypothesis =>
      obtain ⟨levels, rfl⟩ := Nat.exists_eq_add_one.mpr (Nat.zero_lt_of_lt enough)
      have follows : Reader.Follows (level + 1) turns (Schema.decoderAt room)
          (Schema.readObject deeper turns levels) := hypothesis (by omega) (by omega)
      refine ⟨nofun, fun _ _ => by omega,
        fun schema storage input outer wire view inside short => ?_⟩
      refine tracks_container view nofun (fun _ _ => by omega)
        fun decoder reached body rest within => ?_
      cases reached
      rw [Schema.decodeAt_eq]
      exact schema.tracks_body follows storage body rest (congrArg (· + 1) inside)
        (Nat.lt_of_le_of_lt within short)

/-- **A reader that is driven over an object gives the object that is decoded.**  Whatever the bytes
are, and whatever is there to read into, what is read is what `Schema.decodeInto` gives, and when
that refuses the bytes, the reader fails with the same error.  It does not matter how many levels of
objects are read, as long as there are more than can be open at once, nor what is done beyond them,
nor how many turns a loop may take, as long as there are more than bytes. -/
theorem Schema.outcome_readObject (deeper : NestedReader) (levels turns : Nat) (schema : Schema)
    (storage : schema.Record) (input : Bytes) (enough : input.length < turns) :
    outcome ((do
      let record ← schema.readObject deeper turns (maximumDepth + 1 + levels) storage
      Reader.checkComplete
      pure record) (Reader.ofBytes input)) = schema.decodeInto storage input := by
  have count : maximumDepth + 1 + levels = maximumDepth + levels + 1 := by omega
  have follows : Reader.Follows 0 turns (Schema.decoderAt (maximumDepth - 1))
      (Schema.readObject deeper turns (maximumDepth + levels)) :=
    follows_readObject deeper turns (maximumDepth - 1) (by decide)
      (by have := maximumDepth_pos; omega)
  have fields : Tracks [] [] (· = none) _ (repeatedly _ turns _ ⟨[], [input], none⟩) :=
    schema.tracks_fields follows rfl turns (schema.draft storage) input none enough enough
  have decoded : schema.decodeInto storage input =
      schema.decodeFields (decoderAt (maximumDepth - 1)) (schema.draft storage) input >>=
        schema.finish := by
    rw [decodeInto, decodeAt_eq, decodeBody]
  rw [count, Schema.readObject, decoded]
  simp only [bind_assoc]
  rw [run_bind_of_ok (startObject_root input)]
  cases ended : schema.decodeFields (decoderAt (maximumDepth - 1)) (schema.draft storage) input with
  | error error =>
      rw [ended] at fields
      obtain ⟨left, ran⟩ := fields.eq_error
      rw [run_bind_of_error ran]
      rfl
  | ok draft =>
      rw [ended] at fields
      obtain ⟨_, _, ran⟩ := fields.eq_ok
      rw [run_bind_of_ok ran, run_bind_of_ok endObject_nil]
      change _ = schema.finish draft
      cases schema.finish draft with
      | error error => rfl
      | ok record => rfl

end SecurityKey
