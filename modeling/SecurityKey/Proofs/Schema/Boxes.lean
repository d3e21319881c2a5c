import Mathlib.Logic.Equiv.List
import Mathlib.Logic.Equiv.Option
import SecurityKey.Proofs.Schema.FieldByField
import SecurityKey.Schema.Encode

/-!
# Boxes

A value behind an indirection is on the wire what it is without the indirection.  A schema with
boxes and the same schema in which some of them are taken off, at any depth, are related by a
`Schema.Boxing`; their objects correspond one to one (`Schema.Boxing.equiv`).

They are written alike.  They are read alike as well, with one exception: the elements of a list
that are scalars may come in packed runs, but not once they are boxed.  A body that holds such a
run (`Schema.Boxing.HoldsRun`) is never read with the boxes, and on every other body it makes no
difference whether the boxes are there.  The main statement is `Schema.decode_boxing`.
-/

set_option autoImplicit false

namespace SecurityKey

/-! ## Boxes that are taken off -/

mutual
/-- A shape, and the same shape in which some boxes are taken off. -/
inductive Shape.Boxing : Shape → Shape → Type where
  | same (shape : Shape) : Shape.Boxing shape shape
  | off {boxed plain : Shape} (inner : Shape.Boxing boxed plain) :
      Shape.Boxing (.boxed boxed) plain
  | boxed {boxed plain : Shape} (inner : Shape.Boxing boxed plain) :
      Shape.Boxing (.boxed boxed) (.boxed plain)
  | optional {boxed plain : Shape} (inner : Shape.Boxing boxed plain) :
      Shape.Boxing (.optional boxed) (.optional plain)
  | repeated {boxed plain : Shape} (inner : Shape.Boxing boxed plain) :
      Shape.Boxing (.repeated boxed) (.repeated plain)
  | object {boxed plain : Schema} (fields : Schema.Boxing boxed plain) :
      Shape.Boxing (.object boxed) (.object plain)

/-- A schema, and the same schema in which some boxes are taken off. -/
inductive Schema.Boxing : Schema → Schema → Type where
  | same (schema : Schema) : Schema.Boxing schema schema
  | field (id : UInt32) (name : String) (required : Bool) {boxed plain : Shape}
      {others plainOthers : Schema} (first : Shape.Boxing boxed plain)
      (rest : Schema.Boxing others plainOthers) :
      Schema.Boxing (.field id name required boxed others)
        (.field id name required plain plainOthers)
end

mutual
/-- The value without the boxes that are taken off. -/
def Shape.Boxing.equiv : {boxed plain : Shape} → Shape.Boxing boxed plain →
    boxed.Value ≃ plain.Value
  | _, _, .same _ => Equiv.refl _
  | _, _, .off inner => inner.equiv
  | _, _, .boxed inner => inner.equiv
  | _, _, .optional inner => Equiv.optionCongr inner.equiv
  | _, _, .repeated inner => Equiv.listEquivOfEquiv inner.equiv
  | _, _, .object fields => fields.equiv

/-- The object without the boxes that are taken off. -/
def Schema.Boxing.equiv : {boxed plain : Schema} → Schema.Boxing boxed plain →
    boxed.Record ≃ plain.Record
  | _, _, .same _ => Equiv.refl _
  | _, _, .field _ _ _ first rest => Equiv.prodCongr first.equiv rest.equiv
end

mutual
/-- A box makes no difference before anything is read. -/
theorem Shape.Boxing.equiv_blank : {boxed plain : Shape} →
    (boxing : Shape.Boxing boxed plain) → boxing.equiv boxed.blank = plain.blank
  | _, _, .same _ => rfl
  | _, _, .off inner => inner.equiv_blank
  | _, _, .boxed inner => inner.equiv_blank
  | _, _, .optional _ => rfl
  | _, _, .repeated _ => rfl
  | _, _, .object fields => fields.equiv_blank

theorem Schema.Boxing.equiv_blank : {boxed plain : Schema} →
    (boxing : Schema.Boxing boxed plain) → boxing.equiv boxed.blank = plain.blank
  | _, _, .same _ => rfl
  | _, _, .field _ _ _ first rest => Prod.ext first.equiv_blank rest.equiv_blank
end

/-! ## Writing -/

section Writing

/-- An encoder writes objects alike with and without the boxes. -/
def WritesAlike (encode : NestedEncoder) : Prop :=
  ∀ {boxed plain : Schema} (fields : Schema.Boxing boxed plain) (record : boxed.Record),
    encode plain (fields.equiv record) = encode boxed record

theorem Shape.Boxing.isPresent_equiv : {boxed plain : Shape} →
    (boxing : Shape.Boxing boxed plain) → (value : boxed.Value) →
      plain.isPresent (boxing.equiv value) = boxed.isPresent value
  | _, _, .same _, _ => rfl
  | _, _, .off inner, value => inner.isPresent_equiv value
  | _, _, .boxed inner, value => inner.isPresent_equiv value
  | _, _, .optional _, none => rfl
  | _, _, .optional _, some _ => rfl
  | _, _, .repeated _, [] => rfl
  | _, _, .repeated _, _ :: _ => rfl
  | _, _, .object _, _ => rfl

variable {encoder : Option NestedEncoder} (alike : ∀ encode ∈ encoder, WritesAlike encode)
include alike

theorem Shape.Boxing.encode_equiv (id : UInt32) : {boxed plain : Shape} →
    (boxing : Shape.Boxing boxed plain) → (value : boxed.Value) →
      plain.encode encoder id (boxing.equiv value) = boxed.encode encoder id value
  | _, _, .same _, _ => rfl
  | _, _, .off inner, value => inner.encode_equiv id value
  | _, _, .boxed inner, value => inner.encode_equiv id value
  | _, _, .optional _, none => rfl
  | _, _, .optional inner, some value => inner.encode_equiv id value
  | _, _, .repeated inner, items => by
      have elements : ∀ items : List _,
          List.mapM (Shape.encode encoder id _) (items.map inner.equiv) =
            List.mapM (Shape.encode encoder id _) items := by
        intro items
        rw [List.mapM_map]
        exact congrArg (List.mapM · items) (funext fun item => inner.encode_equiv id item)
      exact congrArg (· >>= fun fields => pure fields.flatten) (elements items)
  | _, _, .object fields, record => by
      cases encoder with
      | none => rfl
      | some encode =>
          exact congrArg (· >>= fun body => pure (Bytes.ofDelimitedField id body))
            (alike encode rfl fields record)

theorem Schema.Boxing.encodeFields_equiv : {boxed plain : Schema} →
    (boxing : Schema.Boxing boxed plain) → (record : boxed.Record) →
      plain.encodeFields encoder (boxing.equiv record) = boxed.encodeFields encoder record
  | _, _, .same _, _ => rfl
  | _, _, .field id _ required first rest, (value, record) => by
      have present := first.isPresent_equiv value
      have written := first.encode_equiv alike id value
      have others := rest.encodeFields_equiv record
      change Schema.encodeFields encoder (.field _ _ _ _ _)
        (first.equiv value, rest.equiv record) = _
      rw [Schema.encodeFields, Schema.encodeFields, present, written, others]

end Writing

/-- Boxes do not show in what is written, at any depth. -/
theorem writesAlike_encodeAt (room : Nat) : WritesAlike (Schema.encodeAt room) := by
  induction room with
  | zero =>
      intro boxed plain fields record
      refine fields.encodeFields_equiv (fun encode reached => ?_) record
      cases reached
  | succ room hypothesis =>
      intro boxed plain fields record
      refine fields.encodeFields_equiv (fun encode reached => ?_) record
      cases reached
      exact hypothesis

/-! ## Runs of elements that are boxed -/

/-- The shape of the first field with a number, with and without the boxes. -/
inductive Schema.Boxing.Lists (id : UInt32) {a b : Shape} (first : Shape.Boxing a b) :
    {boxed plain : Schema} → Schema.Boxing boxed plain → Prop where
  | here {name : String} {required : Bool} {others plainOthers : Schema}
      (rest : Schema.Boxing others plainOthers) :
      Schema.Boxing.Lists id first (.field id name required first rest)
  | there {number : UInt32} {name : String} {required : Bool} {another plain : Shape}
      {others plainOthers : Schema} (other : number ≠ id) (before : Shape.Boxing another plain)
      {rest : Schema.Boxing others plainOthers} (lists : Schema.Boxing.Lists id first rest) :
      Schema.Boxing.Lists id first (.field number name required before rest)

mutual
/-- Behind the tag of a length-delimited occurrence there is a packed run whose elements are
boxed, or an object that holds one. -/
inductive Shape.Boxing.HoldsRun : {boxed plain : Shape} → Shape.Boxing boxed plain → Bytes →
    Prop where
  | run {boxed plain : Shape} {inner : Shape.Boxing boxed plain} {source : Bytes}
      (scalars : plain.packable = true) (boxes : boxed.packable = false) :
      Shape.Boxing.HoldsRun (.repeated inner) source
  | off {boxed plain : Shape} {inner : Shape.Boxing boxed plain} {source : Bytes}
      (holds : inner.HoldsRun source) : Shape.Boxing.HoldsRun (.off inner) source
  | boxed {boxed plain : Shape} {inner : Shape.Boxing boxed plain} {source : Bytes}
      (holds : inner.HoldsRun source) : Shape.Boxing.HoldsRun (.boxed inner) source
  | optional {boxed plain : Shape} {inner : Shape.Boxing boxed plain} {source : Bytes}
      (holds : inner.HoldsRun source) : Shape.Boxing.HoldsRun (.optional inner) source
  | repeated {boxed plain : Shape} {inner : Shape.Boxing boxed plain} {source : Bytes}
      (holds : inner.HoldsRun source) : Shape.Boxing.HoldsRun (.repeated inner) source
  | object {boxed plain : Schema} {fields : Schema.Boxing boxed plain} {body : Bytes}
      (fits : body.length < 2 ^ 64) (holds : fields.HoldsRun body) (rest : Bytes) :
      Shape.Boxing.HoldsRun (.object fields) (Varint.encode body.length ++ body ++ rest)

/-- Behind some complete fields of a body there is a packed run whose elements are boxed, or an
object that holds one. -/
inductive Schema.Boxing.HoldsRun : {boxed plain : Schema} → Schema.Boxing boxed plain → Bytes →
    Prop where
  | occurrence {boxed plain : Schema} {fields : Schema.Boxing boxed plain} {id : UInt32}
      {a b : Shape} {first : Shape.Boxing a b} {source : Bytes} (before : List WireField)
      (small : id.toNat < 2 ^ 29) (lists : fields.Lists id first)
      (holds : first.HoldsRun source) :
      Schema.Boxing.HoldsRun fields
        (WireField.join before ++ (Varint.encode (WireType.lengthDelimited.tag id) ++ source))
end

/-- The refusal of a packed run whose elements are boxed. -/
inductive RunRefusal : Error → Prop where
  | number : RunRefusal (.schema (.unexpectedWireType .unsignedInteger 2))
  | truth : RunRefusal (.schema (.unexpectedWireType .boolean 2))

/-- What is read with the boxes is what is read without them, or a run is refused. -/
def Transparent {α β : Type} (unbox : α → β) (holds : Prop) (result : Except Error α)
    (plain : Except Error β) : Prop :=
  unbox <$> result = plain ∨ holds ∧ ∃ error, result = .error error ∧ RunRefusal error

/-- The same for what a scan comes to, and for what it leaves. -/
def Scan.Transparent {α β : Type} (unbox : α → β) (holds : Prop) (source : Bytes)
    (scan : Scan α) (plain : Scan β) : Prop :=
  (unbox <$> scan) source = plain source ∨
    holds ∧ ∃ error left, scan source = .error error left ∧ RunRefusal error

namespace Scan.Transparent

variable {α β γ δ : Type} {unbox : α → β} {holds : Prop} {source : Bytes} {scan : Scan α}
  {plain : Scan β}

theorem mono (transparent : Scan.Transparent unbox holds source scan plain) {others : Prop}
    (weaker : holds → others) : Scan.Transparent unbox others source scan plain := by
  rcases transparent with alike | ⟨held, refused⟩
  · exact .inl alike
  · exact .inr ⟨weaker held, refused⟩

theorem map (transparent : Scan.Transparent unbox holds source scan plain) {made : α → γ}
    {madePlain : β → δ} {unboxMade : γ → δ}
    (commutes : ∀ value, unboxMade (made value) = madePlain (unbox value)) :
    Scan.Transparent unboxMade holds source (made <$> scan) (madePlain <$> plain) := by
  rcases transparent with alike | ⟨held, error, left, failed, refusal⟩
  · refine .inl ?_
    have composed : unboxMade <$> made <$> scan = madePlain <$> unbox <$> scan := by
      rw [Functor.map_map, Functor.map_map]
      exact congrArg (· <$> scan) (funext commutes)
    rw [composed]
    change EStateM.map madePlain (unbox <$> scan) source = EStateM.map madePlain plain source
    rw [EStateM.map, EStateM.map, alike]
  · exact .inr ⟨held, error, left, run_map_eq_error.mpr failed, refusal⟩

/-- Nothing is in the way where no box is taken off. -/
theorem refl (scan : Scan α) (source : Bytes) (holds : Prop) :
    Scan.Transparent id holds source scan scan :=
  .inl (congrFun (id_map scan) source)

end Scan.Transparent

/-! ## Values that are read -/

/-- A shape whose occurrences may be packed has no box that could be taken off. -/
theorem Shape.Boxing.eq_same_of_packable {boxed plain : Shape} (boxing : Shape.Boxing boxed plain)
    (packable : boxed.packable = true) : ∃ same : boxed = plain, same ▸ .same boxed = boxing := by
  cases boxing with
  | same => exact ⟨rfl, rfl⟩
  | _ => cases packable

section Reading

variable {nested : Option NestedDecoder} {wire : WireType}

/-- A decoder reads objects alike with and without the boxes, unless they hold a run. -/
def ReadsAlike (decode : NestedDecoder) : Prop :=
  ∀ {boxed plain : Schema} (fields : Schema.Boxing boxed plain) (storage : boxed.Record)
    (body : Bytes),
    Transparent fields.equiv (fields.HoldsRun body) (decode boxed storage body)
      (decode plain (fields.equiv storage) body)

/-- A run is refused where a single scalar is expected. -/
theorem refuses_scalar (nested : Option NestedDecoder) {shape : Shape}
    (scalar : shape.packable = true) (storage : shape.Value) (source : Bytes) :
    ∃ error left, shape.decode nested .lengthDelimited storage source = .error error left ∧
      RunRefusal error := by
  cases shape with
  | u32 | u64 => exact ⟨_, source, rfl, .number⟩
  | boolean => exact ⟨_, source, rfl, .truth⟩
  | _ => cases scalar

/-- A run is refused where an element with a box is expected. -/
theorem Shape.Boxing.refuses_run (nested : Option NestedDecoder) :
    {boxed plain : Shape} → Shape.Boxing boxed plain → plain.packable = true →
      (storage : boxed.Value) → (source : Bytes) →
        ∃ error left, boxed.decode nested .lengthDelimited storage source = .error error left ∧
          RunRefusal error
  | _, _, .same _, scalars, storage, source => refuses_scalar nested scalars storage source
  | _, _, .off inner, scalars, storage, source => inner.refuses_run nested scalars storage source
  | _, _, .boxed _, scalars, _, _ | _, _, .optional _, scalars, _, _
  | _, _, .repeated _, scalars, _, _ | _, _, .object _, scalars, _, _ => by cases scalars

theorem transparent_decodeNested (alike : ∀ decode ∈ nested, ReadsAlike decode)
    {boxed plain : Schema} (fields : Schema.Boxing boxed plain) (storage : boxed.Record)
    (source : Bytes) :
    Scan.Transparent fields.equiv
      (wire = .lengthDelimited ∧ (Shape.Boxing.object fields).HoldsRun source) source
      (decodeNested nested wire boxed storage)
      (decodeNested nested wire plain (fields.equiv storage)) := by
  cases nested with
  | none => exact .inl rfl
  | some decode =>
      cases ran : openBody (some decode) wire source with
      | error error left =>
          have failed := run_bind_of_error ran fun opened =>
            Scan.lift (opened.1 boxed storage opened.2)
          exact .inl ((run_map_eq_error.mpr failed).trans (run_bind_of_error ran _).symm)
      | ok opened rest =>
          obtain ⟨decoder, body⟩ := opened
          obtain ⟨rfl, rfl, fits, rfl⟩ := openBody_eq_ok ran
          have behind : ∀ (schema : Schema) (storage : schema.Record),
              decodeNested (some decoder) .lengthDelimited schema storage
                (Varint.encode body.length ++ body ++ rest) =
                  Scan.lift (decoder schema storage body) rest :=
            fun schema storage => run_bind_of_ok ran fun opened =>
              Scan.lift (opened.1 schema storage opened.2)
          rcases alike decoder rfl fields storage body with same | ⟨holds, error, failed, refusal⟩
          · refine .inl ?_
            rw [behind, ← same]
            change EStateM.map _ (decodeNested _ _ boxed storage) _ = _
            rw [EStateM.map, behind]
            cases decoder boxed storage body with
            | ok record => rfl
            | error error => rfl
          · refine .inr ⟨⟨rfl, .object fits holds rest⟩, error, rest, ?_, refusal⟩
            rw [behind, failed]
            rfl

theorem Shape.Boxing.transparent_decode (alike : ∀ decode ∈ nested, ReadsAlike decode)
    (wire : WireType) : {boxed plain : Shape} → (boxing : Shape.Boxing boxed plain) →
      (storage : boxed.Value) → (source : Bytes) →
        Scan.Transparent boxing.equiv (wire = .lengthDelimited ∧ boxing.HoldsRun source) source
          (boxed.decode nested wire storage) (plain.decode nested wire (boxing.equiv storage))
  | _, _, .same _, _, _ => .refl _ _ _
  | _, _, .off inner, storage, source =>
      (inner.transparent_decode alike wire storage source).mono (And.imp_right .off)
  | _, _, .boxed inner, storage, source =>
      (inner.transparent_decode alike wire storage source).mono (And.imp_right .boxed)
  | _, _, .object fields, storage, source => transparent_decodeNested alike fields storage source
  | _, _, @Shape.Boxing.optional item _ inner, _, source => by
      have element := inner.transparent_decode alike wire item.blank source
      rw [inner.equiv_blank] at element
      exact (element.mono (And.imp_right .optional)).map fun _ => rfl
  | _, _, @Shape.Boxing.repeated item other inner, items, source => by
      by_cases packable : item.packable = true
      · obtain ⟨rfl, rfl⟩ := inner.eq_same_of_packable packable
        have unboxed : ⇑(Shape.Boxing.repeated (.same item)).equiv = id := funext List.map_id
        rw [unboxed]
        exact .refl _ _ _
      · have single : (item.packable && wire == .lengthDelimited) = false :=
          Bool.and_eq_false_imp.mpr fun packed => absurd packed packable
        have boxes : item.packable = false := Bool.eq_false_iff.mpr packable
        rw [Shape.decode, single, if_neg Bool.false_ne_true, Shape.decode]
        split
        · rename_i packed
          obtain ⟨scalars, same⟩ := Bool.and_eq_true_iff.mp packed
          obtain rfl : wire = .lengthDelimited := beq_iff_eq.mp same
          obtain ⟨error, left, failed, refusal⟩ :=
            inner.refuses_run nested scalars item.blank source
          exact .inr ⟨⟨rfl, .run scalars boxes⟩, error, left, run_bind_of_error failed _, refusal⟩
        · have element := inner.transparent_decode alike wire item.blank source
          rw [inner.equiv_blank] at element
          have appended : Scan.Transparent (List.map inner.equiv) _ source
              ((fun value => List.append items [value]) <$> item.decode nested wire item.blank)
              ((fun value => List.append (List.map inner.equiv items) [value]) <$>
                other.decode nested wire other.blank) :=
            element.map fun value => List.map_append
          rw [← bind_pure_comp, ← bind_pure_comp] at appended
          exact appended.mono (And.imp_right .repeated)

/-! ## Objects that are read -/

namespace Schema.Boxing

/-- The draft without the boxes that are taken off. -/
def unboxed : {boxed plain : Schema} → Schema.Boxing boxed plain → boxed.Draft → plain.Draft
  | _, _, .same _, draft => draft
  | _, _, .field _ _ _ first rest, ((value, seen), draft) =>
      ((first.equiv value, seen), rest.unboxed draft)

theorem unboxed_draft : {boxed plain : Schema} → (fields : Schema.Boxing boxed plain) →
    (record : boxed.Record) →
      fields.unboxed (boxed.draft record) = plain.draft (fields.equiv record)
  | _, _, .same _, _ => rfl
  | _, _, .field _ _ _ first rest, (value, record) =>
      congrArg (Prod.mk (first.equiv value, false)) (rest.unboxed_draft record)

theorem finish_unboxed : {boxed plain : Schema} → (fields : Schema.Boxing boxed plain) →
    (draft : boxed.Draft) →
      plain.finish (fields.unboxed draft) = fields.equiv <$> boxed.finish draft
  | _, _, .same schema, draft => (id_map (schema.finish draft)).symm
  | _, _, .field _ _ required first rest, ((value, seen), draft) => by
      rw [unboxed, Schema.finish, Schema.finish, rest.finish_unboxed draft]
      split
      · rfl
      · cases Schema.finish _ draft with
        | ok record => rfl
        | error error => rfl

/-- A run of elements that are boxed stands in the field with this number. -/
def HoldsRunAt {boxed plain : Schema} (fields : Schema.Boxing boxed plain) (id : UInt32)
    (source : Bytes) : Prop :=
  ∃ (a b : Shape) (first : Shape.Boxing a b), fields.Lists id first ∧ first.HoldsRun source

theorem transparent_decodeField? (alike : ∀ decode ∈ nested, ReadsAlike decode)
    (wire : WireType) (id : UInt32) : {boxed plain : Schema} →
      (fields : Schema.Boxing boxed plain) → (draft : boxed.Draft) →
      (boxed.decodeField? nested wire id draft = none ∧
        plain.decodeField? nested wire id (fields.unboxed draft) = none) ∨
      ∃ scan other, boxed.decodeField? nested wire id draft = some scan ∧
        plain.decodeField? nested wire id (fields.unboxed draft) = some other ∧
        ∀ source, Scan.Transparent fields.unboxed
          (wire = .lengthDelimited ∧ fields.HoldsRunAt id source) source scan other
  | _, _, .same schema, draft => by
      cases found : schema.decodeField? nested wire id draft with
      | none => exact .inl ⟨rfl, found⟩
      | some scan => exact .inr ⟨scan, scan, rfl, found, fun source => .refl _ _ _⟩
  | _, _, .field number _ _ first rest, ((value, seen), draft) => by
      rw [Schema.decodeField?, unboxed, Schema.decodeField?]
      by_cases same : number = id
      · subst same
        rw [if_pos rfl, if_pos rfl]
        refine .inr ⟨_, _, rfl, rfl, fun source => ?_⟩
        have read := first.transparent_decode alike wire value source
        refine (read.mono (And.imp_right fun holds => ?_)).map fun _ => rfl
        exact ⟨_, _, first, .here rest, holds⟩
      · rw [if_neg same, if_neg same]
        rcases rest.transparent_decodeField? alike wire id draft with
          ⟨none, others⟩ | ⟨scan, other, found, others, transparent⟩
        · rw [none, others]
          exact .inl ⟨rfl, rfl⟩
        · rw [found, others]
          refine .inr ⟨_, _, rfl, rfl, fun source => ?_⟩
          refine ((transparent source).mono (And.imp_right ?_)).map fun _ => rfl
          rintro ⟨a, b, last, lists, holds⟩
          exact ⟨a, b, last, .there same first lists, holds⟩

theorem transparent_decodeOccurrence (alike : ∀ decode ∈ nested, ReadsAlike decode)
    (wire : WireType) (id : UInt32) {boxed plain : Schema} (fields : Schema.Boxing boxed plain)
    (draft : boxed.Draft) (source : Bytes) :
    Scan.Transparent fields.unboxed (wire = .lengthDelimited ∧ fields.HoldsRunAt id source) source
      (boxed.decodeOccurrence nested draft id wire)
      (plain.decodeOccurrence nested (fields.unboxed draft) id wire) := by
  rw [Schema.decodeOccurrence, Schema.decodeOccurrence]
  rcases fields.transparent_decodeField? alike wire id draft with
    ⟨none, others⟩ | ⟨scan, other, found, others, transparent⟩
  · rw [none, others]
    exact (Scan.Transparent.refl (Scan.skip wire) source _).map fun _ => rfl
  · rw [found, others]
    exact transparent source

/-- A run is found behind fields that come before it. -/
theorem HoldsRun.behind {boxed plain : Schema} {fields : Schema.Boxing boxed plain} {rest : Bytes}
    (holds : fields.HoldsRun rest) (field : WireField) :
    fields.HoldsRun (field.bytes ++ rest) := by
  obtain ⟨before, small, lists, holds⟩ := holds
  rw [← List.append_assoc, ← WireField.join_cons]
  exact .occurrence (field :: before) small lists holds

/-- Reading field by field, until the body ends or a run is refused. -/
theorem transparent_decodeFields (alike : ∀ decode ∈ nested, ReadsAlike decode)
    {boxed plain : Schema} (fields : Schema.Boxing boxed plain) (draft : boxed.Draft)
    (body : Bytes) :
    Transparent fields.unboxed (fields.HoldsRun body) (boxed.decodeFields nested draft body)
      (plain.decodeFields nested (fields.unboxed draft) body) := by
  induction counted : body.length using Nat.strong_induction_on generalizing draft body with
  | h length hypothesis =>
      by_cases filled : body.isEmpty = true
      · rw [List.isEmpty_iff.mp filled, decodeFields_nil, decodeFields_nil]
        exact .inl rfl
      have filled : body.isEmpty = false := Bool.eq_false_iff.mpr filled
      cases tagged : Scan.tag body with
      | error error left =>
          rw [decodeFields_untagged _ filled tagged, decodeFields_untagged _ filled tagged]
          exact .inl rfl
      | ok found rest =>
          obtain ⟨id, wire⟩ := found
          obtain ⟨small, source⟩ := Scan.tag_eq_ok_iff.mp tagged
          rw [decodeFields_tagged _ tagged, decodeFields_tagged _ tagged]
          rcases fields.transparent_decodeOccurrence alike wire id draft rest with
            same | ⟨⟨rfl, a, b, first, lists, holds⟩, error, left, failed, refusal⟩
          · rw [← same]
            cases ran : boxed.decodeOccurrence nested draft id wire rest with
            | error error left =>
                rw [run_map_eq_error.mpr ran]
                exact .inl rfl
            | ok taken others =>
                have shorter : others.length < length := counted ▸
                  Nat.lt_of_le_of_lt (narrows_decodeOccurrence _ _ _ _ _ _ _ _ ran)
                    (Scan.shrinks_tag _ _ _ tagged)
                obtain ⟨payload, carried, rfl⟩ :=
                  Scan.skip_eq_ok_iff.mp (takes_decodeOccurrence boxed draft id ran)
                have field : body = WireField.bytes ⟨id, wire, payload, small, carried⟩ ++ others :=
                  source.trans (List.append_assoc _ _ _).symm
                rw [run_map_eq_ok.mpr ⟨taken, ran, rfl⟩]
                rcases hypothesis _ shorter taken others rfl with alike | ⟨holds, refused⟩
                · exact .inl alike
                · exact .inr ⟨field ▸ holds.behind _, refused⟩
          · rw [failed]
            refine .inr ⟨?_, error, rfl, refusal⟩
            rw [source]
            exact .occurrence [] small lists holds

theorem transparent_decodeBody (alike : ∀ decode ∈ nested, ReadsAlike decode) {boxed plain : Schema}
    (fields : Schema.Boxing boxed plain) (storage : boxed.Record) (body : Bytes) :
    Transparent fields.equiv (fields.HoldsRun body) (boxed.decodeBody nested storage body)
      (plain.decodeBody nested (fields.equiv storage) body) := by
  rw [Schema.decodeBody, Schema.decodeBody, ← fields.unboxed_draft]
  rcases fields.transparent_decodeFields alike (boxed.draft storage) body with
    same | ⟨holds, error, failed, refusal⟩
  · rw [← same]
    refine .inl ?_
    cases boxed.decodeFields nested (boxed.draft storage) body with
    | error error => rfl
    | ok draft => exact (fields.finish_unboxed draft).symm
  · exact .inr ⟨holds, error, bind_of_error failed, refusal⟩

end Schema.Boxing

end Reading

/-- Boxes do not show in what is read, at any depth, but in runs that are refused. -/
theorem readsAlike_decodeAt (room : Nat) : ReadsAlike (Schema.decodeAt room) :=
  Schema.decodeAt_induction ReadsAlike
    (fun _ alike _ _ fields storage body => fields.transparent_decodeBody alike storage body) room

/-! ## Bodies that are refused -/

section Refused

variable {nested : Option NestedDecoder}

/-- A decoder reads no object that holds a run of elements that are boxed. -/
def RefusesRuns (decode : NestedDecoder) : Prop :=
  ∀ {boxed plain : Schema} {fields : Schema.Boxing boxed plain} {body : Bytes},
    fields.HoldsRun body →
      ∀ storage : boxed.Record, ∃ error, decode boxed storage body = .error error

theorem Shape.Boxing.error_of_holdsRun (refuses : ∀ decode ∈ nested, RefusesRuns decode)
    {source : Bytes} : {boxed plain : Shape} → (boxing : Shape.Boxing boxed plain) →
      boxing.HoldsRun source → (storage : boxed.Value) →
        ∃ error left, boxed.decode nested .lengthDelimited storage source = .error error left
  | _, _, .same _, holds, _ => by cases holds
  | _, _, .off inner, .off holds, storage => inner.error_of_holdsRun refuses holds storage
  | _, _, .boxed inner, .boxed holds, storage => inner.error_of_holdsRun refuses holds storage
  | _, _, @Shape.Boxing.optional item _ inner, .optional holds, _ => by
      obtain ⟨error, left, failed⟩ := inner.error_of_holdsRun refuses holds item.blank
      exact ⟨error, left, run_map_eq_error.mpr failed⟩
  | _, _, @Shape.Boxing.repeated item _ inner, holds, items => by
      have element : item.packable = false ∧ ∃ error left,
          item.decode nested .lengthDelimited item.blank source = .error error left := by
        cases holds with
        | run scalars boxes =>
            obtain ⟨error, left, failed, _⟩ := inner.refuses_run nested scalars item.blank source
            exact ⟨boxes, error, left, failed⟩
        | repeated holds =>
            refine ⟨Bool.eq_false_iff.mpr fun packable => ?_,
              inner.error_of_holdsRun refuses holds item.blank⟩
            obtain ⟨rfl, rfl⟩ := inner.eq_same_of_packable packable
            cases holds
      obtain ⟨single, error, left, failed⟩ := element
      rw [Shape.decode, single, Bool.false_and, if_neg Bool.false_ne_true]
      exact ⟨error, left, run_bind_of_error failed _⟩
  | _, _, .object fields, .object fits holds rest, storage => by
      cases nested with
      | none => exact ⟨tooDeep, _, rfl⟩
      | some decode =>
          obtain ⟨error, failed⟩ := refuses decode rfl holds storage
          have settles := settles_decodeNested decode _ storage fits
          rw [failed] at settles
          exact ⟨error, settles rest⟩

theorem Schema.Boxing.Lists.decodeField? (wire : WireType) {id : UInt32} {a b : Shape}
    {first : Shape.Boxing a b} {boxed plain : Schema} {fields : Schema.Boxing boxed plain}
    (lists : fields.Lists id first) (draft : boxed.Draft) :
    ∃ (storage : a.Value) (taken : a.Value → boxed.Draft),
      boxed.decodeField? nested wire id draft = some (taken <$> a.decode nested wire storage) := by
  induction lists with
  | here rest =>
      obtain ⟨⟨value, seen⟩, draft⟩ := draft
      exact ⟨value, _, if_pos rfl⟩
  | there other before lists hypothesis =>
      obtain ⟨known, draft⟩ := draft
      obtain ⟨storage, taken, found⟩ := hypothesis draft
      rw [Schema.decodeField?, if_neg other, found]
      exact ⟨storage, _, congrArg some (Functor.map_map _ _ _)⟩

theorem Schema.Boxing.error_of_decodeBody (refuses : ∀ decode ∈ nested, RefusesRuns decode)
    {boxed plain : Schema} {fields : Schema.Boxing boxed plain} {body : Bytes}
    (holds : fields.HoldsRun body) (storage : boxed.Record) :
    ∃ error, boxed.decodeBody nested storage body = .error error := by
  cases holds with
  | @occurrence _ _ _ id _ _ _ source before small lists held =>
      rw [Schema.decodeBody, decodeFields_join]
      cases before.foldlM (boxed.takeField nested) (boxed.draft storage) with
      | error error => exact ⟨error, rfl⟩
      | ok draft =>
          obtain ⟨value, taken, found⟩ := lists.decodeField? .lengthDelimited draft
          obtain ⟨error, left, failed⟩ := Shape.Boxing.error_of_holdsRun refuses _ held value
          have tagged := Scan.reads_tag small .lengthDelimited source
          have occurred : boxed.decodeOccurrence nested draft id .lengthDelimited source =
              .error error left := by
            rw [Schema.decodeOccurrence, found]
            exact run_map_eq_error.mpr failed
          have refused : boxed.decodeFields nested draft
              (Varint.encode (WireType.lengthDelimited.tag id) ++ source) = .error error := by
            rw [decodeFields_tagged draft tagged, occurred]
          exact ⟨error, bind_of_error refused⟩

end Refused

theorem refusesRuns_decodeAt (room : Nat) : RefusesRuns (Schema.decodeAt room) :=
  Schema.decodeAt_induction RefusesRuns
    (fun _ refuses _ _ _ _ holds storage => Schema.Boxing.error_of_decodeBody refuses holds storage)
    room

/-! ## Schemas in which no run is lost -/

mutual
/-- Some list in the shape has scalars for its elements once the boxes are off, and has boxes
before. -/
def Shape.Boxing.LosesRuns : {boxed plain : Shape} → Shape.Boxing boxed plain → Prop
  | _, _, .same _ => False
  | _, _, .off inner | _, _, .boxed inner | _, _, .optional inner => inner.LosesRuns
  | _, _, @Shape.Boxing.repeated item other inner =>
      (other.packable = true ∧ item.packable = false) ∨ inner.LosesRuns
  | _, _, .object fields => fields.LosesRuns

/-- Some list in the schema has scalars for its elements once the boxes are off, and has boxes
before. -/
def Schema.Boxing.LosesRuns : {boxed plain : Schema} → Schema.Boxing boxed plain → Prop
  | _, _, .same _ => False
  | _, _, .field _ _ _ first rest => first.LosesRuns ∨ rest.LosesRuns
end

mutual
theorem Shape.Boxing.losesRuns_of_holdsRun : {boxed plain : Shape} →
    (boxing : Shape.Boxing boxed plain) → {source : Bytes} → boxing.HoldsRun source →
      boxing.LosesRuns
  | _, _, .same _, _, holds => by cases holds
  | _, _, .off inner, _, .off holds => inner.losesRuns_of_holdsRun holds
  | _, _, .boxed inner, _, .boxed holds => inner.losesRuns_of_holdsRun holds
  | _, _, .optional inner, _, .optional holds => inner.losesRuns_of_holdsRun holds
  | _, _, .repeated inner, _, .run scalars boxes => .inl ⟨scalars, boxes⟩
  | _, _, .repeated inner, _, .repeated holds => .inr (inner.losesRuns_of_holdsRun holds)
  | _, _, .object fields, _, .object _ (.occurrence _ _ lists holds) _ =>
      fields.losesRuns_of_lists lists holds

theorem Schema.Boxing.losesRuns_of_lists : {boxed plain : Schema} →
    (fields : Schema.Boxing boxed plain) → {id : UInt32} → {a b : Shape} →
      {first : Shape.Boxing a b} → {source : Bytes} → fields.Lists id first →
        first.HoldsRun source → fields.LosesRuns
  | _, _, .same _, _, _, _, _, _, lists, _ => by cases lists
  | _, _, .field _ _ _ first rest, _, _, _, _, _, .here _, holds =>
      .inl (first.losesRuns_of_holdsRun holds)
  | _, _, .field _ _ _ first rest, _, _, _, _, _, .there _ _ lists, holds =>
      .inr (rest.losesRuns_of_lists lists holds)
end

/-- One box is taken off a field, or off what an option or a list holds. -/
theorem Shape.Boxing.losesRuns_single (item : Shape) :
    ¬(Shape.Boxing.off (.same item)).LosesRuns ∧
      ¬(Shape.Boxing.optional (.off (.same item))).LosesRuns ∧
      ((Shape.Boxing.repeated (.off (.same item))).LosesRuns ↔ item.packable = true) := by
  simp [Shape.Boxing.LosesRuns, Shape.packable]

/-! ## The whole object -/

namespace Schema

/-- **Boxes are transparent, but not for packed runs.**  Whatever boxes are taken off a schema,
its objects are written alike, and every input is read alike that holds no packed run of elements
that are boxed.  An input that holds one is never read with the boxes: it fails as it does without
them, or the run is refused for its wire type. -/
theorem boxing_transparent {boxed plain : Schema} (boxing : Schema.Boxing boxed plain) :
    (∀ record : boxed.Record, plain.encode (boxing.equiv record) = boxed.encode record) ∧
      (∀ input : Bytes, ¬boxing.HoldsRun input →
        plain.decode input = boxing.equiv <$> boxed.decode input) ∧
      (∀ input : Bytes, boxing.HoldsRun input → ∃ error, boxed.decode input = .error error ∧
        (plain.decode input = .error error ∨ RunRefusal error)) ∧
      (¬boxing.LosesRuns → ∀ input : Bytes,
        plain.decode input = boxing.equiv <$> boxed.decode input) := by
  have read : ∀ input : Bytes, Transparent boxing.equiv (boxing.HoldsRun input)
      (boxed.decode input) (plain.decode input) := by
    intro input
    have alike := readsAlike_decodeAt (maximumDepth - 1) boxing boxed.blank input
    rwa [boxing.equiv_blank] at alike
  have clear : ∀ input : Bytes, ¬boxing.HoldsRun input →
      plain.decode input = boxing.equiv <$> boxed.decode input := by
    intro input free
    rcases read input with same | ⟨holds, _⟩
    · exact same.symm
    · exact absurd holds free
  refine ⟨fun record => ?_, clear, fun input holds => ?_, fun keeps input => clear input ?_⟩
  · exact writesAlike_encodeAt (maximumDepth - 1) boxing record
  · obtain ⟨error, failed⟩ := refusesRuns_decodeAt (maximumDepth - 1) holds boxed.blank
    refine ⟨error, failed, ?_⟩
    rcases read input with same | ⟨_, refused, run, refusal⟩
    · refine .inl (same.symm.trans ?_)
      rw [decode, decodeInto, failed]
      rfl
    · cases failed.symm.trans run
      exact .inr refusal
  · rintro ⟨before, small, lists, holds⟩
    exact keeps (boxing.losesRuns_of_lists lists holds)

/-- An object with a list of numbers, each of them in a box. -/
def boxedListSchema : Schema := .optional 1 "list" (.repeated (.boxed .u32)) .nil

/-- The same object without the boxes. -/
def plainListSchema : Schema := .optional 1 "list" (.repeated .u32) .nil

/-- The boxes that are taken off. -/
def listBoxing : Schema.Boxing boxedListSchema plainListSchema :=
  .field 1 "list" false (.repeated (.off (.same .u32))) (.same .nil)

instance : DecidableEq boxedListSchema.Record := inferInstanceAs (DecidableEq (List UInt32 × Unit))

instance : DecidableEq plainListSchema.Record := inferInstanceAs (DecidableEq (List UInt32 × Unit))

/-- A box that is taken off a number in an option. -/
def optionBoxing : Schema.Boxing (.optional 1 "value" (.optional (.boxed .u32)) .nil)
    (.optional 1 "value" (.optional .u32) .nil) :=
  .field 1 "value" false (.optional (.off (.same .u32))) (.same .nil)

/-- The elements one by one are read alike, with and without the boxes, and a packed run of them
is not read with the boxes.  In an option a box makes no difference. -/
theorem boxing_transparent_of_list :
    plainListSchema.encode ([(1 : UInt32), (300 : UInt32)], ()) =
        boxedListSchema.encode ([(1 : UInt32), (300 : UInt32)], ()) ∧
      plainListSchema.decode [8, 1, 8, 172, 2] =
        listBoxing.equiv <$> boxedListSchema.decode [8, 1, 8, 172, 2] ∧
      (∃ error, boxedListSchema.decode [10, 3, 1, 2, 3] = .error error) ∧
      Schema.decode (.optional 1 "value" (.optional .u32) .nil) [10, 1, 7] =
        optionBoxing.equiv <$>
          Schema.decode (.optional 1 "value" (.optional (.boxed .u32)) .nil) [10, 1, 7] := by
  obtain ⟨written, clear, refused, _⟩ := boxing_transparent listBoxing
  obtain ⟨_, _, _, always⟩ := boxing_transparent optionBoxing
  refine ⟨written ([(1 : UInt32), (300 : UInt32)], ()), clear _ fun holds => ?_, ?_, ?_⟩
  · -- A body with a run in it is not read, but this one is.
    obtain ⟨error, failed, _⟩ := refused _ holds
    have read : boxedListSchema.decode [8, 1, 8, 172, 2] =
        .ok ([(1 : UInt32), (300 : UInt32)], ()) := by decide +kernel
    rw [read] at failed
    cases failed
  · have run : (Shape.Boxing.repeated (.off (.same .u32))).HoldsRun [3, 1, 2, 3] := .run rfl rfl
    have holds : listBoxing.HoldsRun
        (WireField.join [] ++ (Varint.encode (WireType.lengthDelimited.tag 1) ++ [3, 1, 2, 3])) :=
      .occurrence [] (by decide) (.here _) run
    have bytes : WireField.join [] ++ (Varint.encode (WireType.lengthDelimited.tag 1) ++
        [3, 1, 2, 3]) = [10, 3, 1, 2, 3] := by decide +kernel
    rw [bytes] at holds
    obtain ⟨error, failed, _⟩ := refused _ holds
    exact ⟨error, failed⟩
  · obtain ⟨_, keeps, _⟩ := Shape.Boxing.losesRuns_single .u32
    refine always (fun loses => ?_) _
    rcases loses with first | others
    · exact keeps first
    · exact others

/-- A packed run of three numbers is read into a list of numbers, and refused for a list of
numbers in boxes. -/
theorem boxing_shows_in_run :
    plainListSchema.decode [10, 3, 1, 2, 3] =
        .ok ([(1 : UInt32), (2 : UInt32), (3 : UInt32)], ()) ∧
      boxedListSchema.decode [10, 3, 1, 2, 3] =
        .error (.schema (.unexpectedWireType .unsignedInteger 2)) := by
  constructor <;> decide +kernel

end Schema
end SecurityKey
