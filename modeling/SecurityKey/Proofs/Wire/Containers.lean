import SecurityKey.Proofs.Wire.Told
import SecurityKey.Wire.Reader

/-!
# Containers that are open

A writer and a reader refuse a start for the depth exactly when `maximumDepth` containers are
open, and they are left as they were (`Writer.startObject_eq_tooDeep_iff`,
`Reader.run_eq_tooDeep_iff`).  A writer has one body and one key for every depth and can have no
more than `maximumDepth` objects open by its type.

A reader works on the innermost of its views: what a step comes to, and what it leaves in place
of this view, has nothing to do with the views around it (`Reader.run_local`).  A start adds a
view when there is room for it.  So whatever a reader is asked to do, no more than
`maximumDepth` containers are open (`Reader.depth_stateAfter_le`).
-/

set_option autoImplicit false

namespace SecurityKey

/-! ## Scans that do not look at the depth -/

theorem Varint.decodeFrom_ne_tooDeep (bits shift start : Nat) (source : Bytes) :
    decodeFrom bits shift start source ≠ .error tooDeep := by
  intro failed
  induction source generalizing shift start with
  | nil => cases failed
  | cons byte rest hypothesis =>
      simp only [decodeFrom] at failed
      split at failed
      · cases failed
      split at failed
      · cases failed
      split at failed
      · cases failed
      split at failed
      · cases failed
      · exact hypothesis _ _ failed

theorem Scan.delimited_ne_tooDeep (source left : Bytes) :
    delimited source ≠ .error tooDeep left := by
  intro failed
  change EStateM.bind (varint 64) _ source = _ at failed
  rw [EStateM.bind, varint] at failed
  split at failed
  · rename_i count behind ran
    rw [take] at failed
    split at failed <;> cases failed
  · rename_i error behind ran
    split at ran
    · cases ran
    · rename_i broken
      cases ran
      cases failed
      exact Varint.decodeFrom_ne_tooDeep _ _ _ _ broken

/-! ## Writers -/

/-- A start is refused for the depth exactly when there is no room, and then nothing has
changed. -/
theorem Writer.startObject_eq_tooDeep_iff {writer left : Writer} :
    startObject writer = .error tooDeep left ↔ writer.depth = maximumDepth ∧ left = writer := by
  constructor
  · intro refused
    have unchanged := cautious_startObject writer left tooDeep refused
    rw [startObject] at refused
    split at refused
    · rename_i full
      exact ⟨full, unchanged⟩
    · split at refused
      · split at refused <;> cases refused
      · split at refused <;> cases refused
  · rintro ⟨full, rfl⟩
    exact dif_pos full

namespace Reader

/-! ## Steps -/

/-- A step that a reader can be asked to take. -/
inductive Operation where
  | key (known : List UInt32)
  | unsigned
  | integer
  | boolean
  | text
  | blob
  | fixedBytes (size : Nat)
  | ordinal
  | startArray
  | isArrayEnd
  | endArray
  | startObject
  | endObject
  | checkComplete

namespace Operation

/-- The type of what a step comes to. -/
def Answer : Operation → Type
  | key _ => Option Nat
  | unsigned | ordinal => UInt64
  | integer => Int64
  | boolean | isArrayEnd => Bool
  | text => String
  | blob => Bytes
  | fixedBytes size => FixedBytes size
  | startArray | endArray | startObject | endObject | checkComplete => Unit

/-- Takes the step. -/
def run : (operation : Operation) → Reading operation.Answer
  | key known => Reader.key known
  | unsigned => Reader.unsigned
  | integer => Reader.integer
  | boolean => Reader.boolean
  | text => Reader.text
  | blob => Reader.blob
  | fixedBytes size => Reader.fixedBytes size
  | ordinal => Reader.ordinal
  | startArray => Reader.startArray
  | isArrayEnd => Reader.isArrayEnd
  | endArray => Reader.endArray
  | startObject => Reader.startObject
  | endObject => Reader.endObject
  | checkComplete => Reader.checkComplete

/-- Takes the step for what it leaves. -/
def step (operation : Operation) : Reading Unit := (fun _ => ()) <$> operation.run

/-- The steps that open a container. -/
def IsStart : Operation → Prop
  | startArray | startObject => True
  | _ => False

end Operation

/-- Opens a container with a wire type that is pending in it. -/
def startWith (wire : Option WireType) : Reading Unit := do
  openContainer
  modify fun reader => { reader with pending := wire }

theorem startWith_eq (wire : Option WireType) (reader : Reader) :
    startWith wire reader =
      match openContainer reader with
      | .ok _ after => .ok () { after with pending := wire }
      | .error error left => .error error left := by
  cases ran : openContainer reader with
  | ok opened after => exact run_bind_of_ok ran _
  | error error left => exact run_bind_of_error ran _

/-! ## The innermost view -/

/-- What a step comes to when there are views around those that it was taken on. -/
def within {α : Type} (outer : List Bytes) :
    EStateM.Result Error Reader α → EStateM.Result Error Reader α
  | .ok value reader => .ok value { reader with views := reader.views ++ outer }
  | .error error reader => .error error { reader with views := reader.views ++ outer }

section Local

variable {α : Type} (input : Bytes) (view : Bytes) (outer : List Bytes)
  (pending : Option WireType)

theorem onView_local (scan : Scan α) :
    onView scan ⟨input, view :: outer, pending⟩ =
      within outer (onView scan ⟨input, [view], pending⟩) := by
  simp only [onView]
  cases scan view with
  | ok value rest => rfl
  | error error rest => rfl

theorem value_local (expectation : Expectation) (scan : WireType → Scan α) :
    value expectation scan ⟨input, view :: outer, pending⟩ =
      within outer (value expectation scan ⟨input, [view], pending⟩) := by
  cases pending with
  | none => rfl
  | some wire =>
      simp only [value]
      cases expectation.require wire with
      | error error => rfl
      | ok admitted => exact onView_local input view outer (some wire) (scan wire)

theorem openContainer_local (room : outer.length + 1 < maximumDepth) :
    openContainer ⟨input, view :: outer, pending⟩ =
      within outer (openContainer ⟨input, [view], pending⟩) := by
  have full : ¬(Reader.mk input (view :: outer) pending).depth = maximumDepth :=
    Nat.ne_of_lt room
  have single : ¬(Reader.mk input [view] pending).depth = maximumDepth :=
    Nat.ne_of_lt (Nat.lt_of_le_of_lt (Nat.le_add_left 1 outer.length) room)
  rw [openContainer, openContainer, if_neg full, if_neg single]
  simp only [value_local input view outer pending .object fun _ => Scan.delimited]
  cases value .object (fun _ => Scan.delimited) ⟨input, [view], pending⟩ with
  | ok body reader => rfl
  | error error reader => rfl

theorem startWith_local (wire : Option WireType) (room : outer.length + 1 < maximumDepth) :
    startWith wire ⟨input, view :: outer, pending⟩ =
      within outer (startWith wire ⟨input, [view], pending⟩) := by
  rw [startWith_eq, startWith_eq, openContainer_local input view outer pending room]
  cases openContainer ⟨input, [view], pending⟩ with
  | ok opened after => rfl
  | error error left => rfl

theorem key_local (known : List UInt32) :
    key known ⟨input, view :: outer, pending⟩ =
      within outer (key known ⟨input, [view], pending⟩) := by
  simp only [key]
  obtain ⟨found, next, rest⟩ := seek known pending view
  cases found with
  | ok position => rfl
  | error error => rfl

theorem closeContainer_local :
    closeContainer ⟨input, view :: outer, pending⟩ =
      within outer (closeContainer ⟨input, [view], pending⟩) := by
  cases view with
  | nil => rfl
  | cons byte rest => rfl

/-- A step on the innermost view is taken as if there were no views around it.  A start needs
room for another one. -/
theorem run_local (operation : Operation)
    (room : operation.IsStart → outer.length + 1 < maximumDepth) :
    operation.run ⟨input, view :: outer, pending⟩ =
      within outer (operation.run ⟨input, [view], pending⟩) := by
  cases operation with
  | key known => exact key_local input view outer pending known
  | unsigned | integer | boolean | text | blob | fixedBytes size | ordinal =>
      exact value_local input view outer pending _ _
  | startArray => exact startWith_local input view outer pending (some .varint) (room trivial)
  | startObject => exact startWith_local input view outer pending none (room trivial)
  | endArray | endObject => exact closeContainer_local input view outer pending
  | isArrayEnd | checkComplete => rfl

end Local

/-! ## How many containers are open -/

section Depth

variable {α : Type} {reader : Reader}

theorem depth_onView (scan : Scan α) : (leaves (onView scan reader)).depth = reader.depth := by
  obtain ⟨input, views, pending⟩ := reader
  cases views with
  | nil => rfl
  | cons view outer =>
      simp only [onView]
      cases scan view with
      | ok value rest => rfl
      | error error rest => rfl

theorem depth_value (expectation : Expectation) (scan : WireType → Scan α) :
    (leaves (value expectation scan reader)).depth = reader.depth := by
  rw [value]
  split
  · rfl
  · split
    · rfl
    · exact depth_onView _

theorem depth_key (known : List UInt32) : (leaves (key known reader)).depth = reader.depth := by
  obtain ⟨input, views, pending⟩ := reader
  cases views with
  | nil => rfl
  | cons view outer =>
      simp only [key]
      obtain ⟨found, next, rest⟩ := seek known pending view
      cases found with
      | ok position => rfl
      | error error => rfl

theorem depth_closeContainer_le : (leaves (closeContainer reader)).depth ≤ reader.depth := by
  rw [closeContainer]
  split
  · exact Nat.le_refl _
  · rename_i outer opened
    change outer.length ≤ reader.views.length
    rw [opened]
    exact Nat.le_succ _
  · exact Nat.le_refl _

theorem depth_openContainer_le (inside : reader.depth ≤ maximumDepth) :
    (leaves (openContainer reader)).depth ≤ maximumDepth := by
  rw [openContainer]
  split
  · exact inside
  · rename_i room
    split
    · exact Nat.succ_le_of_lt maximumDepth_pos
    · have kept : (leaves (value .object (fun _ => Scan.delimited) reader)).depth = reader.depth :=
        depth_value _ _
      split
      · rename_i body after ran
        rw [ran] at kept
        exact Nat.lt_of_le_of_ne (Nat.le_trans (Nat.le_of_eq kept) inside)
          fun full => room (kept.symm.trans full)
      · rename_i error left failed
        rw [failed] at kept
        exact Nat.le_trans (Nat.le_of_eq kept) inside

theorem depth_startWith_le (wire : Option WireType) (inside : reader.depth ≤ maximumDepth) :
    (leaves (startWith wire reader)).depth ≤ maximumDepth := by
  have opened := depth_openContainer_le inside
  rw [startWith_eq]
  cases ran : openContainer reader with
  | ok result after =>
      rw [ran] at opened
      exact opened
  | error error left =>
      rw [ran] at opened
      exact opened

/-- A step keeps the bound. -/
theorem depth_run_le (operation : Operation) (inside : reader.depth ≤ maximumDepth) :
    (leaves (operation.run reader)).depth ≤ maximumDepth := by
  cases operation with
  | key known => exact Nat.le_trans (Nat.le_of_eq (depth_key known)) inside
  | unsigned | integer | boolean | text | blob | fixedBytes size | ordinal =>
      exact Nat.le_trans (Nat.le_of_eq (depth_value _ _)) inside
  | startArray => exact depth_startWith_le (some .varint) inside
  | startObject => exact depth_startWith_le none inside
  | endArray | endObject => exact Nat.le_trans depth_closeContainer_le inside
  | isArrayEnd =>
      change (leaves (isArrayEnd reader)).depth ≤ _
      rw [isArrayEnd]
      split
      · exact inside
      · exact inside
  | checkComplete =>
      change (leaves (checkComplete reader)).depth ≤ _
      rw [checkComplete]
      split
      · exact inside
      · exact inside

/-- No more than `maximumDepth` containers are open behind any steps. -/
theorem depth_stateAfter_le (operations : List Operation) (inside : reader.depth ≤ maximumDepth) :
    (stateAfter (operations.map Operation.step) reader).depth ≤ maximumDepth := by
  induction operations generalizing reader with
  | nil => exact inside
  | cons operation rest hypothesis =>
      refine hypothesis ?_
      rw [Operation.step, leaves_map]
      exact depth_run_le operation inside

end Depth

/-! ## Starts that are refused -/

theorem value_ne_tooDeep (expectation : Expectation) (reader left : Reader) :
    value expectation (fun _ => Scan.delimited) reader ≠ .error tooDeep left := by
  intro failed
  rw [value] at failed
  split at failed
  · cases failed
  · split at failed
    · rename_i refused
      rw [Expectation.require] at refused
      split at refused
      · cases refused
      · cases refused
        cases failed
    · rw [onView] at failed
      split at failed
      · cases failed
      · split at failed
        · cases failed
        · rename_i broken
          cases failed
          exact Scan.delimited_ne_tooDeep _ _ broken

theorem openContainer_eq_tooDeep_iff {reader left : Reader} :
    openContainer reader = .error tooDeep left ↔ reader.depth = maximumDepth ∧ left = reader := by
  rw [openContainer]
  constructor
  · intro refused
    split at refused
    · rename_i full
      cases refused
      exact ⟨full, rfl⟩
    · split at refused
      · cases refused
      · split at refused
        · cases refused
        · rename_i failed
          cases refused
          exact absurd failed (value_ne_tooDeep _ _ _)
  · rintro ⟨full, rfl⟩
    exact if_pos full

/-- A start is refused for the depth exactly when there is no room, and then nothing has been
taken. -/
theorem run_eq_tooDeep_iff {operation : Operation} (start : operation.IsStart)
    {reader left : Reader} :
    operation.run reader = .error tooDeep left ↔
      reader.depth = maximumDepth ∧ left = reader := by
  have refused : ∀ wire : Option WireType, startWith wire reader = .error tooDeep left ↔
      openContainer reader = .error tooDeep left := by
    intro wire
    rw [startWith_eq]
    cases openContainer reader with
    | ok opened after => exact iff_of_false nofun nofun
    | error error behind => exact Iff.rfl
  cases operation with
  | startArray => exact (refused (some .varint)).trans openContainer_eq_tooDeep_iff
  | startObject => exact (refused none).trans openContainer_eq_tooDeep_iff
  | _ => cases start

end Reader
end SecurityKey
