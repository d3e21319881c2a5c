import SecurityKey.Proofs.Steps
import SecurityKey.Proofs.Wire.Trees

/-!
# What a writer has been told

A writer works on one body for every depth.  What the steps so far have spelled is a stack of
trees, one for each object that is open, and the bodies are the encodings of these trees
(`Progress`); all other bodies are empty, but for the outermost one while a finished root is in
it.  Every step that succeeds keeps this (`Progress.run`), and a step that fails leaves the
writer as it was (`unchanged_of_error`).

The trees change as the bodies do: a leaf is appended to the innermost tree, and an object that
is closed goes into the tree around it (`Opened.extend`, `Opened.close`).
-/

set_option autoImplicit false

namespace SecurityKey
namespace Writer

/-! ## Steps that fail -/

/-- A step that changes nothing when it fails. -/
def Cautious {α : Type} (step : Writing α) : Prop :=
  ∀ (writer left : Writer) (error : Error), step writer = .error error left → left = writer

theorem Cautious.map {α β : Type} {step : Writing α} (cautious : Cautious step)
    (function : α → β) : Cautious (function <$> step) := by
  intro writer left error failed
  exact cautious writer left error (run_map_eq_error.mp failed)

theorem cautious_append (field : UInt32 → Bytes) : Cautious (append field) := by
  intro writer left error failed
  rw [append] at failed
  split at failed
  · cases failed
  · cases failed
    rfl

theorem cautious_startObject : Cautious startObject := by
  intro writer left error failed
  rw [startObject] at failed
  split at failed
  · cases failed
    rfl
  · split at failed
    · split at failed
      · cases failed
        rfl
      · cases failed
    · split at failed
      · cases failed
      · cases failed
        rfl

theorem cautious_endObject : Cautious endObject := by
  intro writer left error failed
  rw [endObject] at failed
  split at failed
  · cases failed
    rfl
  · cases failed
  · cases failed

theorem cautious_takeBytes : Cautious takeBytes := by
  intro writer left error failed
  rw [takeBytes] at failed
  split at failed
  · cases failed
  · cases failed
    rfl

/-- A step that fails leaves the writer as it was. -/
theorem unchanged_of_error (operation : Operation) : Cautious operation.run := by
  cases operation with
  | unsigned value | boolean value | text value | blob value | ordinal value =>
      exact (cautious_append _).map _
  | startObject => exact cautious_startObject.map _
  | endObject => exact cautious_endObject.map _
  | takeBytes => exact cautious_takeBytes.map _
  | key id | startArray | endArray =>
      intro writer left error failed
      cases failed
  | integer value =>
      intro writer left error failed
      cases failed
      rfl

/-! ## Objects that are open -/

/-- The steps since the root was opened, the trees that they have spelled of the objects that
are open, innermost first and each with its key, and the key that is pending now. -/
inductive Opened : List Operation → List (UInt32 × Tree) → Option UInt32 → Prop where
  | root {id : UInt32} {inner : List Operation} {tree : Tree} {pending : Option UInt32}
      (spelled : Spells none inner tree pending) :
      Opened (.startObject :: inner) [(id, tree)] pending
  | child {outer inner : List Operation} {frames : List (UInt32 × Tree)} {id : UInt32}
      {tree : Tree} {pending : Option UInt32} (opened : Opened outer frames (some id))
      (spelled : Spells none inner tree pending) :
      Opened (outer ++ .startObject :: inner) ((id, tree) :: frames) pending

/-- There is an innermost object. -/
theorem Opened.exists_frame {log : List Operation} {frames : List (UInt32 × Tree)}
    {pending : Option UInt32} (opened : Opened log frames pending) :
    ∃ id tree outer, frames = (id, tree) :: outer := by
  cases opened with
  | root => exact ⟨_, _, _, rfl⟩
  | child => exact ⟨_, _, _, rfl⟩

/-- More is spelled of the innermost object. -/
theorem Opened.extend {log operations : List Operation} {id : UInt32} {tree more : Tree}
    {frames : List (UInt32 × Tree)} {pending last : Option UInt32}
    (opened : Opened log ((id, tree) :: frames) pending)
    (spelled : Spells pending operations more last) :
    Opened (log ++ operations) ((id, tree.append more) :: frames) last := by
  cases opened with
  | root before => exact .root (before.append spelled)
  | child outer before =>
      rw [List.append_assoc, List.cons_append]
      exact .child outer (before.append spelled)

/-- A nested object that is closed is a field of the object around it. -/
theorem Opened.close {log : List Operation} {id outerId : UInt32} {tree outerTree : Tree}
    {frames : List (UInt32 × Tree)} {pending : Option UInt32}
    (opened : Opened log ((id, tree) :: (outerId, outerTree) :: frames) pending) :
    Opened (log ++ [.endObject])
      ((outerId, outerTree.append (.object id tree .nil)) :: frames) (some id) := by
  cases opened with
  | child outer spelled =>
      rw [List.append_assoc, List.cons_append]
      exact outer.extend (.object spelled (.nil (some id)))

/-! ## The bodies of open objects -/

/-- The bodies and keys at the first depths are those of some objects, innermost first. -/
def Stacked (bodies : Vector Bytes maximumDepth) (keys : Vector UInt32 maximumDepth) :
    List (UInt32 × Tree) → Prop
  | [] => True
  | (id, tree) :: outer =>
      bodies[outer.length]? = some tree.encode ∧ keys[outer.length]? = some id ∧
        Stacked bodies keys outer

variable {bodies : Vector Bytes maximumDepth} {keys : Vector UInt32 maximumDepth}

theorem Stacked.top {id : UInt32} {tree : Tree} {outer : List (UInt32 × Tree)}
    (stacked : Stacked bodies keys ((id, tree) :: outer)) (inside : outer.length < maximumDepth) :
    bodies[outer.length] = tree.encode ∧ keys[outer.length] = id := by
  obtain ⟨encoded, opened, _⟩ := stacked
  rw [Vector.getElem?_eq_getElem inside] at encoded opened
  exact ⟨Option.some.inj encoded, Option.some.inj opened⟩

/-- Only the bodies and keys of the open objects matter. -/
theorem Stacked.congr {otherBodies : Vector Bytes maximumDepth}
    {otherKeys : Vector UInt32 maximumDepth} {frames : List (UInt32 × Tree)}
    (stacked : Stacked bodies keys frames)
    (sameBodies : ∀ level < frames.length, otherBodies[level]? = bodies[level]?)
    (sameKeys : ∀ level < frames.length, otherKeys[level]? = keys[level]?) :
    Stacked otherBodies otherKeys frames := by
  induction frames with
  | nil => trivial
  | cons frame outer hypothesis =>
      obtain ⟨encoded, opened, further⟩ := stacked
      have top : outer.length < (frame :: outer).length := Nat.lt_succ_self _
      exact ⟨(sameBodies _ top).trans encoded, (sameKeys _ top).trans opened,
        hypothesis further (fun level below => sameBodies level (Nat.lt_succ_of_lt below))
          fun level below => sameKeys level (Nat.lt_succ_of_lt below)⟩

/-- A body further in may be changed. -/
theorem Stacked.set_body {frames : List (UInt32 × Tree)} (stacked : Stacked bodies keys frames)
    {level : Nat} (further : frames.length ≤ level) (inside : level < maximumDepth)
    (body : Bytes) : Stacked (bodies.set level body inside) keys frames :=
  stacked.congr (fun _ below => Vector.getElem?_set_ne inside (by omega)) fun _ _ => rfl

/-- A key further in may be changed. -/
theorem Stacked.set_key {frames : List (UInt32 × Tree)} (stacked : Stacked bodies keys frames)
    {level : Nat} (further : frames.length ≤ level) (inside : level < maximumDepth)
    (id : UInt32) : Stacked bodies (keys.set level id inside) frames :=
  stacked.congr (fun _ _ => rfl) fun _ below => Vector.getElem?_set_ne inside (by omega)

/-- The innermost object is another one when its body is. -/
theorem Stacked.set_top {id : UInt32} {tree : Tree} {outer : List (UInt32 × Tree)}
    (stacked : Stacked bodies keys ((id, tree) :: outer)) (more : Tree)
    (inside : outer.length < maximumDepth) :
    Stacked (bodies.set outer.length more.encode inside) keys ((id, more) :: outer) := by
  obtain ⟨_, opened, others⟩ := stacked
  exact ⟨Vector.getElem?_set_self inside, opened, others.set_body (Nat.le_refl _) inside _⟩

/-- All bodies but the first ones are empty. -/
def Emptied (bodies : Vector Bytes maximumDepth) (count : Nat) : Prop :=
  ∀ (level : Nat) (inside : level < maximumDepth), count ≤ level → bodies[level] = []

theorem Emptied.set {count level : Nat} (emptied : Emptied bodies count) (used : level < count)
    (inside : level < maximumDepth) (body : Bytes) :
    Emptied (bodies.set level body inside) count := by
  intro other within beyond
  rw [Vector.getElem_set_ne inside within (by omega)]
  exact emptied other within beyond

/-- The last body that is in use is given up. -/
theorem Emptied.clear {count : Nat} (emptied : Emptied bodies (count + 1))
    (inside : count < maximumDepth) : Emptied (bodies.set count [] inside) count := by
  intro other within beyond
  rcases Nat.eq_or_lt_of_le beyond with same | further
  · subst same
    exact Vector.getElem_set_self within
  · rw [Vector.getElem_set_ne inside within (by omega)]
    exact emptied other within further

/-! ## What has been told -/

/-- How far a writer has got with what the steps that succeeded have spelled. -/
inductive Progress (writer : Writer) : List Operation → Prop where
  | idle {log : List Operation} (depth : writer.depth = 0) (free : writer.finished = false)
      (emptied : Emptied writer.bodies 0) : Progress writer log
  | writing {log : List Operation} {frames : List (UInt32 × Tree)}
      (opened : Opened log frames writer.pending) (depth : writer.depth = frames.length)
      (free : writer.finished = false) (stacked : Stacked writer.bodies writer.keys frames)
      (emptied : Emptied writer.bodies frames.length) : Progress writer log
  | complete {inner behind : List Operation} {tree : Tree} {last : Option UInt32}
      (spelled : Spells none inner tree last) (quiet : ∀ operation ∈ behind, operation.IsQuiet)
      (depth : writer.depth = 0) (finished : writer.finished = true)
      (encoded : writer.bodies[0]? = some tree.encode) (emptied : Emptied writer.bodies 1) :
      Progress writer (.startObject :: (inner ++ .endObject :: behind))

variable {writer after : Writer} {log : List Operation}

theorem progress_empty : Progress Writer.empty [] := by
  refine .idle rfl rfl fun level inside _ => ?_
  exact Vector.getElem_replicate inside

/-- The steps that are noted when one more succeeds.  With a root that is opened, they begin
anew. -/
def noted (writer : Writer) (log : List Operation) : Operation → List Operation
  | .startObject => if writer.depth = 0 then [.startObject] else log ++ [.startObject]
  | operation => log ++ [operation]

/-- A step that spells nothing may change the pending key. -/
theorem Progress.quiet (progress : Progress writer log) {operation : Operation}
    {pending : Option UInt32} (spelled : Spells writer.pending [operation] .nil pending)
    (quiet : operation.IsQuiet) :
    Progress { writer with pending := pending } (log ++ [operation]) := by
  cases progress with
  | idle depth free emptied => exact .idle depth free emptied
  | writing opened depth free stacked emptied =>
      obtain ⟨id, tree, outer, rfl⟩ := opened.exists_frame
      have extended := opened.extend spelled
      rw [Tree.append_nil] at extended
      exact .writing extended depth free stacked emptied
  | @complete inner behind _ _ before quietBehind depth finished encoded emptied =>
      rw [List.cons_append, List.append_assoc, List.cons_append]
      refine .complete before ?_ depth finished encoded emptied
      intro other member
      rcases List.mem_append.mp member with earlier | added
      · exact quietBehind other earlier
      · rw [List.mem_singleton.mp added]
        exact quiet

/-- A leaf is a field of the innermost object. -/
theorem Progress.append (progress : Progress writer log) {operation : Operation} {leaf : Leaf}
    (written : operation.leaf? = some leaf)
    (ran : append leaf.field writer = .ok () after) : Progress after (log ++ [operation]) := by
  rw [Writer.append] at ran
  split at ran
  · rename_i level inside id depth _ pending
    cases ran
    cases progress with
    | idle closed => cases depth.symm.trans closed
    | complete _ _ closed => cases depth.symm.trans closed
    | writing opened count free stacked emptied =>
        obtain ⟨opener, tree, outer, rfl⟩ := opened.exists_frame
        have top : level = outer.length := Nat.succ.inj (depth.symm.trans count)
        subst top
        rw [pending] at opened
        have extended := opened.extend (.leaf written (.nil (some id)))
        rw [← pending] at extended
        have further := stacked.set_top (tree.append (.leaf id leaf .nil)) inside
        rw [Tree.encode_append_leaf, ← (stacked.top inside).1] at further
        exact .writing extended count free further (emptied.set (Nat.lt_succ_self _) inside _)
  · cases ran

/-- A root is opened into an empty body, and a nested object under the pending key. -/
theorem Progress.startObject (progress : Progress writer log)
    (ran : startObject writer = .ok () after) :
    Progress after (noted writer log .startObject) := by
  have positive := maximumDepth_pos
  rw [Writer.startObject] at ran
  split at ran
  · cases ran
  · rename_i full
    have room : writer.depth < maximumDepth := Nat.lt_of_le_of_ne writer.depth_le full
    split at ran
    · rename_i closed
      split at ran
      · cases ran
      · rename_i taken
        cases ran
        have emptied : Emptied writer.bodies 1 := by
          cases progress with
          | idle _ _ emptied => exact fun level inside _ => emptied level inside (Nat.zero_le _)
          | writing opened depth =>
              obtain ⟨_, _, _, rfl⟩ := opened.exists_frame
              cases depth.symm.trans closed
          | complete _ _ _ finished => exact absurd finished taken
        have opened : Opened [.startObject] [(writer.keys[0], .nil)] none := .root (.nil none)
        rw [noted, if_pos closed]
        refine .writing opened (congrArg Nat.succ closed) (Bool.eq_false_iff.mpr taken)
          ⟨?_, ?_, trivial⟩ (emptied.set Nat.zero_lt_one positive _)
        · exact Vector.getElem?_set_self positive
        · exact Vector.getElem?_eq_getElem positive
    · rename_i nested
      split at ran
      · rename_i id pending
        cases ran
        cases progress with
        | idle closed => exact absurd closed nested
        | complete _ _ closed => exact absurd closed nested
        | @writing _ frames opened depth free stacked emptied =>
            rw [pending] at opened
            rw [noted, if_neg nested]
            have inside : frames.length < maximumDepth := depth ▸ room
            have clear : writer.bodies[frames.length]? = some [] := by
              rw [Vector.getElem?_eq_getElem inside]
              exact congrArg some (emptied _ inside (Nat.le_refl _))
            have stored : (writer.keys.set writer.depth id room)[frames.length]? = some id := by
              rw [← depth]
              exact Vector.getElem?_set_self room
            exact .writing (opened.child (.nil none)) (congrArg Nat.succ depth) free
              ⟨clear, stored, stacked.set_key (Nat.le_of_eq depth.symm) room id⟩
              fun level inside beyond => emptied level inside (Nat.le_of_succ_le beyond)
      · cases ran

/-- A root that is closed is complete, and a nested object goes into the one around it. -/
theorem Progress.endObject (progress : Progress writer log)
    (ran : endObject writer = .ok () after) : Progress after (log ++ [.endObject]) := by
  rw [Writer.endObject] at ran
  split at ran
  · cases ran
  · rename_i depth _
    cases ran
    cases progress with
    | idle closed => cases depth.symm.trans closed
    | complete _ _ closed => cases depth.symm.trans closed
    | writing opened count free stacked emptied =>
        cases opened with
        | root spelled =>
            exact .complete spelled (fun _ member => by cases member) rfl rfl stacked.1 emptied
        | child outer =>
            obtain ⟨_, _, _, rfl⟩ := outer.exists_frame
            cases depth.symm.trans count
  · rename_i level inside depth _
    cases ran
    cases progress with
    | idle closed => cases depth.symm.trans closed
    | complete _ _ closed => cases depth.symm.trans closed
    | @writing _ frames opened count free stacked emptied =>
        match frames with
        | [] | [_] => cases depth.symm.trans count
        | (id, tree) :: (outerId, outerTree) :: outer =>
            have top : level = outer.length := Nat.succ.inj (Nat.succ.inj (depth.symm.trans count))
            subst top
            have within : outer.length < maximumDepth := Nat.lt_of_succ_lt inside
            obtain ⟨child, key⟩ := stacked.top inside
            obtain ⟨_, _, others⟩ := stacked
            -- The body around the closed object grows, and its own body is given up.
            have further := (others.set_top (outerTree.append (.object id tree .nil))
              within).set_body (Nat.le_refl _) inside []
            have cleared := (emptied.set (Nat.lt_of_succ_lt (Nat.lt_succ_self _)) within
              (outerTree.append (.object id tree .nil)).encode).clear inside
            rw [Tree.encode_append_object, ← (others.top within).1, ← child, ← key]
              at further cleared
            rw [← key] at opened
            exact .writing opened.close rfl free further cleared

/-- A finished root is given as its encoding, and the writer is empty behind it. -/
theorem Progress.takeBytes (progress : Progress writer log) {output : Bytes}
    (ran : takeBytes writer = .ok output after) :
    (∃ (inner behind : List Operation) (tree : Tree) (last : Option UInt32),
      log = .startObject :: (inner ++ .endObject :: behind) ∧
        (∀ operation ∈ behind, operation.IsQuiet) ∧ Spells none inner tree last ∧
          output = tree.encode) ∧
      after.depth = 0 ∧ after.finished = false ∧ Emptied after.bodies 0 := by
  have positive := maximumDepth_pos
  rw [Writer.takeBytes] at ran
  split at ran
  · rename_i ready
    cases ran
    cases progress with
    | idle _ free => cases ready.1.symm.trans free
    | writing _ _ free => cases ready.1.symm.trans free
    | complete spelled quiet depth finished encoded emptied =>
        have whole := Option.some.inj ((Vector.getElem?_eq_getElem positive).symm.trans encoded)
        exact ⟨⟨_, _, _, _, rfl, quiet, spelled, whole⟩, depth, rfl, emptied.clear positive⟩
  · cases ran

theorem append_of_leaf? {operation : Operation} {leaf : Leaf} {result : Option Bytes}
    (written : operation.leaf? = some leaf) (ran : operation.run writer = .ok result after) :
    append leaf.field writer = .ok () after := by
  cases operation with
  | unsigned value | boolean value | text value | blob value | ordinal value =>
      cases written
      obtain ⟨_, appended, _⟩ := run_map_eq_ok.mp ran
      exact appended
  | key | integer | startArray | endArray | startObject | endObject | takeBytes => cases written

/-- A body at a depth that is not open is empty, or it is a finished root. -/
theorem Progress.vacant (progress : Progress writer log) {level : Nat}
    (inside : level < maximumDepth) (beyond : writer.depth ≤ level) :
    writer.bodies[level] = [] ∨
      level = 0 ∧ ∃ after, Writer.takeBytes writer = .ok writer.bodies[level] after := by
  cases progress with
  | idle _ _ emptied => exact .inl (emptied level inside (Nat.zero_le level))
  | writing _ depth _ _ emptied => exact .inl (emptied level inside (depth ▸ beyond))
  | complete _ _ depth finished _ emptied =>
      cases level with
      | zero => exact .inr ⟨rfl, _, if_pos ⟨finished, depth⟩⟩
      | succ level => exact .inl (emptied (level + 1) inside (Nat.le_add_left 1 level))

/-- Every step that succeeds gets further with what it spells. -/
theorem Progress.run (progress : Progress writer log) {operation : Operation}
    {result : Option Bytes} (ran : operation.run writer = .ok result after) :
    Progress after (noted writer log operation) := by
  cases operation with
  | unsigned value | boolean value | text value | blob value | ordinal value =>
      exact progress.append rfl (append_of_leaf? rfl ran)
  | key id =>
      cases ran
      exact progress.quiet (.key (.nil (some id))) trivial
  | startArray | endArray =>
      cases ran
      exact progress.quiet (.array trivial (.nil writer.pending)) trivial
  | integer value => cases ran
  | startObject =>
      obtain ⟨_, started, _⟩ := run_map_eq_ok.mp ran
      exact progress.startObject started
  | endObject =>
      obtain ⟨_, ended, _⟩ := run_map_eq_ok.mp ran
      exact progress.endObject ended
  | takeBytes =>
      obtain ⟨output, taken, _⟩ := run_map_eq_ok.mp ran
      obtain ⟨_, depth, free, emptied⟩ := progress.takeBytes taken
      exact .idle depth free emptied

end Writer
end SecurityKey
