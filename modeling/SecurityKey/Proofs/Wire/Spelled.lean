import SecurityKey.Proofs.Wire.Told

/-!
# Writing what was spelled

A writer is judged by what it gives for the steps that it is asked to take, legal or not.  The
steps that succeeded since the root was last opened are `sinceRoot`.  Two writers are alike when
they differ only in what has no effect, and then nothing that is asked of them tells them apart
(`outcomes_of_alike`).  A writer whose output was taken is like a new one (`alike_empty`).

The main statement is `takes_spelled_tree`.  An output is the encoding of the tree that was
spelled since the root was opened, whatever was tried in between and before, and every tree
that is not too high is written when it is spelled (`outcomes_of_spells`).
-/

set_option autoImplicit false

namespace SecurityKey
namespace Writer

variable {writer : Writer} {log : List Operation}

/-! ## Writers that cannot be told apart -/

/-- Two writers that differ only in what has no effect: the keys of depths at which no object
is open, and a key that is pending outside a root. -/
structure Alike (first second : Writer) : Prop where
  bodies : first.bodies = second.bodies
  depth : first.depth = second.depth
  finished : first.finished = second.finished
  pending : 0 < first.depth → first.pending = second.pending
  keys : ∀ (level : Nat) (inside : level < maximumDepth), 0 < level → level < first.depth →
    first.keys[level] = second.keys[level]

/-- A step that has the same result for two writers that cannot be told apart, and leaves two
that cannot be told apart. -/
def Respectful {α : Type} (step : Writing α) : Prop :=
  ∀ first second : Writer, Alike first second →
    outcome (step first) = outcome (step second) ∧
      Alike (leaves (step first)) (leaves (step second))

theorem Respectful.map {α β : Type} {step : Writing α} (respectful : Respectful step)
    (function : α → β) : Respectful (function <$> step) := by
  intro first second alike
  obtain ⟨same, left⟩ := respectful first second alike
  rw [outcome_map, outcome_map, leaves_map, leaves_map, same]
  exact ⟨rfl, left⟩

theorem respectful_append (field : UInt32 → Bytes) : Respectful (append field) := by
  rintro ⟨bodies, keys, depth, inside, pending, finished⟩
    ⟨_, others, _, _, waiting, _⟩ ⟨rfl, rfl, rfl, samePending, sameKeys⟩
  cases depth with
  | zero => exact ⟨rfl, rfl, rfl, rfl, samePending, sameKeys⟩
  | succ level =>
      cases samePending (Nat.succ_pos level)
      cases pending with
      | none => exact ⟨rfl, rfl, rfl, rfl, samePending, sameKeys⟩
      | some id => exact ⟨rfl, rfl, rfl, rfl, samePending, sameKeys⟩

theorem respectful_key (id : UInt32) : Respectful (key id) :=
  fun _ _ alike => ⟨rfl, { alike with pending := fun _ => rfl }⟩

theorem set_key_eq {first second : Vector UInt32 maximumDepth} {count : Nat}
    (same : ∀ (level : Nat) (inside : level < maximumDepth), 0 < level → level < count →
      first[level] = second[level])
    (room : count < maximumDepth) (id : UInt32) (level : Nat) (inside : level < maximumDepth)
    (positive : 0 < level) (opened : level < count + 1) :
    (first.set count id room)[level] = (second.set count id room)[level] := by
  rw [Vector.getElem_set, Vector.getElem_set]
  split
  · rfl
  · rename_i apart
    exact same level inside positive (by omega)

theorem respectful_startObject : Respectful startObject := by
  rintro ⟨bodies, keys, depth, inside, pending, finished⟩
    ⟨_, others, _, _, waiting, _⟩ ⟨rfl, rfl, rfl, samePending, sameKeys⟩
  simp only [startObject]
  split
  · exact ⟨rfl, rfl, rfl, rfl, samePending, sameKeys⟩
  · rename_i full
    have room : depth < maximumDepth := Nat.lt_of_le_of_ne inside full
    split
    · split
      · exact ⟨rfl, rfl, rfl, rfl, samePending, sameKeys⟩
      · rename_i closed _
        subst closed
        refine ⟨rfl, rfl, rfl, rfl, fun _ => rfl, ?_⟩
        intro level _ positive opened
        exact absurd opened (Nat.not_lt.mpr positive)
    · rename_i nested
      cases samePending (Nat.pos_of_ne_zero nested)
      split
      · exact ⟨rfl, rfl, rfl, rfl, fun _ => rfl, set_key_eq sameKeys room _⟩
      · exact ⟨rfl, rfl, rfl, rfl, samePending, sameKeys⟩

theorem respectful_endObject : Respectful endObject := by
  rintro ⟨bodies, keys, depth, inside, pending, finished⟩
    ⟨_, others, _, _, waiting, _⟩ ⟨rfl, rfl, rfl, samePending, sameKeys⟩
  match depth, inside with
  | 0, _ => exact ⟨rfl, rfl, rfl, rfl, samePending, sameKeys⟩
  | 1, _ =>
      refine ⟨rfl, rfl, rfl, rfl, fun _ => rfl, ?_⟩
      intro level _ _ opened
      exact absurd opened (Nat.not_lt_zero level)
  | level + 2, inside =>
      have key : keys[level + 1] = others[level + 1] :=
        sameKeys (level + 1) inside (Nat.succ_pos level) (Nat.lt_succ_self _)
      simp only [endObject, key]
      refine ⟨rfl, rfl, rfl, rfl, fun _ => rfl, ?_⟩
      intro other within positive opened
      exact sameKeys other within positive (Nat.lt_succ_of_lt opened)

theorem respectful_takeBytes : Respectful takeBytes := by
  rintro ⟨bodies, keys, depth, inside, pending, finished⟩
    ⟨_, others, _, _, waiting, _⟩ ⟨rfl, rfl, rfl, samePending, sameKeys⟩
  simp only [takeBytes]
  split
  · exact ⟨rfl, rfl, rfl, rfl, samePending, sameKeys⟩
  · exact ⟨rfl, rfl, rfl, rfl, samePending, sameKeys⟩

theorem respectful_run (operation : Operation) : Respectful operation.run := by
  cases operation with
  | unsigned value | boolean value | text value | blob value | ordinal value =>
      exact (respectful_append _).map _
  | key id => exact (respectful_key id).map _
  | integer value | startArray | endArray => exact fun _ _ alike => ⟨rfl, alike⟩
  | startObject => exact respectful_startObject.map _
  | endObject => exact respectful_endObject.map _
  | takeBytes => exact respectful_takeBytes.map _

theorem outcomes_of_alike (operations : List Operation) {first second : Writer}
    (alike : Alike first second) :
    outcomes (operations.map Operation.run) first =
        outcomes (operations.map Operation.run) second ∧
      Alike (stateAfter (operations.map Operation.run) first)
        (stateAfter (operations.map Operation.run) second) := by
  induction operations generalizing first second with
  | nil => exact ⟨rfl, alike⟩
  | cons operation rest hypothesis =>
      obtain ⟨same, left⟩ := respectful_run operation first second alike
      obtain ⟨others, last⟩ := hypothesis left
      refine ⟨?_, last⟩
      rw [List.map_cons, outcomes, outcomes, same, others]

/-- A writer without an open object, in which nothing is left, is like a new one. -/
theorem alike_empty (depth : writer.depth = 0) (free : writer.finished = false)
    (emptied : Emptied writer.bodies 0) : Alike writer Writer.empty where
  bodies := by
    refine Vector.ext fun level inside => ?_
    rw [emptied level inside (Nat.zero_le level)]
    exact (Vector.getElem_replicate inside).symm
  depth := depth
  finished := free
  pending := fun opened => absurd depth (Nat.ne_of_gt opened)
  keys := fun level _ _ opened => absurd opened (depth ▸ Nat.not_lt_zero level)

/-! ## All steps together -/

/-- The steps that succeeded since a root was last opened, with those noted before. -/
def sinceRoot : List Operation → Writer → List Operation → List Operation
  | [], _, log => log
  | operation :: rest, writer, log =>
      match operation.run writer with
      | .ok _ after => sinceRoot rest after (noted writer log operation)
      | .error _ after => sinceRoot rest after log

theorem Progress.stateAfter (operations : List Operation) (progress : Progress writer log) :
    Progress (stateAfter (operations.map Operation.run) writer)
      (sinceRoot operations writer log) := by
  induction operations generalizing writer log with
  | nil => exact progress
  | cons operation rest hypothesis =>
      rw [List.map_cons, SecurityKey.stateAfter, sinceRoot]
      cases ran : operation.run writer with
      | ok result after => exact hypothesis (progress.run ran)
      | error error left =>
          have unchanged := unchanged_of_error operation writer left error ran
          subst unchanged
          exact hypothesis progress

/-! ## Steps that are accepted -/

/-- What the steps inside an object leave as it was: how many objects are open, whether there
is a finished root, and the keys that the open objects were opened under. -/
structure Kept (before after : Writer) : Prop where
  depth : after.depth = before.depth
  finished : after.finished = before.finished
  keys : ∀ (level : Nat) (inside : level < maximumDepth), level < before.depth →
    after.keys[level] = before.keys[level]

theorem Kept.refl (writer : Writer) : Kept writer writer :=
  ⟨rfl, rfl, fun _ _ _ => rfl⟩

theorem Kept.trans {before between after : Writer} (first : Kept before between)
    (second : Kept between after) : Kept before after where
  depth := second.depth.trans first.depth
  finished := second.finished.trans first.finished
  keys := fun level inside opened =>
    (second.keys level inside (first.depth ▸ opened)).trans (first.keys level inside opened)

/-- Steps inside an object that all succeed, from one writer to another. -/
inductive Accepted : List Operation → Writer → Writer → Prop where
  | nil (writer : Writer) : Accepted [] writer writer
  | cons {operation : Operation} {rest : List Operation} {writer middle after : Writer}
      (nested : 0 < writer.depth) (ran : operation.run writer = .ok none middle)
      (others : Accepted rest middle after) : Accepted (operation :: rest) writer after

theorem Accepted.append {first second : List Operation} {writer middle after : Writer}
    (accepted : Accepted first writer middle) (others : Accepted second middle after) :
    Accepted (first ++ second) writer after := by
  induction accepted with
  | nil => exact others
  | cons nested ran _ hypothesis => exact .cons nested ran (hypothesis others)

theorem Accepted.eq {operations : List Operation} {writer after : Writer}
    (accepted : Accepted operations writer after) (log : List Operation) :
    outcomes (operations.map Operation.run) writer = operations.map (fun _ => .ok none) ∧
      stateAfter (operations.map Operation.run) writer = after ∧
      sinceRoot operations writer log = log ++ operations := by
  induction accepted generalizing log with
  | nil => exact ⟨rfl, rfl, (List.append_nil log).symm⟩
  | @cons operation rest writer middle after nested ran _ hypothesis =>
      have appended : noted writer log operation = log ++ [operation] := by
        cases operation with
        | startObject => exact if_neg (Nat.ne_of_gt nested)
        | _ => rfl
      obtain ⟨same, state, noted⟩ := hypothesis (log ++ [operation])
      rw [List.map_cons, outcomes, stateAfter, sinceRoot, ran, List.map_cons]
      refine ⟨congrArg _ same, state, ?_⟩
      change sinceRoot rest middle (Writer.noted writer log operation) = _
      rw [appended, noted, List.append_assoc]
      rfl

theorem run_array {operation : Operation} (array : operation.IsArray) (writer : Writer) :
    operation.run writer = .ok none writer := by
  cases operation <;> first | rfl | cases array

theorem append_of_pending (field : UInt32 → Bytes) {id : UInt32}
    (pending : writer.pending = some id) (nested : 0 < writer.depth) :
    ∃ after, append field writer = .ok () after ∧ Kept writer after ∧
      after.pending = some id := by
  obtain ⟨bodies, keys, depth, inside, waiting, finished⟩ := writer
  cases pending
  cases depth with
  | zero => exact absurd nested (Nat.lt_irrefl 0)
  | succ level => exact ⟨_, rfl, ⟨rfl, rfl, fun _ _ _ => rfl⟩, rfl⟩

theorem run_leaf {operation : Operation} {leaf : Leaf} (written : operation.leaf? = some leaf)
    {id : UInt32} (pending : writer.pending = some id) (nested : 0 < writer.depth) :
    ∃ after, operation.run writer = .ok none after ∧ Kept writer after ∧
      after.pending = some id := by
  obtain ⟨after, appended, kept, waiting⟩ := append_of_pending leaf.field pending nested
  refine ⟨after, ?_, kept, waiting⟩
  cases operation with
  | unsigned value | boolean value | text value | blob value | ordinal value =>
      cases written
      exact run_map_eq_ok.mpr ⟨(), appended, rfl⟩
  | key | integer | startArray | endArray | startObject | endObject | takeBytes => cases written

/-- The writer in which a nested object has been opened. -/
def nestedUnder (writer : Writer) (id : UInt32) (room : writer.depth < maximumDepth) : Writer where
  bodies := writer.bodies
  keys := writer.keys.set writer.depth id room
  depth := writer.depth + 1
  depth_le := room
  pending := none
  finished := writer.finished

theorem run_startObject {id : UInt32} (pending : writer.pending = some id)
    (nested : 0 < writer.depth) (room : writer.depth < maximumDepth) :
    Operation.startObject.run writer = .ok none (writer.nestedUnder id room) := by
  refine run_map_eq_ok.mpr ⟨(), ?_, rfl⟩
  rw [startObject, dif_neg (Nat.ne_of_lt room), if_neg (Nat.ne_of_gt nested)]
  simp only [pending]
  rfl

theorem run_endObject {level : Nat} (depth : writer.depth = level + 2)
    (inside : level + 1 < maximumDepth) :
    ∃ after, Operation.endObject.run writer = .ok none after ∧ after.depth = level + 1 ∧
      after.finished = writer.finished ∧ after.keys = writer.keys ∧
      after.pending = some writer.keys[level + 1] := by
  obtain ⟨bodies, keys, _, _, waiting, finished⟩ := writer
  cases depth
  exact ⟨_, rfl, rfl, rfl, rfl, rfl⟩

/-- Inside an object, whatever spells a tree for which there is room is accepted. -/
theorem Spells.accepted {pending last : Option UInt32} {operations : List Operation}
    {tree : Tree} (spelled : Spells pending operations tree last)
    (waiting : writer.pending = pending) (nested : 0 < writer.depth)
    (room : writer.depth + tree.height ≤ maximumDepth) :
    ∃ after, Accepted operations writer after ∧ Kept writer after ∧ after.pending = last := by
  induction spelled generalizing writer with
  | nil => exact ⟨writer, .nil writer, .refl writer, waiting⟩
  | @key _ _ id _ _ _ hypothesis =>
      have keyed : ({ writer with pending := some id } : Writer).pending = some id := rfl
      obtain ⟨after, accepted, kept, pending⟩ := hypothesis keyed nested room
      exact ⟨after, .cons nested rfl accepted, ⟨kept.depth, kept.finished, kept.keys⟩, pending⟩
  | array array _ hypothesis =>
      obtain ⟨after, accepted, kept, pending⟩ := hypothesis waiting nested room
      exact ⟨after, .cons nested (run_array array writer) accepted, kept, pending⟩
  | leaf written _ hypothesis =>
      obtain ⟨middle, ran, first, pending⟩ := run_leaf written waiting nested
      obtain ⟨after, accepted, kept, last⟩ :=
        hypothesis pending (first.depth ▸ nested) (first.depth ▸ room)
      exact ⟨after, .cons nested ran accepted, first.trans kept, last⟩
  | @object _ _ id _ _ children tree _ _ insideHypothesis hypothesis =>
      rw [Tree.height] at room
      have inside : writer.depth < maximumDepth := by omega
      have unset : (writer.nestedUnder id inside).pending = none := rfl
      have deeper : (writer.nestedUnder id inside).depth + children.height ≤ maximumDepth := by
        change writer.depth + 1 + children.height ≤ maximumDepth
        omega
      obtain ⟨middle, acceptedInside, keptInside, _⟩ :=
        insideHypothesis unset (Nat.succ_pos _) deeper
      obtain ⟨level, top⟩ := Nat.exists_eq_add_one_of_ne_zero (Nat.ne_of_gt nested)
      have within : level + 1 < maximumDepth := top ▸ inside
      have depth : middle.depth = level + 2 := keptInside.depth.trans (congrArg (· + 1) top)
      obtain ⟨closed, ended, closedDepth, finished, keys, restored⟩ := run_endObject depth within
      -- The key of the closed object is the one that it was opened under.
      have opener : middle.keys[level + 1] = id := by
        rw [keptInside.keys (level + 1) within (by rw [← top]; exact Nat.lt_succ_self _)]
        simp only [nestedUnder, top]
        exact Vector.getElem_set_self within
      rw [opener] at restored
      have kept : Kept writer closed := by
        refine ⟨closedDepth.trans top.symm, finished.trans keptInside.finished, ?_⟩
        intro other bound opened
        rw [keys, keptInside.keys other bound (Nat.lt_succ_of_lt opened)]
        exact Vector.getElem_set_ne inside bound (Nat.ne_of_gt opened)
      obtain ⟨after, accepted, keptBehind, pending⟩ :=
        hypothesis restored (kept.depth ▸ nested) (by rw [kept.depth]; omega)
      have whole := acceptedInside.append
        (.cons (depth ▸ Nat.succ_pos _) ended accepted)
      exact ⟨after, .cons nested (run_startObject waiting nested inside) whole,
        kept.trans keptBehind, pending⟩

theorem run_startObject_empty :
    ∃ after, Operation.startObject.run Writer.empty = .ok none after ∧ after.depth = 1 ∧
      after.pending = none := by
  exact ⟨_, rfl, rfl, rfl⟩

theorem run_endObject_root (depth : writer.depth = 1) :
    ∃ after, Operation.endObject.run writer = .ok none after ∧ after.depth = 0 ∧
      after.finished = true := by
  obtain ⟨bodies, keys, _, _, waiting, finished⟩ := writer
  cases depth
  exact ⟨_, rfl, rfl, rfl⟩

theorem takeBytes_of_finished (finished : writer.finished = true) (depth : writer.depth = 0) :
    ∃ output after, takeBytes writer = .ok output after :=
  ⟨_, _, if_pos ⟨finished, depth⟩⟩

/-- A tree that is not too high is written and taken when it is spelled. -/
theorem outcomes_of_spells {inner : List Operation} {tree : Tree} {last : Option UInt32}
    (spelled : Spells none inner tree last) (room : tree.height < maximumDepth) :
    outcomes ((.startObject :: (inner ++ [.endObject, .takeBytes])).map Operation.run)
        Writer.empty =
      .ok none :: (inner.map (fun _ => .ok none) ++ [.ok none, .ok (some tree.encode)]) := by
  obtain ⟨started, ran, depth, pending⟩ := run_startObject_empty
  obtain ⟨told, accepted, kept, _⟩ :=
    spelled.accepted pending (by omega) (by omega : started.depth + tree.height ≤ maximumDepth)
  obtain ⟨closed, ended, closedDepth, finished⟩ :=
    run_endObject_root (kept.depth.trans depth)
  obtain ⟨same, state, noted⟩ := accepted.eq [.startObject]
  have progress := (progress_empty.run ran).stateAfter inner
  rw [state] at progress
  change Progress told (sinceRoot inner started [.startObject]) at progress
  rw [noted] at progress
  have complete : Progress closed ([.startObject] ++ inner ++ [.endObject]) := progress.run ended
  obtain ⟨output, left, taken⟩ := takeBytes_of_finished finished closedDepth
  obtain ⟨⟨again, behind, _, _, whole, _, respelled, rfl⟩, _⟩ := complete.takeBytes taken
  have parted : inner ++ .endObject :: [] = again ++ .endObject :: behind := by
    simpa using whole
  obtain ⟨_, rfl, _⟩ := spelled.unique respelled parted
  have given : Operation.takeBytes.run closed = .ok (some tree.encode) left :=
    run_map_eq_ok.mpr ⟨_, taken, rfl⟩
  have behindInner : outcomes ([.endObject, .takeBytes].map Operation.run) told =
      [.ok none, .ok (some tree.encode)] := by
    simp only [List.map_cons, List.map_nil, outcomes, ended, leaves, given, outcome]
  rw [List.map_cons, outcomes, ran, List.map_append, outcomes_append, leaves, same, state,
    behindInner]
  rfl

/-- **A writer gives the tree that it was told.**  A step that fails leaves every writer as it
was.  Behind any steps, an output that is taken is the encoding of the tree spelled by those
that succeeded since the root was opened, and from then on the writer does what a new one does.
The body of a depth that is not open is empty, unless it is the finished root, which can be
taken.  Every tree that is not too high is written and taken when it is spelled. -/
theorem takes_spelled_tree :
    (∀ (operation : Operation) (writer left : Writer) (error : Error),
      operation.run writer = .error error left → left = writer) ∧
    (∀ (operations : List Operation) (writer : Writer),
      writer = stateAfter (operations.map Operation.run) Writer.empty →
        (∀ (output : Bytes) (after : Writer), takeBytes writer = .ok output after →
          (∃ (inner behind : List Operation) (tree : Tree) (last : Option UInt32),
            sinceRoot operations Writer.empty [] =
                .startObject :: (inner ++ .endObject :: behind) ∧
              (∀ operation ∈ behind, operation.IsQuiet) ∧ Spells none inner tree last ∧
              output = tree.encode) ∧
          ∀ later : List Operation,
            outcomes (later.map Operation.run) after =
                outcomes (later.map Operation.run) Writer.empty ∧
              (stateAfter (later.map Operation.run) after).depth =
                (stateAfter (later.map Operation.run) Writer.empty).depth) ∧
        ∀ (level : Nat) (inside : level < maximumDepth), writer.depth ≤ level →
          writer.bodies[level] = [] ∨
            level = 0 ∧ ∃ after, takeBytes writer = .ok writer.bodies[level] after) ∧
    ∀ (inner : List Operation) (tree : Tree) (last : Option UInt32), Spells none inner tree last →
      tree.height < maximumDepth →
        outcomes ((.startObject :: (inner ++ [.endObject, .takeBytes])).map Operation.run)
            Writer.empty =
          .ok none :: (inner.map (fun _ => .ok none) ++ [.ok none, .ok (some tree.encode)]) := by
  refine ⟨fun operation => unchanged_of_error operation, ?_,
    fun _ _ _ spelled room => outcomes_of_spells spelled room⟩
  rintro operations writer rfl
  have progress := progress_empty.stateAfter operations
  refine ⟨?_, fun level inside beyond => progress.vacant inside beyond⟩
  intro output after taken
  obtain ⟨spelled, depth, free, emptied⟩ := progress.takeBytes taken
  refine ⟨spelled, fun later => ?_⟩
  obtain ⟨same, alike⟩ := outcomes_of_alike later (alike_empty depth free emptied)
  exact ⟨same, alike.depth⟩

/-- Steps for an object with an empty object inside and a truth value behind it under the same
key.  The first and the sixth of them fail. -/
def childSteps : List Operation :=
  [.unsigned 7, .startObject, .key 3, .startObject, .endObject, .integer 5, .boolean true,
    .endObject]

/-- The fields that are spelled by `childSteps`. -/
def childTree : Tree := .object 3 .nil (.leaf 3 (.number 1) .nil)

theorem takes_spelled_tree_of_child :
    (∃ error, Operation.run (.unsigned 7) Writer.empty = .error error Writer.empty) ∧
      ∃ output after,
        takeBytes (stateAfter (childSteps.map Operation.run) Writer.empty) = .ok output after ∧
          (∃ inner behind tree last,
            sinceRoot childSteps Writer.empty [] =
                .startObject :: (inner ++ .endObject :: behind) ∧
              Spells none inner tree last ∧ output = tree.encode) ∧
          outcomes (childSteps.map Operation.run) after =
            outcomes (childSteps.map Operation.run) Writer.empty ∧
          (stateAfter (childSteps.map Operation.run) Writer.empty).bodies[1]? = some [] ∧
          outcomes ([Operation.startObject, .key 3, .startObject, .endObject, .boolean true,
              .endObject, .takeBytes].map Operation.run) Writer.empty =
            [.ok none, .ok none, .ok none, .ok none, .ok none, .ok none,
              .ok (some childTree.encode)] := by
  obtain ⟨unchanged, told, written⟩ := takes_spelled_tree
  obtain ⟨takes, vacant⟩ := told childSteps _ rfl
  have refused : ∃ error left, Operation.run (.unsigned 7) Writer.empty = .error error left :=
    ⟨_, _, rfl⟩
  obtain ⟨error, left, refused⟩ := refused
  have same := unchanged _ _ _ _ refused
  rw [same] at refused
  have ready : ∃ output after,
      takeBytes (stateAfter (childSteps.map Operation.run) Writer.empty) = .ok output after :=
    takeBytes_of_finished rfl rfl
  obtain ⟨output, after, taken⟩ := ready
  obtain ⟨⟨inner, behind, tree, last, noted, _, spelled, encoded⟩, later⟩ := takes _ _ taken
  have inside : 1 < maximumDepth := by decide
  have emptied : (stateAfter (childSteps.map Operation.run) Writer.empty).bodies[1] = [] := by
    rcases vacant 1 inside (Nat.zero_le 1) with empty | ⟨outermost, _⟩
    · exact empty
    · cases outermost
  have spelling : Spells none [.key 3, .startObject, .endObject, .boolean true] childTree
      (some 3) :=
    .key (.object (.nil none) (.leaf rfl (.nil (some 3))))
  exact ⟨⟨error, refused⟩, output, after, taken,
    ⟨inner, behind, tree, last, noted, spelled, encoded⟩, (later childSteps).1,
    (Vector.getElem?_eq_getElem inside).trans (congrArg some emptied),
    written _ childTree _ spelling (by decide)⟩

end Writer
end SecurityKey
