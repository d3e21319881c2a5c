/-!
# Steps one after the other

A step of a machine comes to a value or fails, and in both cases it leaves a state from which
the next step is taken.  So there are two things to say about some steps in a row: what each
of them comes to (`outcomes`), and which state is left behind the last one (`stateAfter`).
Steps in two parts are taken one part after the other (`outcomes_append`,
`stateAfter_append`), so a step in the middle comes to what it comes to behind the steps before
it (`getElem?_outcomes`).
-/

set_option autoImplicit false

namespace SecurityKey

variable {ε σ α : Type}

/-! ## One step -/

/-- What an operation comes to, without the state that it leaves. -/
def outcome : EStateM.Result ε σ α → Except ε α
  | .ok value _ => .ok value
  | .error error _ => .error error

/-- The state that an operation leaves. -/
def leaves : EStateM.Result ε σ α → σ
  | .ok _ state => state
  | .error _ state => state

theorem run_map_eq_ok {β : Type} {function : α → β} {step : EStateM ε σ α} {state after : σ}
    {result : β} :
    (function <$> step) state = .ok result after ↔
      ∃ value, step state = .ok value after ∧ function value = result := by
  change EStateM.map function step state = _ ↔ _
  rw [EStateM.map]
  cases step state with
  | ok value left =>
      constructor
      · intro ran
        cases ran
        exact ⟨value, rfl, rfl⟩
      · rintro ⟨_, ran, rfl⟩
        cases ran
        rfl
  | error error left =>
      constructor
      · intro ran
        cases ran
      · rintro ⟨_, ran, _⟩
        cases ran

theorem run_bind_of_ok {β : Type} {step : EStateM ε σ α} {state between : σ} {value : α}
    (ran : step state = .ok value between) (next : α → EStateM ε σ β) :
    (step >>= next) state = next value between := by
  change EStateM.bind step next state = _
  rw [EStateM.bind, ran]

theorem run_bind_of_error {β : Type} {step : EStateM ε σ α} {state left : σ} {error : ε}
    (failed : step state = .error error left) (next : α → EStateM ε σ β) :
    (step >>= next) state = .error error left := by
  change EStateM.bind step next state = _
  rw [EStateM.bind, failed]

/-- Two states that the first step does not tell apart. -/
theorem run_bind_congr {β : Type} {step : EStateM ε σ α} {state other : σ}
    (same : step state = step other) (next : α → EStateM ε σ β) :
    (step >>= next) state = (step >>= next) other := by
  change EStateM.bind step next state = EStateM.bind step next other
  rw [EStateM.bind, EStateM.bind, same]

theorem run_bind_eq_ok {β : Type} {step : EStateM ε σ α} {next : α → EStateM ε σ β}
    {state after : σ} {result : β} :
    (step >>= next) state = .ok result after ↔
      ∃ value between, step state = .ok value between ∧ next value between = .ok result after := by
  cases ran : step state with
  | ok value left =>
      rw [run_bind_of_ok ran]
      constructor
      · intro behind
        exact ⟨value, left, rfl, behind⟩
      · rintro ⟨_, _, same, behind⟩
        cases same
        exact behind
  | error error left =>
      rw [run_bind_of_error ran]
      constructor
      · intro failed
        cases failed
      · rintro ⟨_, _, same, _⟩
        cases same

theorem run_map_eq_error {β : Type} {function : α → β} {step : EStateM ε σ α} {state after : σ}
    {error : ε} :
    (function <$> step) state = .error error after ↔ step state = .error error after := by
  change EStateM.map function step state = _ ↔ _
  rw [EStateM.map]
  cases step state with
  | ok value left =>
      constructor
      · intro ran
        cases ran
      · intro ran
        cases ran
  | error refusal left =>
      constructor
      · intro ran
        cases ran
        rfl
      · intro ran
        cases ran
        rfl

theorem outcome_map {β : Type} (function : α → β) (step : EStateM ε σ α) (state : σ) :
    outcome ((function <$> step) state) = function <$> outcome (step state) := by
  change outcome (EStateM.map function step state) = _
  rw [EStateM.map]
  cases step state with
  | ok value left => rfl
  | error error left => rfl

theorem leaves_map {β : Type} (function : α → β) (step : EStateM ε σ α) (state : σ) :
    leaves ((function <$> step) state) = leaves (step state) := by
  change leaves (EStateM.map function step state) = _
  rw [EStateM.map]
  cases step state with
  | ok value left => rfl
  | error error left => rfl

/-! ## Some steps in a row -/

/-- What each of some steps comes to.  The steps behind one that fails are taken as well. -/
def outcomes : List (EStateM ε σ α) → σ → List (Except ε α)
  | [], _ => []
  | step :: rest, state => outcome (step state) :: outcomes rest (leaves (step state))

/-- The state behind some steps. -/
def stateAfter : List (EStateM ε σ α) → σ → σ
  | [], state => state
  | step :: rest, state => stateAfter rest (leaves (step state))

theorem stateAfter_append (first second : List (EStateM ε σ α)) (state : σ) :
    stateAfter (first ++ second) state = stateAfter second (stateAfter first state) := by
  induction first generalizing state with
  | nil => rfl
  | cons step rest hypothesis => exact hypothesis (leaves (step state))

theorem outcomes_append (first second : List (EStateM ε σ α)) (state : σ) :
    outcomes (first ++ second) state =
      outcomes first state ++ outcomes second (stateAfter first state) := by
  induction first generalizing state with
  | nil => rfl
  | cons step rest hypothesis =>
      exact congrArg (outcome (step state) :: ·) (hypothesis (leaves (step state)))

theorem length_outcomes (steps : List (EStateM ε σ α)) (state : σ) :
    (outcomes steps state).length = steps.length := by
  induction steps generalizing state with
  | nil => rfl
  | cons step rest hypothesis => exact congrArg (· + 1) (hypothesis (leaves (step state)))

theorem getElem?_outcomes (before : List (EStateM ε σ α)) (step : EStateM ε σ α)
    (after : List (EStateM ε σ α)) (state : σ) :
    (outcomes (before ++ step :: after) state)[before.length]? =
      some (outcome (step (stateAfter before state))) := by
  rw [outcomes_append, List.getElem?_append_right (Nat.le_of_eq (length_outcomes before state)),
    length_outcomes, Nat.sub_self, outcomes]
  rfl

end SecurityKey
