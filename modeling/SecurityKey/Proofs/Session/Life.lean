import SecurityKey.Proofs.Session.Faults

/-!
# One session, many runs

A session object can be asked to run as often as its owner likes.  Only the first run does
anything: when it has returned, the session is done, and every later run is refused without
touching link, prompt or counters (`lives_done`).  So the first fault of the first run is
the first fault of the whole life of the session, and nothing is ever done after it
(`session_ends_at_first_fault`).

A run over a link that never falls silent need not return.  Each call is therefore watched
for a number of rounds, and a life ends with a call that has not returned by then.  Over a finite
link a run is over, and `run_ends_at_first_fault` says the same of it and of the runs behind it.
-/

set_option autoImplicit false

namespace SecurityKey

/-- A call to run a session, watched for some rounds. -/
structure Call where
  mode : Mode
  rounds : Nat

/-- What is seen of a session during a list of calls. -/
structure Life (σ π : Type) where
  /-- What the calls that returned gave back, in order. -/
  returned : List (Except Error DerivedSecret)
  /-- Everything that the session did, in order. -/
  events : List Event
  /-- The session as it stands in the end. -/
  session : Session σ π

namespace Session

variable {σ π : Type}

/-- What a run gives back and the session that it leaves, once it has returned. -/
def Progress.returned? : Progress σ π → Option (Except Error DerivedSecret × Session σ π)
  | .underway _ => none
  | .complete (.ok secret session) => some (.ok secret, session)
  | .complete (.error (.failed error) session) => some (.error error, session)
  | .complete (.error .waitsForever _) => none

/-- A run that has failed gives its error back. -/
theorem Progress.returned?_of_failed {progress : Progress σ π} {error : Error}
    (failed : progress.halted? = some (.failed error)) :
    progress.returned? = some (.error error, progress.session) := by
  cases progress with
  | underway session => cases failed
  | complete result =>
      cases result with
      | ok secret session => cases failed
      | error halt session =>
          cases failed
          rfl

/-- A run leaves the session that it gives back. -/
theorem Progress.session_of_returned {progress : Progress σ π}
    {result : Except Error DerivedSecret} {next : Session σ π}
    (returned : progress.returned? = some (result, next)) : progress.session = next := by
  cases progress with
  | underway session => cases returned
  | complete ended =>
      cases ended with
      | ok secret session =>
          cases returned
          rfl
      | error halt session =>
          cases halt with
          | failed error =>
              cases returned
              rfl
          | waitsForever => cases returned

/-- A run that is over has returned, unless it waits forever. -/
theorem Progress.exists_returned {ended : EStateM.Result Halt (Session σ π) DerivedSecret}
    (returns : outcome ended ≠ .error .waitsForever) :
    ∃ result, (Progress.complete ended).returned? = some (result, leaves ended) := by
  cases ended with
  | ok secret session => exact ⟨.ok secret, rfl⟩
  | error halt session =>
      cases halt with
      | failed error => exact ⟨.error error, rfl⟩
      | waitsForever => exact absurd rfl returns

variable [Link σ] [Prompt π] {hash : HashFunction}

/-- A fresh session is done when its run has returned. -/
theorem stage_of_returned {mode : Mode} {rounds : Nat} {session next : Session σ π}
    {result : Except Error DerivedSecret} (fresh : session.stage = .handshake)
    (returned : (runFor hash mode rounds session).returned? = some (result, next)) :
    next.stage = .done := by
  rw [runFor, if_pos fresh] at returned
  cases stands : exchangeFor hash mode rounds session with
  | underway following =>
      rw [stands] at returned
      cases returned
  | complete ended =>
      rw [stands] at returned
      cases ended with
      | ok secret following =>
          cases returned
          rfl
      | error halt following =>
          cases halt with
          | failed error =>
              cases returned
              rfl
          | waitsForever => cases returned

/-! ## Lists of calls -/

/-- The life of a session during a list of calls. -/
def lives (hash : HashFunction) : List Call → Session σ π → Life σ π
  | [], session => ⟨[], [], session⟩
  | call :: later, session =>
      let events := history hash call.mode call.rounds session
      match (runFor hash call.mode call.rounds session).returned? with
      | none => ⟨[], events, (runFor hash call.mode call.rounds session).session⟩
      | some (result, next) =>
          let life := lives hash later next
          ⟨result :: life.returned, events ++ life.events, life.session⟩

/-- The life of a session whose first run has returned. -/
theorem lives_of_returned {call : Call} {later : List Call} {session next : Session σ π}
    {result : Except Error DerivedSecret}
    (returned : (runFor hash call.mode call.rounds session).returned? = some (result, next)) :
    lives hash (call :: later) session =
      ⟨result :: (lives hash later next).returned,
        history hash call.mode call.rounds session ++ (lives hash later next).events,
        (lives hash later next).session⟩ := by
  rw [lives, returned]

/-- The life of a session whose first run has not returned. -/
theorem lives_of_not_returned {call : Call} {later : List Call} {session : Session σ π}
    (running : (runFor hash call.mode call.rounds session).returned? = none) :
    lives hash (call :: later) session =
      ⟨[], history hash call.mode call.rounds session,
        (runFor hash call.mode call.rounds session).session⟩ := by
  rw [lives, running]

/-- A session that is not fresh refuses every run and stays as it is. -/
theorem lives_done (calls : List Call) {session : Session σ π}
    (used : session.stage ≠ .handshake) :
    lives hash calls session =
      ⟨List.replicate calls.length (.error (.state .sessionFinished)), [], session⟩ := by
  induction calls with
  | nil => rfl
  | cons call later hypothesis =>
      have refused : (runFor hash call.mode call.rounds session).returned? =
          some (.error (.state .sessionFinished), session) := by
        rw [runFor, if_neg used]
        rfl
      rw [lives_of_returned refused, hypothesis, history, if_neg used]
      rfl

/-- Only the first run of a fresh session does anything. -/
theorem lives_of_first_returned {call : Call} {later : List Call} {session next : Session σ π}
    {result : Except Error DerivedSecret} (fresh : session.stage = .handshake)
    (returned : (runFor hash call.mode call.rounds session).returned? = some (result, next)) :
    lives hash (call :: later) session =
      ⟨result :: List.replicate later.length (.error (.state .sessionFinished)),
        history hash call.mode call.rounds session, next⟩ := by
  have used : next.stage ≠ .handshake := by
    rw [stage_of_returned fresh returned]
    exact Stage.noConfusion
  rw [lives_of_returned returned, lives_done later used, List.append_nil]

/-- A session does in its life what it does in its first run. -/
theorem lives_events {call : Call} {later : List Call} {session : Session σ π}
    (fresh : session.stage = .handshake) :
    (lives hash (call :: later) session).events =
      history hash call.mode call.rounds session := by
  cases returned : (runFor hash call.mode call.rounds session).returned? with
  | none => rw [lives_of_not_returned returned]
  | some pair =>
      obtain ⟨result, next⟩ := pair
      rw [lives_of_first_returned fresh returned]

/-- The life of a session leaves it as its first run does. -/
theorem lives_session {call : Call} {later : List Call} {session : Session σ π}
    (fresh : session.stage = .handshake) :
    (lives hash (call :: later) session).session =
      (runFor hash call.mode call.rounds session).session := by
  cases returned : (runFor hash call.mode call.rounds session).returned? with
  | none => rw [lives_of_not_returned returned]
  | some pair =>
      obtain ⟨result, next⟩ := pair
      rw [lives_of_first_returned fresh returned]
      exact (Progress.session_of_returned returned).symm

/-! ## Laws of a life -/

/-- The events of a life are a full account of what is done to link and prompt. -/
theorem does_lives (calls : List Call) {session : Session σ π}
    (fresh : session.stage = .handshake) :
    Does (lives hash calls session).events session (lives hash calls session).session := by
  cases calls with
  | nil => exact .nothing rfl rfl
  | cons call later =>
      rw [lives_events fresh, lives_session fresh]
      exact does_runFor hash call.mode call.rounds session

/-- A fault that is not forgiven is the last event of a life, the first run gives its error
back, and the session is done. -/
theorem lives_ends_at_fault {calls : List Call} {session : Session σ π}
    (fresh : session.stage = .handshake) {before after : List Event} {event : Event}
    {halt : Halt} (split : (lives hash calls session).events = before ++ event :: after)
    (faulty : event.fault? = some halt) (final : event.isGreeting = false) :
    after = [] ∧ ∀ error, halt = .failed error →
      (lives hash calls session).returned.head? = some (.error error) ∧
        (lives hash calls session).session.stage = .done := by
  cases calls with
  | nil => exact absurd split.symm (List.append_ne_nil_of_right_ne_nil _ (List.cons_ne_nil _ _))
  | cons call later =>
      rw [lives_events fresh] at split
      have stops : StopsAtFault (history hash call.mode call.rounds session) _ :=
        lawful_stopsAtFault.runFor call.rounds session
      obtain ⟨last, stopped⟩ := stops.eq_of_fault split faulty final
      refine ⟨last, ?_⟩
      rintro error rfl
      have returned := Progress.returned?_of_failed stopped
      rw [lives_of_first_returned fresh returned]
      exact ⟨rfl, stage_of_returned fresh returned⟩

/-- When all calls have returned, the session is fresh or done. -/
theorem lives_stage {calls : List Call} {session : Session σ π}
    (fresh : session.stage = .handshake)
    (all : (lives hash calls session).returned.length = calls.length) :
    (lives hash calls session).session.stage = .handshake ∨
      (lives hash calls session).session.stage = .done := by
  cases calls with
  | nil => exact .inl fresh
  | cons call later =>
      cases returned : (runFor hash call.mode call.rounds session).returned? with
      | none =>
          rw [lives_of_not_returned returned] at all
          cases all
      | some pair =>
          obtain ⟨result, next⟩ := pair
          rw [lives_of_first_returned fresh returned]
          exact .inr (stage_of_returned fresh returned)

/-- A session ends at its first fault.  Whatever link and prompt it has and however often it
is run:

* its events are all that is done to link and prompt;
* an operation that fails is the last one of its life, unless it is the reading of the reply
  to the start; the first run gives the error back, and the session is done;
* once the first run has returned, every other is refused and nothing changes any more;
* between runs the session is fresh or done. -/
theorem session_ends_at_first_fault (hash : HashFunction) (channel : Channel σ) (prompt : π)
    (info : HostInfo) (calls : List Call) :
    let fresh := start channel prompt info
    let life := lives hash calls fresh
    Accounts channel.writeTimeout channel.readTimeout life.events fresh.world
        life.session.world ∧
      (∀ before event after halt, life.events = before ++ event :: after →
        event.fault? = some halt → event.isGreeting = false →
          after = [] ∧ ∀ error, halt = .failed error →
            life.returned.head? = some (.error error) ∧ life.session.stage = .done) ∧
      (∀ first later result next, calls = first :: later →
        (runFor hash first.mode first.rounds fresh).returned? = some (result, next) →
          next.stage = .done ∧
            life =
              ⟨result :: List.replicate later.length (.error (.state .sessionFinished)),
                history hash first.mode first.rounds fresh, next⟩) ∧
      (life.returned.length = calls.length →
        life.session.stage = .handshake ∨ life.session.stage = .done) := by
  intro fresh life
  have unused : fresh.stage = .handshake := rfl
  refine ⟨(does_lives calls unused).accounts, ?faults, ?later, lives_stage unused⟩
  case faults =>
    intro before event after halt split faulty final
    exact lives_ends_at_fault unused split faulty final
  case later =>
    rintro first later result next rfl returned
    exact ⟨stage_of_returned unused returned, lives_of_first_returned unused returned⟩

/-! ## Runs over finite links -/

section Finite

variable {σ π : Type} [FiniteLink σ] [Prompt π] {hash : HashFunction}

/-- A session that is not fresh refuses to run and stays as it is. -/
theorem run_of_used (mode : Mode) {session : Session σ π} (used : session.stage ≠ .handshake) :
    run hash mode session = .error (.failed (.state .sessionFinished)) session :=
  if_neg used

theorem outcomes_of_used (modes : List Mode) {session : Session σ π}
    (used : session.stage ≠ .handshake) :
    outcomes (modes.map (run hash)) session =
        List.replicate modes.length (.error (.failed (.state .sessionFinished))) ∧
      stateAfter (modes.map (run hash)) session = session := by
  induction modes with
  | nil => exact ⟨rfl, rfl⟩
  | cons mode later hypothesis =>
      have refused : run hash mode session = _ := run_of_used mode used
      rw [List.map_cons, outcomes, stateAfter, refused]
      exact ⟨congrArg (_ :: ·) hypothesis.1, hypothesis.2⟩

/-- A run over a finite link ends at its first fault, which it gives back; unless it waits
forever, the session is done, and from then on it refuses to run and stays as it is. -/
theorem run_ends_at_first_fault (hash : HashFunction) (mode : Mode) (channel : Channel σ)
    (prompt : π) (info : HostInfo) :
    let fresh := start channel prompt info
    let events := runEvents hash mode fresh
    let ended := run hash mode fresh
    Accounts channel.writeTimeout channel.readTimeout events fresh.world (leaves ended).world ∧
      (∀ before event after halt, events = before ++ event :: after →
        event.fault? = some halt → event.isGreeting = false →
          after = [] ∧ outcome ended = .error halt) ∧
      (outcome ended ≠ .error .waitsForever →
        (leaves ended).stage = .done ∧ ∀ later : List Mode,
          outcomes (later.map (run hash)) (leaves ended) =
              List.replicate later.length (.error (.failed (.state .sessionFinished))) ∧
            stateAfter (later.map (run hash)) (leaves ended) = leaves ended) := by
  intro fresh events ended
  have unused : fresh.stage = .handshake := rfl
  have done : Does events fresh (leaves ended) :=
    law_of_runFor (fun events stands => Does events fresh stands.session)
      fun rounds => does_runFor hash mode rounds fresh
  have stops : StopsAtFault events (halted ended) :=
    law_of_runFor (fun events stands => StopsAtFault events stands.halted?)
      fun rounds => lawful_stopsAtFault.runFor rounds fresh
  refine ⟨done.accounts, ?faults, ?later⟩
  case faults =>
    intro before event after halt split faulty final
    obtain ⟨last, stopped⟩ := stops.eq_of_fault split faulty final
    exact ⟨last, outcome_of_halted stopped⟩
  case later =>
    intro returns
    obtain ⟨rounds, complete, _⟩ := exists_runFor hash mode fresh
    obtain ⟨result, returned⟩ := Progress.exists_returned returns
    rw [← complete] at returned
    have finished := stage_of_returned unused returned
    refine ⟨finished, fun later => outcomes_of_used later ?_⟩
    rw [finished]
    exact Stage.noConfusion

end Finite

end Session
end SecurityKey
