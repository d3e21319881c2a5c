import SecurityKey.Proofs.Link.Waiting
import SecurityKey.Proofs.Session.Faults
import SecurityKey.Proofs.Session.Written

/-!
# Everything comes to an end

Over a link that has a budget, whatever is called ends.  Each report that arrives takes from the
budget (`arrivals_add_budget_le`), and at most one read fails, since the first fault is the end
(`StopsAtFault.reads_le`).  A conversation that goes on after a round has received a message in
it, so it has no more such rounds than reports arrive (`rounds_le_arrivals`).

A send never waits forever, and a run that does is waiting in a read
(`exists_read_of_run_waitsForever`).  `calls_end` says for devices in memory and for byte
streams how soon each call ends, and what it is that may last forever.
-/

set_option autoImplicit false

namespace SecurityKey

/-! ## Counting reads -/

/-- Whether a report was read. -/
def Event.isArrival : Event → Bool
  | .read (.ok _) => true
  | _ => false

/-- Whether an event is a read, be there a report or not. -/
def Event.isRead : Event → Bool
  | .read _ => true
  | _ => false

/-- Every report that is read takes from the budget of the link. -/
theorem arrivals_add_budget_le {σ π : Type} [Link σ] [Prompt π] {budget : σ → Nat}
    (spends : Link.Spends budget) {writeTimeout : Nat} {readTimeout : Deadline}
    {events : List Event} {before after : σ × π}
    (accounts : Accounts writeTimeout readTimeout events before after) :
    events.countP Event.isArrival + budget after.1 ≤ budget before.1 := by
  induction accounts with
  | nil world => exact Nat.le_of_eq (Nat.zero_add _)
  | @cons event rest before middle after happens others hypothesis =>
      obtain ⟨link, prompt⟩ := before
      cases event with
      | wrote report result =>
          obtain ⟨_, rfl⟩ := happens
          exact Nat.le_trans hypothesis (spends.write _ _ _)
      | read result =>
          obtain ⟨came, rfl⟩ := happens
          cases arrived : Link.read readTimeout link with
          | ok report next =>
              rw [arrived] at came hypothesis
              subst came
              have spent := spends.read arrived
              dsimp only [leaves] at hypothesis ⊢
              rw [List.countP_cons_of_pos rfl]
              omega
          | error halt next =>
              rw [arrived] at came hypothesis
              subst came
              exact Nat.le_trans hypothesis (spends.readFails arrived)
      | shown line =>
          cases happens
          exact hypothesis
      | asked interaction result =>
          obtain ⟨question, _, _, rfl⟩ := happens
          exact hypothesis
      | handed | assembled | received | decoded =>
          cases happens
          exact hypothesis

/-- A read that no session ends for is an arrival. -/
theorem Event.isArrival_of_harmless {event : Event} (read : event.isRead)
    (harmless : event.Harmless) : event.isArrival := by
  cases event with
  | read result =>
      cases result with
      | ok report => rfl
      | error halt =>
          rcases harmless with greeting | sound
          · cases greeting
          · cases sound
  | handed | wrote | assembled | received | decoded | shown | asked => cases read

theorem countP_isRead_le_of_harmless {events : List Event}
    (harmless : ∀ event ∈ events, event.Harmless) :
    events.countP Event.isRead ≤ events.countP Event.isArrival :=
  List.countP_mono_left fun event member read =>
    Event.isArrival_of_harmless read (harmless event member)

/-- Of events of which at most the last is a fault, at most one is a read that fails. -/
theorem StopsAtFault.reads_le {events : List Event} {stop : Option Halt}
    (stops : StopsAtFault events stop) :
    events.countP Event.isRead ≤ events.countP Event.isArrival + 1 := by
  cases stops with
  | harmless _ harmless => exact Nat.le_succ_of_le (countP_isRead_le_of_harmless harmless)
  | @fault before last halt harmless faulty =>
      have earlier := countP_isRead_le_of_harmless harmless
      have final : [last].countP Event.isRead ≤ 1 := List.countP_le_length
      rw [List.countP_append, List.countP_append]
      omega

/-! ## Calls on a channel -/

namespace Channel

variable {σ : Type} [Link σ]

/-- A message that is received has at least one report. -/
theorem arrivals_pos_of_collect {assembler : Reassembler} {channel next : Channel σ}
    {message : RawMessage} (received : collect assembler channel = .ok message next) :
    0 < (collectEvents assembler channel).countP Event.isArrival := by
  fun_induction collect assembler channel with
  | case1 | case4 => cases received
  | case2 assembler channel report link arrived counted following pushed hypothesis =>
      rw [collectEvents_of_more arrived pushed, List.countP_cons_of_pos rfl]
      exact Nat.succ_pos _
  | case3 assembler channel report link arrived counted message following pushed =>
      rw [collectEvents_of_message arrived pushed]
      exact Nat.succ_pos _

/-- A send writes no more reports than its message takes. -/
theorem length_writtenReports_le (message : RawMessage) (channel : Channel σ) :
    (writtenReports (sendEvents (.ok message) channel)).length ≤
      Report.count message.payload.length := by
  rw [sendEvents]
  cases framed : message.packetize with
  | error error => exact Nat.zero_le _
  | ok reports =>
      have beginning := (writtenReports_writeEvents reports channel).1
      exact Nat.le_trans beginning.length_le (Nat.le_of_eq (RawMessage.length_packetize framed))

section Timely

variable (timely : Link.Timely σ)
include timely

theorem writeReports_ne_waitsForever (reports : List Report) (channel next : Channel σ) :
    writeReports reports channel ≠ .error .waitsForever next := by
  induction reports generalizing channel with
  | nil => exact nofun
  | cons report rest hypothesis =>
      intro run
      rw [writeReports] at run
      split at run
      · exact hypothesis _ run
      · rename_i halt link failed
        cases run
        exact timely _ _ _ _ failed

/-- Sending never waits forever: every write has a deadline. -/
theorem sendEncoded_ne_waitsForever (encoded : Except Error RawMessage)
    (channel next : Channel σ) : sendEncoded encoded channel ≠ .error .waitsForever next := by
  intro run
  cases encoded with
  | error error => cases run
  | ok message =>
      rw [sendEncoded, send] at run
      split at run
      · cases run
      · split at run
        · cases run
        · rename_i failed
          cases run
          exact writeReports_ne_waitsForever timely _ _ _ failed

end Timely

/-- What receives forever is waiting in a read. -/
theorem exists_read_of_collect_waitsForever {assembler : Reassembler} {channel next : Channel σ}
    (run : collect assembler channel = .error .waitsForever next) :
    ∃ link, Link.read channel.readTimeout link = .error .waitsForever next.link := by
  fun_induction collect assembler channel with
  | case1 assembler channel halt link failed =>
      cases run
      exact ⟨_, failed⟩
  | case2 assembler channel report link arrived counted following pushed hypothesis =>
      exact hypothesis run
  | case3 | case4 => cases run

/-- So is what sends a request and waits for the reply forever. -/
theorem exists_read_of_request_waitsForever (timely : Link.Timely σ)
    {encoded : Except Error RawMessage} {channel next : Channel σ}
    (run : request encoded channel = .error .waitsForever next) :
    ∃ link, Link.read channel.readTimeout link = .error .waitsForever next.link := by
  have deadlines := steady_timeouts.sendEncoded encoded channel
  cases sent : sendEncoded encoded channel with
  | ok _ after =>
      have received : receive after = .error .waitsForever next :=
        (run_bind_of_ok sent fun _ => receive).symm.trans run
      rw [sent] at deadlines
      have same : after.readTimeout = channel.readTimeout := congrArg Prod.snd deadlines
      rw [← same]
      exact exists_read_of_collect_waitsForever received
  | error halt after =>
      have failed := (run_bind_of_error sent fun _ => receive).symm.trans run
      cases failed
      exact absurd sent (sendEncoded_ne_waitsForever timely _ _ _)

end Channel

/-! ## Runs -/

namespace Session

variable {σ π : Type} {hash : HashFunction} {mode : Mode}

section Waiting

variable [Link σ] [Prompt π] (timely : Link.Timely σ)
include timely

omit [Prompt π] in
theorem send_ne_waitsForever (request : Except Error RawMessage) (session : Session σ π) :
    halted (send request session) ≠ some .waitsForever := by
  intro halts
  rw [send, halted_onChannel] at halts
  cases run : Channel.sendEncoded request
      (session.note (sendingRecords session.channel.writeTimeout request)).channel with
  | ok _ next =>
      rw [run] at halts
      cases halts
  | error halt next =>
      rw [run] at halts
      cases halts
      exact Channel.sendEncoded_ne_waitsForever timely _ _ _ run

/-- No move waits forever. -/
theorem makeMove_ne_waitsForever (move : Except Error Move) (session : Session σ π) :
    (makeMove move session).halted? ≠ some .waitsForever := by
  intro halts
  cases move with
  | error error => cases halts
  | ok move =>
      cases move with
      | wait => cases halts
      | finish secret => cases halts
      | interact interaction =>
          rw [makeMove, halted?_goOn] at halts
          cases asked : consult interaction session.prompt with
          | error error prompt =>
              rw [interact_of_error asked] at halts
              cases halts
          | ok text prompt =>
              rw [interact_of_ok asked] at halts
              exact send_ne_waitsForever timely _ _ halts
      | advance request stage =>
          rw [makeMove, halted?_goOn, halted_advance] at halts
          exact send_ne_waitsForever timely _ _ halts

/-- A round that waits forever is waiting in a read. -/
theorem exists_read_of_round_waitsForever {session next : Session σ π}
    (run : round hash mode session = .complete (.error .waitsForever next)) :
    ∃ link, Link.read session.channel.readTimeout link =
      .error .waitsForever next.channel.link := by
  rw [round] at run
  cases arrived : Channel.receive session.channel with
  | error halt channel =>
      rw [arrived] at run
      cases run
      exact Channel.exists_read_of_collect_waitsForever arrived
  | ok message channel =>
      rw [arrived] at run
      have halts := congrArg Progress.halted? run
      exact absurd halts (makeMove_ne_waitsForever timely _ _)

end Waiting

/-- Over any link, a conversation that still goes on after some rounds has had a report arrive in
each of them. -/
theorem rounds_le_arrivals [Link σ] [Prompt π] (rounds : Nat) {session next : Session σ π}
    (underway : exchangeFor hash mode rounds session = .underway next) :
    rounds ≤ (exchangeEvents hash mode rounds session).countP Event.isArrival := by
  induction rounds generalizing next with
  | zero => exact Nat.zero_le _
  | succ rounds hypothesis =>
      rw [exchangeFor_succ] at underway
      rw [exchangeEvents, List.countP_append]
      cases stands : exchangeFor hash mode rounds session with
      | complete result =>
          rw [stands] at underway
          cases underway
      | underway following =>
          rw [stands] at underway
          have earlier := hypothesis stands
          have made : round hash mode following = .underway next := underway
          rw [Progress.nextEvents, roundEvents, List.countP_append]
          rw [round] at made
          cases arrived : Channel.receive following.channel with
          | error halt channel =>
              rw [arrived] at made
              cases made
          | ok message channel =>
              have some := Channel.arrivals_pos_of_collect arrived
              omega

section Finite

variable [FiniteLink σ] [Prompt π]

/-- A run over a link with a budget has ended after one round more than the budget. -/
theorem runFor_of_budget {budget : σ → Nat} (spends : Link.Spends budget)
    (session : Session σ π) :
    runFor hash mode (budget session.channel.link + 1) session =
      .complete (run hash mode session) := by
  cases ended : runFor hash mode (budget session.channel.link + 1) session with
  | complete result => rw [run_of_runFor ended]
  | underway next =>
      rw [runFor] at ended
      split at ended
      · cases stands : exchangeFor hash mode (budget session.channel.link + 1) session with
        | complete result =>
            rw [stands] at ended
            cases ended
        | underway following =>
            have many := rounds_le_arrivals _ stands
            have few := arrivals_add_budget_le spends
              (does_exchangeFor hash mode (budget session.channel.link + 1) session).accounts
            dsimp only [world] at few
            omega
      · cases ended

theorem exists_read_of_converse_waitsForever (timely : Link.Timely σ) {session next : Session σ π}
    (waits : converse hash mode session = .error .waitsForever next) :
    ∃ link, Link.read session.channel.readTimeout link =
      .error .waitsForever next.channel.link := by
  fun_induction converse hash mode session with
  | case1 session following made hypothesis =>
      have deadlines := (does_round hash mode session).timeouts
      rw [made] at deadlines
      have same : following.channel.readTimeout = session.channel.readTimeout :=
        congrArg Prod.snd deadlines
      rw [← same]
      exact hypothesis waits
  | case2 session result made =>
      subst waits
      exact exists_read_of_round_waitsForever timely made

theorem exists_read_of_exchange_waitsForever (timely : Link.Timely σ) {session next : Session σ π}
    (waits : exchange hash mode session = .error .waitsForever next) :
    ∃ link, Link.read session.channel.readTimeout link =
      .error .waitsForever next.channel.link := by
  have deadlines := (does_send HostInfo.opening session).timeouts
  rw [exchange] at waits
  cases sent : send HostInfo.opening session with
  | ok _ following =>
      rw [sent] at waits deadlines
      have same : following.channel.readTimeout = session.channel.readTimeout :=
        congrArg Prod.snd deadlines
      rw [← same]
      exact exists_read_of_converse_waitsForever timely waits
  | error halt following =>
      rw [sent] at waits
      cases waits
      have halts := send_ne_waitsForever timely HostInfo.opening session
      rw [sent] at halts
      exact absurd rfl halts

/-- A run that waits forever is waiting in a read. -/
theorem exists_read_of_run_waitsForever (timely : Link.Timely σ) {session next : Session σ π}
    (waits : run hash mode session = .error .waitsForever next) :
    ∃ link, Link.read session.channel.readTimeout link =
      .error .waitsForever next.channel.link := by
  rw [run] at waits
  split at waits
  · cases exchanged : exchange hash mode session with
    | ok secret last =>
        rw [exchanged] at waits
        cases waits
    | error halt last =>
        rw [exchanged] at waits
        cases halt with
        | failed error => cases waits
        | waitsForever =>
            cases waits
            exact exists_read_of_exchange_waitsForever timely exchanged
  · cases waits

end Finite
end Session

/-! ## Calls -/

/-- Every call over a kind of link comes to its end.  The budget of the link bounds the reports
that are read and the rounds of a run, and the only thing that may last forever is a wait, of
which `Stuck` says with which deadline it goes on and how the link stands. -/
structure CallsEnd (σ : Type) [FiniteLink σ] (budget : σ → Nat) (Stuck : Deadline → σ → Prop) :
    Prop where
  send : ∀ (message : RawMessage) (channel : Channel σ),
    (writtenReports (Channel.sendEvents (.ok message) channel)).length ≤
        Report.count message.payload.length ∧
      ∀ next, Channel.send message channel ≠ .error .waitsForever next
  receive : ∀ channel : Channel σ,
    (Channel.collectEvents .idle channel).countP Event.isRead ≤ budget channel.link + 1 ∧
      ∀ next, Channel.receive channel = .error .waitsForever next →
        Stuck channel.readTimeout next.link
  request : ∀ (encoded : Except Error RawMessage) (channel : Channel σ),
    (∀ sent, Channel.sendEncoded encoded channel = .ok () sent →
        (Channel.collectEvents .idle sent).countP Event.isRead ≤ budget channel.link + 1) ∧
      ∀ next, Channel.request encoded channel = .error .waitsForever next →
        Stuck channel.readTimeout next.link
  run : ∀ {π : Type} [Prompt π] (hash : HashFunction) (mode : Mode) (session : Session σ π),
    Session.runFor hash mode (budget session.channel.link + 1) session =
        .complete (Session.run hash mode session) ∧
      (∀ rounds, (Session.history hash mode rounds session).countP Event.isRead ≤
        budget session.channel.link + 1) ∧
      ∀ next, Session.run hash mode session = .error .waitsForever next →
        Stuck session.channel.readTimeout next.channel.link

section Calls

variable {σ : Type} [FiniteLink σ] {budget : σ → Nat}

theorem Channel.reads_collect_le (spends : Link.Spends budget) (channel : Channel σ) :
    (collectEvents .idle channel).countP Event.isRead ≤ budget channel.link + 1 := by
  have few := arrivals_add_budget_le spends
    (accounts_collect .idle channel ClosedPrompt.closed)
  have all := (stops_collect .idle channel).reads_le
  dsimp only at few
  omega

theorem Channel.budget_sendEncoded_le (spends : Link.Spends budget)
    {encoded : Except Error RawMessage} {channel sent : Channel σ}
    (run : sendEncoded encoded channel = .ok () sent) : budget sent.link ≤ budget channel.link := by
  have left := arrivals_add_budget_le spends
    (accounts_sendEncoded encoded channel ClosedPrompt.closed)
  rw [run] at left
  exact Nat.le_trans (Nat.le_add_left _ _) left

/-- Calls end over every link with a budget whose writes do not wait forever. -/
theorem callsEnd_of_spends (spends : Link.Spends budget) (timely : Link.Timely σ)
    {Stuck : Deadline → σ → Prop} (stuck : ∀ {deadline : Deadline} {link next : σ},
      Link.read deadline link = .error .waitsForever next → Stuck deadline next) :
    CallsEnd σ budget Stuck where
  send message channel :=
    ⟨Channel.length_writtenReports_le message channel,
      Channel.sendEncoded_ne_waitsForever timely (.ok message) channel⟩
  receive channel := by
    refine ⟨Channel.reads_collect_le spends channel, fun next waits => ?_⟩
    obtain ⟨link, read⟩ := Channel.exists_read_of_collect_waitsForever waits
    exact stuck read
  request encoded channel := by
    refine ⟨fun sent run => ?_, fun next waits => ?_⟩
    · exact Nat.le_trans (Channel.reads_collect_le spends sent)
        (Nat.succ_le_succ (Channel.budget_sendEncoded_le spends run))
    · obtain ⟨link, read⟩ := Channel.exists_read_of_request_waitsForever timely waits
      exact stuck read
  run hash mode session := by
    refine ⟨Session.runFor_of_budget spends session, fun rounds => ?_, fun next waits => ?_⟩
    · have few := arrivals_add_budget_le spends
        (Session.does_runFor hash mode rounds session).accounts
      have stops : StopsAtFault (Session.history hash mode rounds session) _ :=
        Session.lawful_stopsAtFault.runFor rounds session
      have all := stops.reads_le
      dsimp only [Session.world] at few
      omega
    · obtain ⟨link, read⟩ := Session.exists_read_of_run_waitsForever timely waits
      exact stuck read

end Calls

/-- Every call over a device in memory and over a byte stream comes to its end, however often the
device lets the host go on and however long the messages are that it announces:

* a send writes no more reports than its message takes, and it never waits forever;
* a receive, a request and a run read at most one report more than the device has to give, and a
  run has at most as many rounds;
* over a device in memory nothing waits forever; over a byte stream only a read does, and exactly
  if it has no deadline and the stream has less than a report left and stays silent behind it;
* a report is read in no more reads of the stream than it has bytes, and written in no more
  writes. -/
theorem calls_end :
    CallsEnd MemoryLink MemoryLink.supply (fun _ _ => False) ∧
    CallsEnd StreamLink StreamLink.wholeReports (fun deadline link =>
      deadline = none ∧ link.stream.atEnd = .silent ∧ link.stream.input = []) ∧
    (∀ (deadline : Deadline) (link next : StreamLink),
      Link.read deadline link = .error .waitsForever next ↔
        next.numbered = link.numbered ∧
          ByteStream.Hangs reportSize deadline link.stream next.stream) ∧
    (∀ (deadline : Deadline) (stream : ByteStream), ∃ reads ≤ reportSize,
      ByteStream.Reading reads reportSize deadline stream
        (ByteStream.readExactly reportSize deadline stream)) ∧
    ∀ (numbered : Bool) (report : Report) (deadline : Deadline) (stream : ByteStream),
      ∃ writes ≤ reportSize + 1,
        ByteStream.Writing writes (report.outgoing numbered) deadline stream
          (ByteStream.writeAll (report.outgoing numbered) deadline stream) := by
  refine ⟨?memory, ?stream, fun _ _ _ => StreamLink.read_waitsForever_iff,
    ByteStream.exists_reading reportSize, ?writes⟩
  case memory =>
    refine callsEnd_of_spends MemoryLink.spends_supply MemoryLink.timely fun read => ?_
    exact MemoryLink.read_ne_waitsForever read
  case stream =>
    refine callsEnd_of_spends StreamLink.spends_wholeReports StreamLink.timely ?_
    intro deadline link next read
    obtain ⟨_, unlimited, falls, used⟩ := StreamLink.read_waitsForever_iff.mp read
    rw [used]
    exact ⟨unlimited, falls.silent, rfl⟩
  case writes =>
    intro numbered report deadline stream
    obtain ⟨writes, few, written⟩ :=
      ByteStream.exists_writing (report.outgoing numbered) deadline stream
    refine ⟨writes, Nat.le_trans few ?_, written⟩
    cases numbered with
    | false => exact Nat.le_succ_of_le (Nat.le_of_eq report.length_bytes)
    | true => exact Nat.le_of_eq (congrArg Nat.succ report.length_bytes)

end SecurityKey
