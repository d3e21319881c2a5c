import SecurityKey.Proofs.Link.Arrival
import SecurityKey.Proofs.Session.History

/-!
# Channels that a session cannot tell apart

A session sends requests over its channel and reads reports from it, and it counts what
happens there.  Two channels, over links of the same kind or of different kinds, cannot be
told apart when each of these uses comes out the same on both and leaves channels that cannot
be told apart either (`Channel.Indistinct`).

Sessions over such channels run alike (`alike_run`): they come to the same result, show and
ask the same, and stop in the same stage.  What they tell the log may differ, for nothing
that a session does depends on its journal.
-/

set_option autoImplicit false

namespace SecurityKey

/-! ## Results that look alike -/

/-- Results with the same outcome whose states are related. -/
inductive Alike {ε σ τ α : Type} (related : σ → τ → Prop) :
    EStateM.Result ε σ α → EStateM.Result ε τ α → Prop where
  | ok {value : α} {first : σ} {second : τ} (states : related first second) :
      Alike related (.ok value first) (.ok value second)
  | error {error : ε} {first : σ} {second : τ} (states : related first second) :
      Alike related (.error error first) (.error error second)

namespace Alike

variable {ε σ τ α : Type} {related : σ → τ → Prop} {first : EStateM.Result ε σ α}
  {second : EStateM.Result ε τ α}

theorem outcome_eq (alike : Alike related first second) : outcome first = outcome second := by
  cases alike with
  | ok => rfl
  | error => rfl

theorem states (alike : Alike related first second) : related (leaves first) (leaves second) := by
  cases alike with
  | ok states => exact states
  | error states => exact states

theorem mono {weaker : σ → τ → Prop} (alike : Alike related first second)
    (implied : ∀ first second, related first second → weaker first second) :
    Alike weaker first second := by
  cases alike with
  | ok states => exact .ok (implied _ _ states)
  | error states => exact .error (implied _ _ states)

end Alike

/-! ## Channels -/

/-- A relation between channels that every use of them keeps, and that no use reveals. -/
structure Channel.Indistinct {σ τ : Type} [Link σ] [Link τ]
    (related : Channel σ → Channel τ → Prop) : Prop where
  send : ∀ {first : Channel σ} {second : Channel τ} (request : Except Error RawMessage),
    related first second →
      Alike related (Channel.sendEncoded request first) (Channel.sendEncoded request second)
  read : ∀ {first : Channel σ} {second : Channel τ}, related first second →
    Alike (fun link other => related { first with link } { second with link := other })
      (Link.read first.readTimeout first.link) (Link.read second.readTimeout second.link)
  countReport : ∀ {first : Channel σ} {second : Channel τ}, related first second →
    related first.countReport second.countReport
  countReceived : ∀ {first : Channel σ} {second : Channel τ} (message : RawMessage),
    related first second → related (first.countReceived message) (second.countReceived message)
  countInteraction : ∀ {first : Channel σ} {second : Channel τ}, related first second →
    related first.countInteraction second.countInteraction
  countError : ∀ {first : Channel σ} {second : Channel τ}, related first second →
    related first.countError second.countError

/-- A receive comes out the same too: each report that is read leaves less of the message to
come. -/
theorem Channel.Indistinct.collect {σ τ : Type} [Link σ] [Link τ]
    {related : Channel σ → Channel τ → Prop} (indistinct : Indistinct related)
    {first : Channel σ} {second : Channel τ} (like : related first second)
    (assembler : Reassembler) :
    Alike related (Channel.collect assembler first) (Channel.collect assembler second) := by
  induction missing : assembler.missing using Nat.strongRecOn
    generalizing assembler first second with
  | ind missing hypothesis =>
      have read := indistinct.read like
      generalize arrived : Link.read first.readTimeout first.link = result at read
      generalize arrived' : Link.read second.readTimeout second.link = result' at read
      cases read with
      | error after =>
          rw [collect_of_failed arrived, collect_of_failed arrived']
          exact .error after
      | @ok report _ _ after =>
          have counted := indistinct.countReport after
          cases pushed : Reassembler.push report assembler with
          | error error next =>
              rw [collect_of_fault arrived pushed, collect_of_fault arrived' pushed]
              exact .error (indistinct.countError counted)
          | ok message next =>
              cases message with
              | none =>
                  rw [collect_of_more arrived pushed, collect_of_more arrived' pushed]
                  exact hypothesis _ (missing ▸ Reassembler.missing_push pushed) counted next rfl
              | some message =>
                  rw [collect_of_message arrived pushed, collect_of_message arrived' pushed]
                  exact .ok (indistinct.countReceived message counted)

theorem Channel.Indistinct.receive {σ τ : Type} [Link σ] [Link τ]
    {related : Channel σ → Channel τ → Prop} (indistinct : Indistinct related)
    {first : Channel σ} {second : Channel τ} (like : related first second) :
    Alike related (Channel.receive first) (Channel.receive second) :=
  indistinct.collect like .idle

/-! ## Sessions -/

namespace Session

variable {σ τ π : Type}

/-- Sessions that differ at most in their journals and in what related channels differ in. -/
structure Like (related : Channel σ → Channel τ → Prop) (first : Session σ π)
    (second : Session τ π) : Prop where
  channel : related first.channel second.channel
  prompt : first.prompt = second.prompt
  info : first.info = second.info
  stage : first.stage = second.stage

/-- Conversations that both go on, or are both over, in sessions that are alike. -/
inductive Progress.Like (related : Channel σ → Channel τ → Prop) :
    Progress σ π → Progress τ π → Prop where
  | underway {first : Session σ π} {second : Session τ π} (like : first.Like related second) :
      Progress.Like related (.underway first) (.underway second)
  | complete {first : EStateM.Result Halt (Session σ π) DerivedSecret}
      {second : EStateM.Result Halt (Session τ π) DerivedSecret}
      (alike : Alike (Session.Like related) first second) :
      Progress.Like related (.complete first) (.complete second)

variable {related : Channel σ → Channel τ → Prop} {first : Session σ π} {second : Session τ π}

/-- What sessions tell the log does not matter. -/
theorem Like.tell (like : first.Like related second) (remarks others : Log.Journal) :
    (first.tell remarks).Like related (second.tell others) :=
  ⟨like.channel, like.prompt, like.info, like.stage⟩

theorem Like.note (like : first.Like related second) (records others : List Log.Record) :
    (first.note records).Like related (second.note others) := like.tell _ _

theorem Like.finished (like : first.Like related second) :
    first.finished.Like related second.finished :=
  ⟨like.channel, like.prompt, like.info, rfl⟩

theorem Progress.Like.goOn {result : EStateM.Result Halt (Session σ π) Unit}
    {other : EStateM.Result Halt (Session τ π) Unit}
    (alike : Alike (Session.Like related) result other) :
    Progress.Like related (goOn result) (goOn other) := by
  cases alike with
  | ok like => exact .underway like
  | error like => exact .complete (.error like)

theorem Like.onChannel {α : Type} {operation : EStateM Halt (Channel σ) α}
    {other : EStateM Halt (Channel τ) α} (like : first.Like related second)
    (alike : Alike related (operation first.channel) (other second.channel)) :
    Alike (Session.Like related) (onChannel operation first) (onChannel other second) := by
  rw [Session.onChannel, Session.onChannel]
  revert alike
  generalize operation first.channel = left
  generalize other second.channel = right
  intro alike
  cases alike with
  | ok channels => exact .ok ⟨channels, like.prompt, like.info, like.stage⟩
  | error channels => exact .error ⟨channels, like.prompt, like.info, like.stage⟩

section Moves

variable [Link σ] [Link τ] (indistinct : Channel.Indistinct related)
include indistinct

theorem Like.send (like : first.Like related second) (request : Except Error RawMessage) :
    Alike (Session.Like related) (send request first) (send request second) :=
  (like.note _ _).onChannel (indistinct.send request like.channel)

theorem Like.advance (like : first.Like related second) (request : Except Error RawMessage)
    (stage : Stage) :
    Alike (Session.Like related) (advance request stage first) (advance request stage second) := by
  have sent := like.send indistinct request
  rw [Session.advance, Session.advance]
  generalize Session.send request first = left at sent ⊢
  generalize Session.send request second = right at sent ⊢
  cases sent with
  | ok after => exact .ok ⟨after.channel, after.prompt, after.info, rfl⟩
  | error after => exact .error after

theorem Like.countFailure (like : first.Like related second) (error : Error) :
    (first.countFailure error).Like related (second.countFailure error) := by
  unfold Session.countFailure
  split
  · exact ⟨indistinct.countError like.channel, like.prompt, like.info, like.stage⟩
  · exact like

variable [Prompt π]

theorem Like.interact (like : first.Like related second) (interaction : Interaction) :
    Alike (Session.Like related) (interact interaction first) (interact interaction second) := by
  have same : consult interaction second.prompt = consult interaction first.prompt := by
    rw [like.prompt]
  cases asked : consult interaction first.prompt with
  | error error prompt =>
      rw [interact_of_error asked, interact_of_error (same.trans asked)]
      exact .error ⟨like.channel, rfl, like.info, like.stage⟩
  | ok text prompt =>
      rw [interact_of_ok asked, interact_of_ok (same.trans asked)]
      have answered : (first.answered interaction prompt).Like related
          (second.answered interaction prompt) :=
        ⟨indistinct.countInteraction like.channel, rfl, like.info, like.stage⟩
      exact answered.send indistinct _

theorem Like.makeMove (like : first.Like related second) (move : Except Error Move) :
    Progress.Like related (makeMove move first) (makeMove move second) := by
  cases move with
  | error error => exact .complete (.error (like.countFailure indistinct error))
  | ok move =>
      cases move with
      | wait => exact .underway like
      | finish secret => exact .complete (.ok (like.note _ _))
      | interact interaction => exact .goOn (like.interact indistinct interaction)
      | advance request stage => exact .goOn (like.advance indistinct request stage)

variable {hash : HashFunction} {mode : Mode}

/-- The channels of two sessions, and the messages that they receive, may differ as long as
the messages bring the same move and the channels cannot be told apart afterwards. -/
theorem like_round_of_receive {message other : RawMessage} {channel : Channel σ}
    {channel' : Channel τ} (prompt : first.prompt = second.prompt)
    (info : first.info = second.info) (stage : first.stage = second.stage)
    (arrived : Channel.receive first.channel = .ok message channel)
    (arrived' : Channel.receive second.channel = .ok other channel')
    (channels : related channel channel')
    (answer : first.stage.answer hash mode first.info message =
      first.stage.answer hash mode first.info other) :
    Progress.Like related (round hash mode first) (round hash mode second) := by
  have received : Session.Like related { first.noteMessage message with channel }
      { second.noteMessage other with channel := channel' } := ⟨channels, prompt, info, stage⟩
  rw [Session.round, arrived, Session.round, arrived']
  dsimp only
  rw [answer, ← stage, ← info]
  exact received.makeMove indistinct _

theorem Like.round (like : first.Like related second) :
    Progress.Like related (round hash mode first) (round hash mode second) := by
  have received := indistinct.receive like.channel
  generalize left : Channel.receive first.channel = arrived at received
  generalize right : Channel.receive second.channel = arrived' at received
  cases received with
  | ok channels =>
      exact like_round_of_receive indistinct like.prompt like.info like.stage left right channels
        rfl
  | error channels =>
      rw [Session.round, left, Session.round, right]
      exact .complete (.error ⟨channels, like.prompt, like.info, like.stage⟩)

end Moves

/-! ## Runs -/

section Runs

variable [FiniteLink σ] [FiniteLink τ] [Prompt π] (indistinct : Channel.Indistinct related)
  {hash : HashFunction} {mode : Mode}

include indistinct

/-- Sessions that are alike come to results that are alike: after each round they still are,
and there is a last round. -/
theorem Like.converse (like : first.Like related second) :
    Alike (Session.Like related) (converse hash mode first) (converse hash mode second) := by
  induction supply : first.supply using Nat.strongRecOn generalizing first second with
  | ind supply hypothesis =>
      have next : Progress.Like related (Session.round hash mode first)
          (Session.round hash mode second) := like.round indistinct
      rw [converse_eq first, converse_eq second]
      generalize made : Session.round hash mode first = progress at next ⊢
      generalize Session.round hash mode second = other at next ⊢
      cases next with
      | complete alike => exact alike
      | underway after => exact hypothesis _ (supply ▸ supply_round made) after rfl

/-- So do conversations that stand alike. -/
theorem Progress.Like.finish {progress : Progress σ π} {other : Progress τ π}
    (like : Progress.Like related progress other) :
    Alike (Session.Like related) (progress.finish hash mode) (other.finish hash mode) := by
  cases like with
  | underway like => exact like.converse indistinct
  | complete alike => exact alike

omit indistinct [FiniteLink σ] [FiniteLink τ] [Prompt π] in
theorem alike_conclude {relation : Session σ π → Session τ π → Prop}
    (finished : ∀ first second, relation first second → relation first.finished second.finished)
    {result : EStateM.Result Halt (Session σ π) DerivedSecret}
    {other : EStateM.Result Halt (Session τ π) DerivedSecret}
    (alike : Alike relation result other) :
    Alike relation (conclude result) (conclude other) := by
  cases alike with
  | ok states => exact .ok (finished _ _ states)
  | @error halt _ _ states =>
      cases halt with
      | failed error => exact .error (finished _ _ states)
      | waitsForever => exact .error states

/-- Sessions over channels that cannot be told apart run alike. -/
theorem alike_run (like : first.Like related second) :
    Alike (Session.Like related) (run hash mode first) (run hash mode second) := by
  rw [run, run, ← like.stage]
  split
  · refine alike_conclude (fun _ _ like => like.finished) ?_
    have sent := like.send indistinct HostInfo.opening
    rw [exchange, exchange]
    generalize Session.send HostInfo.opening first = left at sent ⊢
    generalize Session.send HostInfo.opening second = right at sent ⊢
    cases sent with
    | ok opened => exact opened.converse indistinct
    | error opened => exact .error opened
  · exact .error like

end Runs

end Session
end SecurityKey
