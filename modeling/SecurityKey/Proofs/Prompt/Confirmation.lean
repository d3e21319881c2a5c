import Mathlib.Algebra.GroupWithZero.Nat
import SecurityKey.Prompt
import SecurityKey.Proofs.Steps

/-!
# Confirmed secrets

A prompt with prepared answers takes them in order.  A question has its share of them, which is
as many answers as the user has to type (`Question.times`), and takes it whether it gives a
secret or not.  So the answers ahead of a question are the prepared ones without the shares of
the questions before it (`stateAfter_ask`), and they alone decide what the question comes to
(`settled_ask`).

What is documented is that a question gives the secret with which the answers ahead begin, as
often as it has to be typed, and is refused if there is none (`Question.Documented`).  This holds
with one exception.  When a secret has to be confirmed and there is no second answer, the empty
text stands in for it, so an empty answer at the end of the queue confirms itself
(`Question.Lapses`).  `documented_iff_of_asked` says that no other question, behind whatever
questions it is asked, comes to anything else than what is documented.
-/

set_option autoImplicit false

namespace SecurityKey
namespace ScriptedPrompt

/-! ## Questions -/

/-- A question for a secret. -/
structure Question where
  message : String
  confirm : Bool
  deriving DecidableEq, Repr

namespace Question

/-- Asks the question. -/
def ask (question : Question) : EStateM Error ScriptedPrompt String :=
  Prompt.secret question.message question.confirm

/-- How often the secret has to be typed. -/
def times (question : Question) : Nat := if question.confirm then 2 else 1

/-- Whether the answers ahead begin with a secret, as often as it has to be typed. -/
def Typed (question : Question) (ahead : List String) (secret : String) : Prop :=
  List.replicate question.times secret <+: ahead

/-- Whether a secret has to be confirmed and the only answer ahead is an empty one. -/
def Lapses (question : Question) (ahead : List String) : Prop :=
  question.confirm = true ∧ ahead = [""]

/-- What is documented of a question with some answers ahead. -/
structure Documented (question : Question) (ahead : List String)
    (result : Except Error String) : Prop where
  given : ∀ secret, result = .ok secret ↔ question.Typed ahead secret
  refused : ∀ error, result = .error error → ∃ fault, error = .argument fault

/-- What a question with some answers ahead comes to. -/
structure Settled (question : Question) (ahead : List String)
    (result : Except Error String) : Prop where
  given : ∀ secret, result = .ok secret ↔
    question.Typed ahead secret ∨ question.Lapses ahead ∧ secret = ""
  refused : ∀ error, result = .error error →
    error = .argument (if ahead = [] then .inputClosed else .confirmationMismatch)

variable {question : Question} {answer secret : String} {rest : List String}

theorem not_typed_nil : ¬question.Typed [] secret := by
  intro typed
  have short := typed.length_le
  rw [List.length_replicate, times, List.length_nil] at short
  split at short
  · omega
  · omega

theorem typed_cons_plain (once : question.confirm = false) :
    question.Typed (answer :: rest) secret ↔ answer = secret := by
  rw [Typed, times, once]
  change [secret] <+: answer :: rest ↔ _
  rw [List.cons_prefix_cons, and_iff_left List.nil_prefix, eq_comm]

theorem typed_cons_confirmed (twice : question.confirm = true) :
    question.Typed (answer :: rest) secret ↔ answer = secret ∧ rest.head? = some secret := by
  rw [Typed, times, twice]
  change [secret, secret] <+: answer :: rest ↔ _
  rw [List.cons_prefix_cons, eq_comm]
  cases rest with
  | nil => simp
  | cons again others =>
      rw [List.cons_prefix_cons, and_iff_left List.nil_prefix, List.head?_cons, Option.some_inj,
        eq_comm (a := again)]

/-- What passes as typed is the first answer, unless it has to be confirmed and the text behind
it, which is empty if there is no second answer, is another one. -/
theorem typed_or_lapses_cons :
    question.Typed (answer :: rest) secret ∨ question.Lapses (answer :: rest) ∧ secret = "" ↔
      answer = secret ∧ ¬(question.confirm = true ∧ rest.headD "" ≠ answer) := by
  cases confirm : question.confirm with
  | false =>
      rw [typed_cons_plain confirm]
      constructor
      · rintro (same | ⟨⟨twice, _⟩, _⟩)
        · exact ⟨same, fun differs => nomatch differs.1⟩
        · rw [confirm] at twice
          cases twice
      · rintro ⟨same, _⟩
        exact .inl same
  | true =>
      rw [typed_cons_confirmed confirm]
      cases rest with
      | nil =>
          constructor
          · rintro (⟨_, missing⟩ | ⟨⟨_, single⟩, rfl⟩)
            · cases missing
            · cases single
              exact ⟨rfl, fun differs => differs.2 rfl⟩
          · rintro ⟨rfl, alike⟩
            have empty : "" = answer := Decidable.not_not.mp fun differs => alike ⟨rfl, differs⟩
            cases empty
            exact .inr ⟨⟨confirm, rfl⟩, rfl⟩
      | cons again others =>
          constructor
          · rintro (⟨rfl, same⟩ | ⟨⟨_, single⟩, _⟩)
            · cases same
              exact ⟨rfl, fun differs => differs.2 rfl⟩
            · cases single
          · rintro ⟨rfl, alike⟩
            have same : again = answer :=
              Decidable.not_not.mp fun differs => alike ⟨rfl, differs⟩
            exact .inl ⟨rfl, congrArg some same⟩

theorem not_typed_of_lapses {ahead : List String} (lapses : question.Lapses ahead) :
    ¬question.Typed ahead secret := by
  obtain ⟨twice, rfl⟩ := lapses
  rw [typed_cons_confirmed twice]
  nofun

/-- What is documented holds exactly if the confirmation does not lapse. -/
theorem Settled.documented_iff {ahead : List String} {result : Except Error String}
    (settled : question.Settled ahead result) :
    question.Documented ahead result ↔ ¬question.Lapses ahead := by
  constructor
  · intro documented lapses
    have empty : result = .ok "" := (settled.given "").mpr (.inr ⟨lapses, rfl⟩)
    exact not_typed_of_lapses lapses ((documented.given "").mp empty)
  · intro stands
    constructor
    · intro secret
      rw [settled.given secret]
      exact or_iff_left fun lapsed => stands lapsed.1
    · intro error failed
      exact ⟨_, settled.refused error failed⟩

/-! ## One question -/

/-- The prompt that a question leaves. -/
def behind (question : Question) (prompt : ScriptedPrompt) : ScriptedPrompt where
  answers := prompt.answers.drop question.times
  shown := prompt.shown
  asked := prompt.asked ++ [question.message]

theorem ask_nil {prompt : ScriptedPrompt} (empty : prompt.answers = []) :
    question.ask prompt = .error (.argument .inputClosed) (question.behind prompt) := by
  obtain ⟨_, shown, asked⟩ := prompt
  cases empty
  rw [behind, List.drop_nil]
  rfl

theorem ask_cons {prompt : ScriptedPrompt} (ahead : prompt.answers = answer :: rest) :
    question.ask prompt =
      if question.confirm = true ∧ rest.headD "" ≠ answer then
        .error (.argument .confirmationMismatch) (question.behind prompt)
      else
        .ok answer (question.behind prompt) := by
  obtain ⟨_, shown, asked⟩ := prompt
  cases ahead
  obtain ⟨message, confirm⟩ := question
  cases confirm with
  | false => rfl
  | true =>
      have left : behind ⟨message, true⟩ ⟨answer :: rest, shown, asked⟩ =
          ⟨rest.tail, shown, asked ++ [message]⟩ := by
        rw [behind, ← List.drop_one]
        rfl
      rw [left]
      change (if rest.headD "" = answer then pure answer else throw _ :
        EStateM Error ScriptedPrompt String) _ = _
      by_cases same : rest.headD "" = answer
      · rw [if_pos same, if_neg fun differs => differs.2 same]
        rfl
      · rw [if_neg same, if_pos ⟨rfl, same⟩]
        rfl

/-- A question takes its share of the answers and is written down, whatever it comes to. -/
theorem leaves_ask (question : Question) (prompt : ScriptedPrompt) :
    leaves (question.ask prompt) = question.behind prompt := by
  cases ahead : prompt.answers with
  | nil => rw [ask_nil ahead, leaves]
  | cons answer rest =>
      rw [ask_cons ahead]
      split
      · rfl
      · rfl

theorem settled_ask (question : Question) (prompt : ScriptedPrompt) :
    question.Settled prompt.answers (outcome (question.ask prompt)) := by
  cases ahead : prompt.answers with
  | nil =>
      rw [ask_nil ahead, outcome]
      constructor
      · intro secret
        refine ⟨nofun, ?_⟩
        rintro (typed | ⟨⟨_, single⟩, _⟩)
        · exact absurd typed not_typed_nil
        · cases single
      · rintro _ ⟨⟩
        rfl
  | cons answer rest =>
      rw [ask_cons ahead]
      by_cases differs : question.confirm = true ∧ rest.headD "" ≠ answer
      · rw [if_pos differs, outcome]
        constructor
        · intro secret
          rw [typed_or_lapses_cons]
          exact ⟨nofun, fun given => absurd differs given.2⟩
        · rintro _ ⟨⟩
          rfl
      · rw [if_neg differs, outcome]
        constructor
        · intro secret
          rw [typed_or_lapses_cons, Except.ok.injEq, and_iff_left differs]
        · nofun

end Question

/-! ## Some questions in a row -/

/-- The questions behind one that is refused are asked as well. -/
theorem stateAfter_ask (questions : List Question) (prompt : ScriptedPrompt) :
    stateAfter (questions.map Question.ask) prompt =
      { answers := prompt.answers.drop (questions.map Question.times).sum
        shown := prompt.shown
        asked := prompt.asked ++ questions.map Question.message } := by
  induction questions generalizing prompt with
  | nil =>
      simp only [List.map_nil, List.append_nil]
      rfl
  | cons question rest hypothesis =>
      rw [List.map_cons, stateAfter, Question.leaves_ask, hypothesis, Question.behind,
        List.drop_drop, List.append_assoc]
      rfl

/-- **Prepared answers are taken in order, and a confirmed secret is typed twice, but for one
case.**  Behind whatever questions, given or refused, the answers that are left are those without
their shares, and each question is written down once.  What the next question comes to is decided
by the answers ahead of it, and it is what is documented exactly if they are not a single empty
answer that has to be confirmed. -/
theorem documented_iff_of_asked (prompt : ScriptedPrompt) (before : List Question)
    (question : Question) (after : List Question) :
    let ahead := prompt.answers.drop (before.map Question.times).sum
    stateAfter (before.map Question.ask) prompt =
        { answers := ahead
          shown := prompt.shown
          asked := prompt.asked ++ before.map Question.message } ∧
      ∃ result, (outcomes ((before ++ question :: after).map Question.ask) prompt)[before.length]? =
          some result ∧
        question.Settled ahead result ∧
        (question.Documented ahead result ↔ ¬question.Lapses ahead) := by
  intro ahead
  have reached := stateAfter_ask before prompt
  have settled := question.settled_ask (stateAfter (before.map Question.ask) prompt)
  rw [reached] at settled
  refine ⟨reached, _, ?_, settled, settled.documented_iff⟩
  have position := getElem?_outcomes (before.map Question.ask) question.ask
    (after.map Question.ask) prompt
  rw [List.length_map, reached] at position
  rw [List.map_append, List.map_cons, position]

/-- A confirmed secret between an answer that is not confirmed and two that are not alike. -/
theorem secret_of_shared_answers :
    (outcomes ([⟨"Pin", false⟩, ⟨"Pass", true⟩, ⟨"Again", true⟩].map Question.ask)
      (ofAnswers ["1234", "hunter2", "hunter2", "a", "b"]))[1]? = some (.ok "hunter2") := by
  obtain ⟨_, result, position, _, condition⟩ :=
    documented_iff_of_asked (ofAnswers ["1234", "hunter2", "hunter2", "a", "b"])
      [⟨"Pin", false⟩] ⟨"Pass", true⟩ [⟨"Again", true⟩]
  have documented := condition.mpr fun lapses => nomatch lapses.2
  have given : result = .ok "hunter2" := (documented.given "hunter2").mpr ⟨["a", "b"], rfl⟩
  exact position.trans (congrArg some given)

/-- An empty answer is given as a confirmed secret, although it was typed once. -/
theorem lone_empty_answer_is_confirmed :
    outcome (Question.ask ⟨"Pass", true⟩ (ofAnswers [""])) = .ok "" ∧
      ¬Question.Documented ⟨"Pass", true⟩ [""] (.ok "") := by
  refine ⟨rfl, fun documented => ?_⟩
  exact Question.not_typed_of_lapses ⟨rfl, rfl⟩ ((documented.given "").mp rfl)

end ScriptedPrompt
end SecurityKey
