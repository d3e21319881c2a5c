import SecurityKey.Error

/-!
# Prompts

A prompt is the way to the user: it shows lines and asks for secrets.  With `confirm` the
user types a secret twice, and both have to be the same.

`ScriptedPrompt` has its answers prepared and keeps what was shown and asked.
`ClosedPrompt` has no terminal to ask on.
-/

set_option autoImplicit false

namespace SecurityKey

/-- A way to the user. -/
class Prompt (π : Type) where
  /-- Shows a line. -/
  display (line : String) (prompt : π) : π
  /-- Asks for a secret, twice if it has to be confirmed. -/
  secret (message : String) (confirm : Bool) : EStateM Error π String

/-! ## Prepared answers -/

/-- A prompt with prepared answers. -/
structure ScriptedPrompt where
  /-- The answers that are left. -/
  answers : List String
  /-- The lines that were shown, in order. -/
  shown : List String
  /-- The messages that a secret was asked with, in order. -/
  asked : List String
  deriving DecidableEq, Repr

namespace ScriptedPrompt

/-- A prompt that will give the answers in order. -/
def ofAnswers (answers : List String) : ScriptedPrompt := ⟨answers, [], []⟩

/-- Takes the next answer, and with `confirm` the one after it too. -/
def take (confirm : Bool) : EStateM Error ScriptedPrompt String := do
  match (← get).answers with
  | [] => throw (.argument .inputClosed)
  | answer :: rest =>
      if confirm then
        modify fun prompt => { prompt with answers := rest.tail }
        if rest.headD "" = answer then
          return answer
        else
          throw (.argument .confirmationMismatch)
      else
        modify fun prompt => { prompt with answers := rest }
        return answer

instance : Prompt ScriptedPrompt where
  display line prompt := { prompt with shown := prompt.shown ++ [line] }
  secret message confirm := do
    modify fun prompt => { prompt with asked := prompt.asked ++ [message] }
    take confirm

end ScriptedPrompt

/-! ## No terminal -/

/-- A prompt without a terminal. -/
inductive ClosedPrompt where
  | closed
  deriving DecidableEq, Repr

instance : Prompt ClosedPrompt where
  display _ prompt := prompt
  secret _ _ := throw (.argument .notATerminal)

end SecurityKey
