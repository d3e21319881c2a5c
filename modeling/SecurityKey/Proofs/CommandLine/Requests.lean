import SecurityKey.CommandLine.Arguments
import SecurityKey.Mnemonic.Phrase

/-!
# Requests for a derivation

Words are read one after the other, but only the options that have been read when the words end
can ask for a derivation (`exists_given_of_readWords`).  So whatever the words are, a derivation
has clear options: if a phrase is wanted, it is one for 16, 24 or 32 bytes, and neither the
current password nor a local passphrase is (`Arguments.clear_of_parse`).
-/

set_option autoImplicit false

namespace SecurityKey.CommandLine

/-! ## Words that decide -/

/-- Whether a request asks for one of the texts of the program. -/
def Request.isText : Request → Bool
  | .help | .version => true
  | .derive _ => false

/-- Options that are read on decide nothing. -/
theorem reading_ne_decided (step : Except UsageFault Given) (request : Request) :
    (do return Progress.reading (← step) none) ≠ .ok (.decided request) := by
  intro same
  cases step with
  | error fault => cases same
  | ok given => cases same

/-- Letters that decide ask for a text. -/
theorem isText_of_readLetters {letters : List Char} {given : Given} {request : Request}
    (read : readLetters letters given = .ok (.decided request)) : request.isText = true := by
  induction letters generalizing given with
  | nil => cases read
  | cons letter rest hypothesis =>
      rw [readLetters] at read
      split at read
      · cases read
        rfl
      · cases read
        rfl
      · rename_i switch _
        cases turned : given.turnOn switch with
        | error fault =>
            rw [turned] at read
            cases read
        | ok next =>
            rw [turned] at read
            exact hypothesis read
      · split at read
        · cases read
        · exact absurd read (reading_ne_decided _ request)
        · exact absurd read (reading_ne_decided _ request)
      · cases read

/-- So does a name. -/
theorem isText_of_readName {name : String} {value : Option String} {given : Given}
    {request : Request} (read : readName name value given = .ok (.decided request)) :
    request.isText = true := by
  rw [readName.eq_def] at read
  split at read
  · exact absurd read (reading_ne_decided _ request)
  · cases read
  · exact absurd read (reading_ne_decided _ request)
  · cases read
    rfl
  · cases read
    rfl
  · cases read
  · cases read

/-- So does a word. -/
theorem isText_of_readOption {letters : List Char} {given : Given} {request : Request}
    (read : readOption letters given = .ok (.decided request)) : request.isText = true := by
  rw [readOption.eq_def] at read
  split at read
  · dsimp only at read
    split at read
    · exact isText_of_readName read
    · exact isText_of_readName read
  · exact isText_of_readLetters read

/-- A derivation is what the options ask for that have been read when the words end. -/
theorem exists_given_of_readWords {waiting : Option Parameter} {given : Given}
    {words : List String} {arguments : Arguments}
    (read : readWords waiting given words = .ok (.derive arguments)) :
    ∃ last : Given, last.request = .ok (.derive arguments) := by
  fun_induction readWords waiting given words with
  | case1 given => exact ⟨given, read⟩
  | case4 given => exact ⟨given, read⟩
  | case6 given word rest option other next waiting going hypothesis => exact hypothesis read
  | case7 given word rest option other request decided =>
      cases read
      exact absurd (isText_of_readOption decided) Bool.false_ne_true
  | case9 given word rest plain parameter next kept hypothesis => exact hypothesis read
  | case2 | case3 | case5 | case8 | case10 | case11 => cases read

/-! ## Options that agree -/

/-- Options of which none stands in the way of another: a phrase is for a length that has one,
and nothing is mixed into it. -/
structure Arguments.Clear (arguments : Arguments) : Prop where
  length : ∀ length ∈ arguments.mnemonic, length ∈ Mnemonic.entropyLengths
  alone : arguments.mnemonic.isSome → arguments.existing = false ∧ arguments.password = false

/-- A length that a text asks for has a phrase. -/
theorem mem_of_mnemonicLength? {text? : Option String} {length : Nat}
    (asked : length ∈ text?.bind mnemonicLength?) : length ∈ Mnemonic.entropyLengths := by
  obtain ⟨text, _, asked⟩ := Option.bind_eq_some_iff.mp asked
  rw [mnemonicLength?.eq_def] at asked
  split at asked
  · cases asked
    decide
  · cases asked
    decide
  · cases asked
    decide
  · cases asked

/-- The options of a derivation agree. -/
theorem Given.clear_of_request {given : Given} {arguments : Arguments}
    (made : given.request = .ok (.derive arguments)) : arguments.Clear := by
  rw [request] at made
  dsimp only at made
  split at made
  · split at made
    · cases made
    · rename_i noCurrent
      split at made
      · cases made
      · rename_i noPassphrase
        split at made
        · cases made
        · cases made
          exact ⟨fun _ => mem_of_mnemonicLength?,
            fun _ => ⟨eq_false_of_ne_true noCurrent, eq_false_of_ne_true noPassphrase⟩⟩
  · rename_i noPhrase
    split at made
    · cases made
    · cases made
      refine ⟨fun _ => mem_of_mnemonicLength?, fun asked => absurd ?_ noPhrase⟩
      exact Option.isSome_of_isSome_bind asked

/-- Whatever the words are, the options of a derivation agree. -/
theorem Arguments.clear_of_parse {words : List String} {arguments : Arguments}
    (asks : Request.parse words = .ok (.derive arguments)) : arguments.Clear := by
  obtain ⟨given, made⟩ := exists_given_of_readWords asks
  exact given.clear_of_request made

end SecurityKey.CommandLine
