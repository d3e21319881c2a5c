import SecurityKey.Settings.Violation

/-!
# Causes of failure

Every operation that can fail says why with an `Error`.  An error is a cause,
not a sentence: the sentence is `Error.message`, in one place, and callers that
have to react to a failure match on its cause.

A session stops at the first error and hands it back unchanged, so the causes
cover everything from a broken varint to a mistyped setting.
-/

set_option autoImplicit false

namespace SecurityKey

/-! ## Bytes that do not spell a message -/

/-- Why bytes could not be read as reports, varints or values. -/
inductive EncodingFault where
  | reportMagic
  | continuationMarker
  | varintEnd
  | varintTooLong
  | varintZeroGroup
  | shortBytes
  | shortFixed
  | unknownWireType
  | invalidText
  | incompleteParse
  deriving DecidableEq, Repr

/-- The sentence for an encoding fault. -/
def EncodingFault.message : EncodingFault → String
  | .reportMagic => "Invalid report magic"
  | .continuationMarker => "Invalid continuation report marker"
  | .varintEnd => "Reached end of stream inside varint"
  | .varintTooLong => "Varint exceeded expected size"
  | .varintZeroGroup => "Unnecessary 0 byte in varint"
  | .shortBytes => "Not enough bytes for length-delimited value"
  | .shortFixed => "Not enough bytes for fixed value"
  | .unknownWireType => "Unrecognized wire type"
  | .invalidText => "String field is not valid UTF-8"
  | .incompleteParse => "Unconsumed bytes or open container after parse"

/-! ## Values that do not fit their schema -/

/-- What a read expects to find on the wire. -/
inductive Expectation where
  | unsignedInteger
  | integer
  | boolean
  | string
  | binary
  | enumeration
  | object
  deriving DecidableEq, Repr

/-- The name of an expectation in messages. -/
def Expectation.name : Expectation → String
  | .unsignedInteger => "unsigned integer"
  | .integer => "integer"
  | .boolean => "boolean"
  | .string => "string"
  | .binary => "binary"
  | .enumeration => "enumeration"
  | .object => "object"

/-- Why a well-formed value does not fit the field that it was sent for. -/
inductive SchemaFault where
  | missingField (name : String)
  | smallerInteger (value maximum : Nat)
  | largerInteger (value minimum : Int)
  | fixedBinary (expected actual : Nat)
  | maximumDepth (limit : Nat)
  | unexpectedWireType (expected : Expectation) (found : Nat)
  deriving DecidableEq, Repr

/-- The sentence for a schema fault. -/
def SchemaFault.message : SchemaFault → String
  | .missingField name => "Missing required field '" ++ name ++ "'"
  | .smallerInteger value maximum =>
      "Integer " ++ toString value ++ " given when " ++ toString maximum ++
        " is maximum permitted"
  | .largerInteger value minimum =>
      "Integer " ++ toString value ++ " given when " ++ toString minimum ++
        " is minimum permitted"
  | .fixedBinary expected actual =>
      "Fixed binary of " ++ toString expected ++ " bytes expected, got " ++ toString actual
  | .maximumDepth limit => "Maximum nesting depth of " ++ toString limit ++ " exceeded"
  | .unexpectedWireType expected found =>
      "Expected " ++ expected.name ++ " wire value, found wire type " ++ toString found

/-! ## Operations out of order -/

/-- Why an operation does not fit the state that it was called in. -/
inductive StateFault where
  | valueOutsideObject
  | readOutsideObject
  | unbalancedEnd
  | incompleteOutput
  | requiredUnset
  | sessionFinished
  deriving DecidableEq, Repr

/-- The sentence for a state fault. -/
def StateFault.message : StateFault → String
  | .valueOutsideObject => "Value written outside of an object"
  | .readOutsideObject => "Value read outside of an object"
  | .unbalancedEnd => "Container closed without being opened"
  | .incompleteOutput => "Output taken from an incomplete stream"
  | .requiredUnset => "Required field has no value"
  | .sessionFinished => "Device session already completed"

/-! ## The local side -/

/-- Why the operating system or the link refused a call. -/
inductive SystemFault where
  | notFound
  | permissionDenied
  | notADirectory
  | isADirectory
  | nameTooLong
  | zeroInName
  | invalidText
  | writeZero
  | reported (text : String)
  deriving DecidableEq, Repr

/-- The sentence for a system fault, with the number of the system error. -/
def SystemFault.message : SystemFault → String
  | .notFound => "No such file or directory (os error 2)"
  | .permissionDenied => "Permission denied (os error 13)"
  | .notADirectory => "Not a directory (os error 20)"
  | .isADirectory => "Is a directory (os error 21)"
  | .nameTooLong => "File name too long (os error 36)"
  | .zeroInName => "file name contained an unexpected NUL byte"
  | .invalidText => "stream did not contain valid UTF-8"
  | .writeZero => "write zero"
  | .reported text => text

/-- Why a phrase is no mnemonic. -/
inductive MnemonicFault where
  | wordCount (count : Nat)
  | unknownWord (position : Nat)
  | checksum
  deriving DecidableEq, Repr

/-- The sentence for a mnemonic fault. -/
def MnemonicFault.message : MnemonicFault → String
  | .wordCount count => "expected 12, 18 or 24 words, got " ++ toString count
  | .unknownWord position => "unknown word at position " ++ toString position
  | .checksum => "checksum mismatch"

/-- Why a request of the local user cannot be carried out. -/
inductive ArgumentFault where
  | secretLength (requested available : Nat)
  | notATerminal
  | inputClosed
  | confirmationMismatch
  | terminalOutput
  deriving DecidableEq, Repr

/-- The sentence for an argument fault. -/
def ArgumentFault.message : ArgumentFault → String
  | .secretLength requested available =>
      "Secret cannot be truncated to the requested length: " ++ toString requested ++ " of " ++
        toString available ++ " bytes"
  | .notATerminal => "Standard input is not an interactive terminal"
  | .inputClosed => "No input available"
  | .confirmationMismatch => "Confirmation does not match"
  | .terminalOutput => "Refusing to write a secret to a terminal, redirect stdout"

/-- Why settings could not be loaded, accepted or saved. -/
inductive SettingsFault where
  | unopened (fault : SystemFault)
  | unreadable (fault : SystemFault)
  | malformed (reason : String)
  | refusedValue (name value : String)
  | violations (broken : List Violation)
  | unserializable
  | unwritable (fault : SystemFault)
  deriving DecidableEq, Repr

/-- The sentence for a settings fault. -/
def SettingsFault.message : SettingsFault → String
  | .unopened fault => "Failed to open config file: " ++ fault.message
  | .unreadable fault => "Failed to read config file: " ++ fault.message
  | .malformed reason => "Failed to parse TOML: " ++ reason
  | .refusedValue name value => "Invalid value for " ++ name ++ ": '" ++ value ++ "'"
  | .violations broken =>
      "Configuration validation failed:\n  - " ++
        "\n  - ".intercalate (broken.map Violation.message)
  | .unserializable => "Failed to serialize config: out-of-range value for u64 type"
  | .unwritable fault => "Failed to write config file: " ++ fault.message

/-! ## Errors -/

/-- Everything that can go wrong between the settings and the derived secret. -/
inductive Error where
  | system (fault : SystemFault)
  | transport (text : String)
  | timeout
  | connectionClosed
  | encoding (fault : EncodingFault)
  | unsupportedMessage (id : UInt16)
  | deviceFailure (text : String)
  | schema (fault : SchemaFault)
  | entropyLength (length : Nat)
  | mnemonic (fault : MnemonicFault)
  | oversizedPacket (length : Nat)
  | unexpectedMessage
  | state (fault : StateFault)
  | signedVarint
  | argument (fault : ArgumentFault)
  | settings (fault : SettingsFault)
  deriving DecidableEq, Repr

/-- The sentence that reports an error. -/
def Error.message : Error → String
  | .system fault => "I/O error: " ++ fault.message
  | .transport text => "Transport error: " ++ text
  | .timeout => "Timeout occurred"
  | .connectionClosed => "Connection closed"
  | .encoding fault => "Invalid byte encoding: " ++ fault.message
  | .unsupportedMessage id => "Unsupported device message: " ++ toString id.toNat
  | .deviceFailure text => "Device returned failure: " ++ text
  | .schema fault => "Schema error: " ++ fault.message
  | .entropyLength length =>
      "Invalid entropy length: " ++ toString length ++ " bytes (expected 16, 24 or 32)"
  | .mnemonic fault => "Invalid mnemonic: " ++ fault.message
  | .oversizedPacket length => "Message too large: " ++ toString length ++ " bytes"
  | .unexpectedMessage => "Unexpected message type"
  | .state fault => "Invalid codec state: " ++ fault.message
  | .signedVarint => "Not implemented: Signed integer varints"
  | .argument fault => "Invalid argument: " ++ fault.message
  | .settings fault => "Configuration error: " ++ fault.message

/-! ## Steps that may fail -/

theorem bind_eq_ok {ε α β : Type} {step : Except ε α} {next : α → Except ε β} {result : β} :
    (step >>= next) = .ok result ↔ ∃ value, step = .ok value ∧ next value = .ok result := by
  cases step with
  | ok value =>
      constructor
      · intro run
        exact ⟨value, rfl, run⟩
      · rintro ⟨_, same, run⟩
        cases same
        exact run
  | error error =>
      constructor
      · intro run
        cases run
      · rintro ⟨_, run, _⟩
        cases run

theorem map_eq_ok {α β : Type} {function : α → β} {step : Except Error α} {result : β} :
    function <$> step = .ok result ↔ ∃ value, step = .ok value ∧ function value = result := by
  cases step with
  | ok value =>
      constructor
      · intro made
        cases made
        exact ⟨value, rfl, rfl⟩
      · rintro ⟨_, same, made⟩
        cases same
        exact congrArg Except.ok made
  | error error =>
      constructor
      · intro made
        cases made
      · rintro ⟨_, made, _⟩
        cases made

/-- Nothing follows a step that has failed. -/
theorem bind_of_error {α β : Type} {step : Except Error α} {next : α → Except Error β}
    {error : Error} (failed : step = .error error) : (step >>= next) = .error error := by
  rw [failed]
  rfl

end SecurityKey
