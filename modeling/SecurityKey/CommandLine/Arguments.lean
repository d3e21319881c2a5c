/-!
# Arguments

The words of the command line as a request: to show the help or the version, or to derive
a secret with some options.  Words are read from left to right, and the first one that asks
for help or the version, or that does not fit, decides.

Switches may stand together behind one dash.  The value of an option follows it in the same
word, directly or after an equals sign, or is the next word.  A word that begins with a
dash is never the value of the option before it, unless it is a dash alone.
-/

set_option autoImplicit false

namespace SecurityKey.CommandLine

/-! ## Options -/

/-- The options that have a value. -/
inductive Parameter where
  | host
  | user
  | message
  | device
  | config
  | mnemonic
  deriving DecidableEq, Repr

/-- The options that have none. -/
inductive Switch where
  | existing
  | password
  | legacy
  deriving DecidableEq, Repr

/-- What an option does. -/
inductive Meaning where
  | parameter (parameter : Parameter)
  | switch (switch : Switch)
  | help
  | version
  deriving DecidableEq, Repr

/-- The name of an option with a value. -/
def Parameter.name : Parameter → String
  | .host => "host"
  | .user => "user"
  | .message => "message"
  | .device => "device"
  | .config => "config"
  | .mnemonic => "mnemonic"

/-- The name of a switch. -/
def Switch.name : Switch → String
  | .existing => "existing"
  | .password => "password"
  | .legacy => "legacy"

/-- What a letter behind a single dash means. -/
def Meaning.ofLetter? : Char → Option Meaning
  | 't' => some (.parameter .host)
  | 'u' => some (.parameter .user)
  | 'm' => some (.parameter .message)
  | 'd' => some (.parameter .device)
  | 'c' => some (.parameter .config)
  | 'e' => some (.switch .existing)
  | 'p' => some (.switch .password)
  | 'l' => some (.switch .legacy)
  | 'h' => some .help
  | 'V' => some .version
  | _ => none

/-- What a name behind two dashes means. -/
def Meaning.ofName? : String → Option Meaning
  | "host" => some (.parameter .host)
  | "user" => some (.parameter .user)
  | "message" => some (.parameter .message)
  | "device" => some (.parameter .device)
  | "config" => some (.parameter .config)
  | "mnemonic" => some (.parameter .mnemonic)
  | "existing" => some (.switch .existing)
  | "password" => some (.switch .password)
  | "legacy" => some (.switch .legacy)
  | "help" => some .help
  | "version" => some .version
  | _ => none

/-! ## Faults -/

/-- Why a command line makes no request. -/
inductive UsageFault where
  | unknown (word : String)
  | missingValue (parameter : Parameter)
  | unneededValue (name : String)
  | repeated (name : String)
  | refusedValue (parameter : Parameter) (value : String)
  | conflict (switch : Switch)
  | missingHost
  deriving DecidableEq, Repr

/-- The sentence for a usage fault. -/
def UsageFault.message : UsageFault → String
  | .unknown word => "unexpected argument '" ++ word ++ "' found"
  | .missingValue parameter => "a value is required for '--" ++ parameter.name ++
      "' but none was supplied"
  | .unneededValue name => "unexpected value for '--" ++ name ++ "' found"
  | .repeated name => "the argument '--" ++ name ++ "' cannot be used multiple times"
  | .refusedValue parameter value =>
      "invalid value '" ++ value ++ "' for '--" ++ parameter.name ++ "'"
  | .conflict switch => "the argument '--mnemonic' cannot be used with '--" ++ switch.name ++ "'"
  | .missingHost => "the following required arguments were not provided: --host"

/-! ## Requests -/

/-- The options of a derivation. -/
structure Arguments where
  host : String
  user : Option String
  message : Option String
  existing : Bool
  password : Bool
  legacy : Bool
  device : Option String
  config : Option String
  /-- The number of bytes to show as words. -/
  mnemonic : Option Nat
  deriving DecidableEq, Repr

/-- What a command line asks for. -/
inductive Request where
  | help
  | version
  | derive (arguments : Arguments)
  deriving DecidableEq, Repr

/-- The options that have been read. -/
structure Given where
  parameters : List (Parameter × String)
  switches : List Switch
  deriving DecidableEq, Repr

/-- The number of bytes that a text asks for as words. -/
def mnemonicLength? : String → Option Nat
  | "16" => some 16
  | "24" => some 24
  | "32" => some 32
  | _ => none

/-- Whether an option takes a value. -/
def Parameter.admits (parameter : Parameter) (value : String) : Bool :=
  match parameter with
  | .device | .config => !value.isEmpty
  | .mnemonic => (mnemonicLength? value).isSome
  | _ => true

namespace Given

/-- No option has been read. -/
def none : Given := ⟨[], []⟩

/-- Adds an option with its value. -/
def set (parameter : Parameter) (value : String) (given : Given) : Except UsageFault Given :=
  if (given.parameters.lookup parameter).isSome then
    .error (.repeated parameter.name)
  else if parameter.admits value then
    .ok { given with parameters := given.parameters ++ [(parameter, value)] }
  else
    .error (.refusedValue parameter value)

/-- Adds a switch. -/
def turnOn (switch : Switch) (given : Given) : Except UsageFault Given :=
  if switch ∈ given.switches then
    .error (.repeated switch.name)
  else
    .ok { given with switches := given.switches ++ [switch] }

/-- The request that the options make together. -/
def request (given : Given) : Except UsageFault Request := do
  let value := fun parameter => given.parameters.lookup parameter
  let isOn := fun switch => given.switches.contains switch
  if (value .mnemonic).isSome then
    if isOn .existing then
      throw (.conflict .existing)
    if isOn .password then
      throw (.conflict .password)
  match value .host with
  | Option.none => throw .missingHost
  | some host =>
      return .derive {
        host
        user := value .user
        message := value .message
        existing := isOn .existing
        password := isOn .password
        legacy := isOn .legacy
        device := value .device
        config := value .config
        mnemonic := (value .mnemonic).bind mnemonicLength? }

end Given

/-! ## Reading words -/

/-- What comes of a word. -/
inductive Progress where
  /-- Some options have been read, and one of them may still wait for its value. -/
  | reading (given : Given) (waiting : Option Parameter)
  /-- The request is clear. -/
  | decided (request : Request)

/-- What comes of the letters behind a single dash. -/
def readLetters : List Char → Given → Except UsageFault Progress
  | [], given => .ok (.reading given none)
  | letter :: rest, given =>
      match Meaning.ofLetter? letter with
      | some .help => .ok (.decided .help)
      | some .version => .ok (.decided .version)
      | some (.switch switch) => do readLetters rest (← given.turnOn switch)
      | some (.parameter parameter) =>
          match rest with
          | [] => .ok (.reading given (some parameter))
          | '=' :: value => do
              return .reading (← given.set parameter (String.ofList value)) none
          | value => do
              return .reading (← given.set parameter (String.ofList value)) none
      | none => .error (.unknown (String.ofList ['-', letter]))

/-- What comes of a name behind two dashes, with the value after its equals sign. -/
def readName (name : String) (value : Option String) (given : Given) :
    Except UsageFault Progress :=
  match Meaning.ofName? name, value with
  | some (.parameter parameter), some value => do
      return .reading (← given.set parameter value) none
  | some (.parameter parameter), none => .ok (.reading given (some parameter))
  | some (.switch switch), none => do return .reading (← given.turnOn switch) none
  | some .help, none => .ok (.decided .help)
  | some .version, none => .ok (.decided .version)
  | some _, some _ => .error (.unneededValue name)
  | none, _ => .error (.unknown ("--" ++ name))

/-- What comes of a word that is an option. -/
def readOption (chars : List Char) (given : Given) : Except UsageFault Progress :=
  match chars with
  | '-' :: '-' :: rest =>
      let name := String.ofList (rest.takeWhile (· != '='))
      match rest.dropWhile (· != '=') with
      | _ :: value => readName name (some (String.ofList value)) given
      | [] => readName name none given
  | _ => readLetters chars.tail given

/-- Whether a word is an option: a dash and more. -/
def isOption (chars : List Char) : Bool := chars.head? == some '-' && 1 < chars.length

/-- Reads the words after some options, one of which may wait for its value.  Behind two
dashes alone, no word is an option, and no other words are expected. -/
def readWords : Option Parameter → Given → List String → Except UsageFault Request
  | none, given, [] => given.request
  | some parameter, _, [] => .error (.missingValue parameter)
  | waiting, given, word :: rest =>
      if isOption word.toList then
        match waiting with
        | some parameter => .error (.missingValue parameter)
        | none =>
            if word = "--" then
              match rest with
              | [] => given.request
              | other :: _ => .error (.unknown other)
            else
              match readOption word.toList given with
              | .ok (.reading given waiting) => readWords waiting given rest
              | .ok (.decided request) => .ok request
              | .error fault => .error fault
      else
        match waiting with
        | some parameter =>
            match given.set parameter word with
            | .ok given => readWords none given rest
            | .error fault => .error fault
        | none => .error (.unknown word)

/-- The request that the words of a command line make. -/
def Request.parse (words : List String) : Except UsageFault Request :=
  readWords none .none words

/-! ## Texts -/

/-- The name of the program. -/
def programName : String := "macer"

/-- The name of the executable. -/
def executableName : String := "macer_cli"

/-- The program with its version. -/
def versionText : String := programName ++ " 0.4.0\n"

/-- The help. -/
def helpText : String :=
  "Derive a LUKS passphrase from a hardware key\n\n" ++
  "Usage: " ++ executableName ++ " [OPTIONS] --host <HOST>\n\n" ++
  "Options:\n" ++
  "  -t, --host <HOST>          Host name bound into the derived secret\n" ++
  "  -u, --user <USER>          User name bound into the derived secret\n" ++
  "  -m, --message <MESSAGE>    Text shown on the device in legacy mode\n" ++
  "  -e, --existing             Prompt for the current LUKS password and print it before " ++
    "the new secret\n" ++
  "  -p, --password             Mix a local passphrase into the output after the device " ++
    "secret\n" ++
  "  -l, --legacy               Use signed-identity derivation instead of ECDH\n" ++
  "  -d, --device <DEVICE>      hidraw node of the device\n" ++
  "  -c, --config <CONFIG>      TOML configuration file\n" ++
  "      --mnemonic <MNEMONIC>  Print the secret truncated to this many bytes as BIP39 words " ++
    "[possible values: 16, 24, 32]\n" ++
  "  -h, --help                 Print help\n" ++
  "  -V, --version              Print version\n"

end SecurityKey.CommandLine
