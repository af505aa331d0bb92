import ProvisionGate.Remediation

/-!
# The command line

Words are read from the left.  An option takes its value from its own word or from the next one, and
its value is looked at only when the next known word or the end is reached; a word that is not known
is reported first.
-/

namespace ProvisionGate

/-- What a run is asked for. -/
structure CommandLine where
  config : Option String
  request : String
  remediationOutcome : Option RemediationOutcome
  confirm : Bool
  cancel : Bool
  deriving DecidableEq

/-- The words ask for no run, or are wrong. -/
inductive CommandLineError where
  | displayHelp
  | displayVersion
  /-- A value is missing, empty or none of those allowed. -/
  | invalidValue
  | unknownArgument
  /-- A switch was given a value. -/
  | tooManyValues
  /-- An argument stands twice, or beside one that excludes it. -/
  | argumentConflict
  | missingRequiredArgument
  deriving DecidableEq

namespace CommandLine

/-- An option with a value. -/
inductive ValueOption where
  | config
  | request
  | remediationOutcome
  deriving DecidableEq

/-- An option without a value. -/
inductive Switch where
  | confirm
  | cancel
  | help
  | version
  deriving DecidableEq

/-- An option of either kind. -/
inductive KnownOption where
  | valued (option : ValueOption)
  | switch (option : Switch)
  deriving DecidableEq

/-- The option with a long name. -/
def longOption? : String → Option KnownOption
  | "config" => some (.valued .config)
  | "request" => some (.valued .request)
  | "remediation-outcome" => some (.valued .remediationOutcome)
  | "confirm" => some (.switch .confirm)
  | "cancel" => some (.switch .cancel)
  | "help" => some (.switch .help)
  | "version" => some (.switch .version)
  | _ => none

/-- The option with a letter. -/
def shortOption? : Char → Option KnownOption
  | 'c' => some (.valued .config)
  | 'r' => some (.valued .request)
  | 'h' => some (.switch .help)
  | 'V' => some (.switch .version)
  | _ => none

/-- What was read so far, and the option whose value was not looked at yet, with that value if it
was met. -/
structure Reading where
  config : Option String
  request : Option String
  remediationOutcome : Option RemediationOutcome
  confirm : Bool
  cancel : Bool
  pending : Option (ValueOption × Option String)
  deriving DecidableEq

/-- Before the first word. -/
def Reading.start : Reading where
  config := none
  request := none
  remediationOutcome := none
  confirm := false
  cancel := false
  pending := none

namespace Reading

/-- An option was given its value already. -/
def isGiven (r : Reading) : ValueOption → Bool
  | .config => r.config.isSome
  | .request => r.request.isSome
  | .remediationOutcome => r.remediationOutcome.isSome

/-- Gives an option its value. -/
def give (r : Reading) (option : ValueOption) (value : String) :
    Except CommandLineError Reading :=
  if r.isGiven option then .error .argumentConflict
  else
    match option with
    | .config => if value = "" then .error .invalidValue else .ok { r with config := some value }
    | .request => if value = "" then .error .invalidValue else .ok { r with request := some value }
    | .remediationOutcome =>
      match RemediationOutcome.ofName? value with
      | some outcome => .ok { r with remediationOutcome := some outcome }
      | none => .error .invalidValue

/-- Looks at the value of the pending option. -/
def settle (r : Reading) : Except CommandLineError Reading :=
  match r.pending with
  | none => .ok r
  | some (_, none) => .error .invalidValue
  | some (option, some value) => { r with pending := none }.give option value

/-- Takes a switch. -/
def takeSwitch (r : Reading) (option : Switch) : Except CommandLineError Reading := do
  let r ← r.settle
  match option with
  | .help => throw .displayHelp
  | .version => throw .displayVersion
  | .confirm => if r.confirm then throw .argumentConflict else return { r with confirm := true }
  | .cancel => if r.cancel then throw .argumentConflict else return { r with cancel := true }

/-- Takes an option, with the value in its own word if there is one. -/
def takeOption (r : Reading) (option : ValueOption) (attached : Option String) :
    Except CommandLineError Reading := do
  let r ← r.settle
  match attached with
  | some value => r.give option value
  | none => return { r with pending := some (option, none) }

/-- Takes a word with a long name, after its dashes. -/
def takeLong (r : Reading) (word : List Char) : Except CommandLineError Reading :=
  let name := String.ofList (word.takeWhile (· ≠ '='))
  let attached :=
    match word.dropWhile (· ≠ '=') with
    | _ :: value => some (String.ofList value)
    | [] => none
  match longOption? name, attached with
  | none, _ => .error .unknownArgument
  | some (.valued option), attached => r.takeOption option attached
  | some (.switch option), none => r.takeSwitch option
  | some (.switch _), some _ => .error .tooManyValues

/-- Takes a word of letters, after its dash: switches, and an option with the rest of the word as
its value. -/
def takeLetters (r : Reading) : List Char → Except CommandLineError Reading
  | [] => .ok r
  | letter :: rest =>
    match shortOption? letter with
    | none => .error .unknownArgument
    | some (.switch option) => do (← r.takeSwitch option).takeLetters rest
    | some (.valued option) =>
      match rest with
      | [] => r.takeOption option none
      | '=' :: value => r.takeOption option (some (String.ofList value))
      | value => r.takeOption option (some (String.ofList value))

/-- Takes a word that is no option: only an option that waits for its value has use for it. -/
def takeValue (r : Reading) (word : String) : Except CommandLineError Reading :=
  match r.pending with
  | some (option, none) => .ok { r with pending := some (option, some word) }
  | _ => .error .unknownArgument

/-- Takes a word. -/
def take (r : Reading) (word : String) : Except CommandLineError Reading :=
  match word.toList with
  | '-' :: '-' :: name => r.takeLong name
  | '-' :: letter :: rest => r.takeLetters (letter :: rest)
  | _ => r.takeValue word

/-- Takes the words; nothing may follow two dashes. -/
def takeAll (r : Reading) : List String → Except CommandLineError Reading
  | [] => .ok r
  | "--" :: rest => if rest.isEmpty then .ok r else .error .unknownArgument
  | word :: rest => do (← r.take word).takeAll rest

/-- Looks at all that was read. -/
def finish (r : Reading) : Except CommandLineError CommandLine := do
  let r ← r.settle
  if r.confirm && r.cancel then throw .argumentConflict
  match r.request with
  | none => throw .missingRequiredArgument
  | some request =>
    return {
      config := r.config
      request
      remediationOutcome := r.remediationOutcome
      confirm := r.confirm
      cancel := r.cancel }

end Reading

/-- Reads the words of a command line. -/
def ofWords (words : List String) : Except CommandLineError CommandLine := do
  (← Reading.start.takeAll words).finish

end CommandLine

end ProvisionGate
