import Reconciler.Settings
import Reconciler.Text.Digits

/-!
# The command line

Every parameter is given as an option, or else by an environment variable, or else has a default.
Options are read from left to right; the value of an option is taken over when the next one is met.
-/

namespace Reconciler

/-- What the controller is started with. -/
structure Parameters where
  listen : String := "0.0.0.0:9000"
  logJson : Bool := false
  apiKey : Option String := none
  identityEndpoint : String := "https://iam.cloud.ibm.com"
  vpcRegion : String := "us-south"
  powerVsRegion : String := "us-south"
  concurrency : Nat := 4
  settings : Settings := {}
deriving DecidableEq, Inhabited

namespace CommandLine

/-- Why there are no parameters. -/
inductive UsageError where
  | help
  | version
  | invalidValue
  | unreadableNumber
  | repeated
  | unwantedValue
  | unknownArgument
deriving DecidableEq, Inhabited

namespace UsageError

def name : UsageError → String
  | .help => "DisplayHelp"
  | .version => "DisplayVersion"
  | .invalidValue => "InvalidValue"
  | .unreadableNumber => "ValueValidation"
  | .repeated => "ArgumentConflict"
  | .unwantedValue => "TooManyValues"
  | .unknownArgument => "UnknownArgument"

/-- Asking for help or the version is no failure. -/
def exitCode : UsageError → Nat
  | .help => 0
  | .version => 0
  | _ => 2

end UsageError

/-- The parameters, in the order in which the environment is asked for them. -/
inductive Parameter where
  | listen
  | logJson
  | apiKey
  | identityEndpoint
  | vpcRegion
  | powerVsRegion
  | concurrency
  | reconcileTimeout
  | closeRetries
  | jobPoll
  | instancePoll
  | imagePoll
  | errorBackoff
deriving DecidableEq, Inhabited

namespace Parameter

def all : List Parameter :=
  [.listen, .logJson, .apiKey, .identityEndpoint, .vpcRegion, .powerVsRegion, .concurrency,
    .reconcileTimeout, .closeRetries, .jobPoll, .instancePoll, .imagePoll, .errorBackoff]

/-- The name of an option, after its dashes. -/
def optionName : Parameter → String
  | .listen => "listen"
  | .logJson => "log-json"
  | .apiKey => "api-key"
  | .identityEndpoint => "iam-endpoint"
  | .vpcRegion => "vpc-region"
  | .powerVsRegion => "powervs-region"
  | .concurrency => "concurrency"
  | .reconcileTimeout => "reconcile-timeout"
  | .closeRetries => "close-retries"
  | .jobPoll => "job-poll"
  | .instancePoll => "instance-poll"
  | .imagePoll => "image-poll"
  | .errorBackoff => "error-backoff"

/-- The name of an environment variable. -/
def variableName : Parameter → String
  | .listen => "LISTEN_ADDRESS"
  | .logJson => "LOG_JSON"
  | .apiKey => "IBMCLOUD_API_KEY"
  | .identityEndpoint => "IBMCLOUD_IAM_ENDPOINT"
  | .vpcRegion => "VPC_REGION"
  | .powerVsRegion => "POWERVS_REGION"
  | .concurrency => "CONCURRENCY"
  | .reconcileTimeout => "RECONCILE_TIMEOUT"
  | .closeRetries => "CLOSE_RETRIES"
  | .jobPoll => "JOB_POLL_INTERVAL"
  | .instancePoll => "INSTANCE_POLL_INTERVAL"
  | .imagePoll => "IMAGE_POLL_INTERVAL"
  | .errorBackoff => "ERROR_BACKOFF"

end Parameter

/-- A number with a sign in front or without, between zero and a bound. -/
def number (bound : Nat) (signed : Bool) (text : String) : Except UsageError Nat :=
  let value? : Option Nat :=
    match text.toList with
    | '-' :: digits => if signed then (Text.ofDigits? digits).filter (· == 0) else none
    | _ => Text.natural? text
  match value? with
  | some value => if value ≤ bound then .ok value else .error .unreadableNumber
  | none => .error .unreadableNumber

/-- Numbers of narrow types are read as signed numbers first. -/
def narrow (bits : Nat) : String → Except UsageError Nat := number (Nat.pow 2 bits - 1) true

def seconds : String → Except UsageError Nat := number (Nat.pow 2 64 - 1) false

def truth : String → Except UsageError Bool
  | "true" => .ok true
  | "false" => .ok false
  | _ => .error .invalidValue

/-- Sets a parameter to what a text says. -/
def assign (parameter : Parameter) (text : String) (parameters : Parameters) :
    Except UsageError Parameters := do
  let settings := parameters.settings
  match parameter with
  | .listen => return { parameters with listen := text }
  | .logJson => return { parameters with logJson := ← truth text }
  | .apiKey => return { parameters with apiKey := some text }
  | .identityEndpoint => return { parameters with identityEndpoint := text }
  | .vpcRegion => return { parameters with vpcRegion := text }
  | .powerVsRegion => return { parameters with powerVsRegion := text }
  | .concurrency => return { parameters with concurrency := ← narrow 16 text }
  | .reconcileTimeout =>
    return { parameters with settings := { settings with reconcileTimeout := ← seconds text } }
  | .closeRetries =>
    return { parameters with settings := { settings with closeRetries := ← narrow 32 text } }
  | .jobPoll => return { parameters with settings := { settings with jobPoll := ← seconds text } }
  | .instancePoll =>
    return { parameters with settings := { settings with instancePoll := ← seconds text } }
  | .imagePoll =>
    return { parameters with settings := { settings with imagePoll := ← seconds text } }
  | .errorBackoff =>
    return { parameters with settings := { settings with errorBackoff := ← seconds text } }

/-- Where the reader of a command line stands. -/
structure State where
  parameters : Parameters := {}
  /-- The parameters that are set. -/
  given : List Parameter := []
  /-- The option met last, with its value where that came too. -/
  pending : Option (Parameter × Option String) := none

namespace State

/-- Sets a parameter by its option. -/
def give (parameter : Parameter) (text : Option String) (state : State) :
    Except UsageError State := do
  match text with
  | none => throw .invalidValue
  | some text =>
    if state.given.contains parameter then throw .repeated
    return { state with
      parameters := ← assign parameter text state.parameters
      given := parameter :: state.given }

/-- Takes over the option met last. -/
def settle (state : State) : Except UsageError State :=
  match state.pending with
  | none => .ok state
  | some (parameter, text) => { state with pending := none }.give parameter text

/-- Asks the environment for a parameter that is not set. -/
def fill (environment : String → Option String) (parameter : Parameter) (state : State) :
    Except UsageError State :=
  match environment parameter.variableName with
  | none => .ok state
  | some text =>
    if state.given.contains parameter then .ok state else state.give parameter (some text)

end State

/-- A word of a command line. -/
inductive Word where
  /-- Two dashes: no option follows. -/
  | terminator
  /-- Two dashes and a name, perhaps with a value after an equals sign. -/
  | long (name : String) (value : Option String)
  /-- A dash and letters, the first of which counts. -/
  | short (letter : Char)
  | plain (text : String)
deriving DecidableEq, Inhabited

def Word.ofString (text : String) : Word :=
  match text.toList with
  | ['-', '-'] => .terminator
  | '-' :: '-' :: rest =>
    let name := String.ofList (rest.takeWhile (· != '='))
    match rest.dropWhile (· != '=') with
    | _ :: value => .long name (some (String.ofList value))
    | [] => .long name none
  | '-' :: letter :: _ => .short letter
  | _ => .plain text

/-- Meets an option by its name. -/
def meetLong (name : String) (value : Option String) (state : State) :
    Except UsageError State := do
  if name == "help" || name == "version" then
    if value.isSome then throw .unwantedValue
    let _ ← state.settle
    throw (if name == "help" then .help else .version)
  match Parameter.all.find? (·.optionName == name) with
  | none => throw .unknownArgument
  | some .logJson =>
    if value.isSome then throw .unwantedValue
    (← state.settle).give .logJson (some "true")
  | some parameter =>
    let state ← state.settle
    match value with
    | some value => state.give parameter (some value)
    | none => return { state with pending := some (parameter, none) }

/-- Meets a word. -/
def meet (word : Word) (state : State) : Except UsageError State := do
  match word with
  | .terminator => return state
  | .long name value => meetLong name value state
  | .short letter =>
    if letter != 'h' && letter != 'V' then throw .unknownArgument
    let _ ← state.settle
    throw (if letter == 'h' then .help else .version)
  | .plain text =>
    match state.pending with
    | some (parameter, none) => return { state with pending := some (parameter, some text) }
    | _ => throw .unknownArgument

/-- Reads words one after another.  Nothing may follow a terminator. -/
def readWords : List String → State → Except UsageError State
  | [], state => .ok state
  | text :: rest, state =>
    match Word.ofString text with
    | .terminator => if rest.isEmpty then .ok state else .error .unknownArgument
    | word => do readWords rest (← meet word state)

/-- The parameters that a command line and an environment give. -/
def parameters (arguments : List String) (environment : String → Option String) :
    Except UsageError Parameters := do
  let state ← (← readWords arguments {}).settle
  let filled ← Parameter.all.foldlM (fun state parameter => state.fill environment parameter) state
  return filled.parameters

end CommandLine

end Reconciler
