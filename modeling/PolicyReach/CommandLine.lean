import PolicyReach.Kubectl

/-!
# The command line

Options are read from left to right. The value of an option is taken when the next option is read
or the words end, so a word that is wrong in itself is reported before the value in front of it.
-/
namespace PolicyReach

inductive LogFormat where
  | plain
  | json
  deriving DecidableEq

structure LogFormatError where
  text : String
  deriving DecidableEq

def LogFormatError.message (e : LogFormatError) : String :=
  "invalid log format " ++ Text.quoted e.text ++ "; expected plain or json"

namespace LogFormat

def text : LogFormat → String
  | .plain => "plain"
  | .json => "json"

def parse : String → Except LogFormatError LogFormat
  | "plain" => .ok .plain
  | "json" => .ok .json
  | s => .error ⟨s⟩

end LogFormat

structure Inputs where
  resources : String
  policies : Option String
  ports : List ProbePort
  protocols : List Protocol
  ignoreLoopback : Bool
  deriving DecidableEq

structure AnalyzeOptions where
  inputs : Inputs
  explain : Bool
  directions : Bool
  noisy : Bool
  deriving DecidableEq

structure ProbeOptions where
  inputs : Inputs
  mode : ProbeMode
  concurrency : Nat
  jobTimeoutMs : Nat
  connectTimeoutMs : Nat
  retries : UInt32
  retryBackoffMs : Nat
  kubectl : String
  kubeContext : Option String
  clusterDomain : String
  noisy : Bool
  deriving DecidableEq

inductive Command where
  | recipes
  | schema
  | analyze (options : AnalyzeOptions)
  | probe (options : ProbeOptions)
  deriving DecidableEq

structure Invocation where
  logLevel : String
  logFormat : LogFormat
  command : Command
  deriving DecidableEq

def Inputs.paths (i : Inputs) : List String := i.resources :: i.policies.toList

/-- The files that a command reads. -/
def Command.paths : Command → List String
  | .recipes | .schema => []
  | .analyze o => o.inputs.paths
  | .probe o => o.inputs.paths

/-- Why words are no command line; asking for help is one of the reasons. -/
inductive UsageError where
  | help
  | nothingGiven
  | missingSubcommand
  | invalidSubcommand
  | missingRequired
  | unknownArgument
  | valueValidation
  | invalidValue
  | tooManyValues
  | argumentConflict
  deriving DecidableEq

namespace CommandLine

/-- An option with its value. -/
inductive Setting where
  | logLevel (s : String)
  | logFormat (f : LogFormat)
  | resources (path : String)
  | policies (path : String)
  | ports (ps : List ProbePort)
  | protocols (ps : List Protocol)
  | ignoreLoopback
  | explain
  | directions
  | noisy
  | mode (m : ProbeMode)
  | concurrency (n : Nat)
  | jobTimeoutMs (n : Nat)
  | connectTimeoutMs (n : Nat)
  | retries (n : UInt32)
  | retryBackoffMs (n : Nat)
  | kubectl (path : String)
  | kubeContext (s : String)
  | clusterDomain (s : String)
  deriving DecidableEq

inductive Arity where
  | flag (setting : Setting)
  | value (read : String → Except UsageError Setting)

structure OptionSpec where
  name : String
  arity : Arity

/-! ### Values -/

def path (setting : String → Setting) (s : String) : Except UsageError Setting :=
  if s.isEmpty then .error .invalidValue else .ok (setting s)

def checked {ε α : Type} (parse : String → Except ε α) (setting : α → Setting) (s : String) :
    Except UsageError Setting :=
  match parse s with
  | .ok a => .ok (setting a)
  | .error _ => .error .valueValidation

/-- A number of 64 bits, with a plus sign or without. -/
def unsigned? (s : String) : Option Nat := do
  let n ← Text.decimal? (match s.toList with | '+' :: ds => ds | ds => ds)
  if n < UInt64.size then some n else none

/-- A number of 32 bits; zero may have a minus sign. -/
def word? (s : String) : Option UInt32 :=
  match s.toList with
  | '-' :: ds => if Text.decimal? ds = some 0 then some 0 else none
  | _ => (unsigned? s).bind fun n => if n < UInt32.size then some (.ofNat n) else none

def numeric {α : Type} (parse : String → Option α) (setting : α → Setting) (s : String) :
    Except UsageError Setting :=
  match parse s with
  | some a => .ok (setting a)
  | none => .error .valueValidation

/-! ### Options -/

def globalOptions : List OptionSpec :=
  [⟨"log-level", .value fun s => .ok (.logLevel s)⟩,
   ⟨"log-format", .value (checked LogFormat.parse .logFormat)⟩]

def inputOptions : List OptionSpec :=
  [⟨"resources", .value (path .resources)⟩,
   ⟨"policies", .value (path .policies)⟩,
   ⟨"port", .value (checked ProbePort.parseList .ports)⟩,
   ⟨"protocol", .value (checked Protocol.parseList .protocols)⟩,
   ⟨"ignore-loopback", .flag .ignoreLoopback⟩]

def analyzeOptions : List OptionSpec :=
  inputOptions ++
    [⟨"explain", .flag .explain⟩, ⟨"directions", .flag .directions⟩, ⟨"noisy", .flag .noisy⟩]

def probeOptions : List OptionSpec :=
  inputOptions ++
    [⟨"mode", .value (checked ProbeMode.parse .mode)⟩,
     ⟨"concurrency", .value (numeric unsigned? .concurrency)⟩,
     ⟨"job-timeout-ms", .value (numeric unsigned? .jobTimeoutMs)⟩,
     ⟨"connect-timeout-ms", .value (numeric unsigned? .connectTimeoutMs)⟩,
     ⟨"retries", .value (numeric word? .retries)⟩,
     ⟨"retry-backoff-ms", .value (numeric unsigned? .retryBackoffMs)⟩,
     ⟨"kubectl", .value (path .kubectl)⟩,
     ⟨"kube-context", .value fun s => .ok (.kubeContext s)⟩,
     ⟨"cluster-domain", .value fun s => .ok (.clusterDomain s)⟩,
     ⟨"noisy", .flag .noisy⟩]

/-- The options of a command and the commands below it. -/
structure Spec where
  options : List OptionSpec
  subcommands : List String

def rootSpec : Spec := ⟨globalOptions, ["analyze", "probe", "recipes", "schema", "help"]⟩

def subSpec : String → Spec
  | "analyze" => ⟨analyzeOptions ++ globalOptions, []⟩
  | "probe" => ⟨probeOptions ++ globalOptions, []⟩
  | _ => ⟨globalOptions, []⟩

/-! ### Scanning the words of a command -/

structure Scan where
  /-- The option that was read last, with its value if that was read too. -/
  pending : Option (OptionSpec × Option String)
  /-- Names and settings of the options before it. -/
  given : List (String × Setting)

def Scan.start : Scan := ⟨none, []⟩

def Scan.add (s : Scan) (name : String) (setting : Except UsageError Setting) :
    Except UsageError Scan :=
  if s.given.any (·.1 == name) then .error .argumentConflict
  else setting.map fun v => ⟨none, s.given ++ [(name, v)]⟩

def OptionSpec.read (o : OptionSpec) (value : String) : Except UsageError Setting :=
  match o.arity with
  | .flag _ => .error .tooManyValues
  | .value read => read value

/-- Takes the value of the pending option. -/
def Scan.settle (s : Scan) : Except UsageError Scan :=
  match s.pending with
  | none => .ok s
  | some (_, none) => .error .invalidValue
  | some (o, some value) => s.add o.name (o.read value)

def Scan.awaitsValue (s : Scan) : Bool :=
  match s.pending with
  | some (_, none) => true
  | _ => false

/-- Cuts `name=value` at the first equals sign. -/
def cutValue (cs : List Char) : String × Option String :=
  let name := String.ofList (cs.takeWhile (· != '='))
  match cs.dropWhile (· != '=') with
  | [] => (name, none)
  | _ :: value => (name, some (String.ofList value))

def Scan.long (spec : Spec) (s : Scan) (word : List Char) : Except UsageError Scan :=
  let (name, value) := cutValue word
  if name == "help" then
    if value.isSome then .error .tooManyValues else s.settle.bind fun _ => .error .help
  else match spec.options.find? (·.name == name) with
    | none => .error .unknownArgument
    | some o =>
      match o.arity, value with
      | .flag _, some _ => .error .tooManyValues
      | .flag setting, none => s.settle.bind (·.add name (.ok setting))
      | .value read, some value => s.settle.bind (·.add name (read value))
      | .value _, none => s.settle.map fun s => { s with pending := some (o, none) }

/-- The only short option asks for help. -/
def Scan.short (s : Scan) (word : List Char) : Except UsageError Scan :=
  match word with
  | 'h' :: _ => s.settle.bind fun _ => .error .help
  | _ => .error .unknownArgument

/-- What is wrong with a word that belongs to no option. -/
def strayWord (spec : Spec) (afterDashes : Bool) (word : String) : UsageError :=
  if spec.subcommands.isEmpty || (afterDashes && spec.subcommands.contains word) then
    .unknownArgument
  else .invalidSubcommand

/-- The options up to the end or to a subcommand, which is returned with the words behind it. -/
def scan (spec : Spec) :
    Scan → List String → Except UsageError (Scan × Option (String × List String))
  | s, [] => .ok (s, none)
  | s, word :: rest =>
    if !s.awaitsValue && spec.subcommands.contains word then .ok (s, some (word, rest))
    else match word.toList with
      | ['-', '-'] =>
        match rest with
        | [] => .ok (s, none)
        | stray :: _ => .error (strayWord spec true stray)
      | '-' :: '-' :: long => do scan spec (← s.long spec long) rest
      | '-' :: c :: short => do scan spec (← s.short (c :: short)) rest
      | _ =>
        match s.pending with
        | some (o, none) => scan spec { s with pending := some (o, some word) } rest
        | _ => .error (strayWord spec false word)

/-! ### Commands -/

structure Settings where
  logLevel : String
  logFormat : LogFormat
  resources : Option String
  policies : Option String
  ports : List ProbePort
  protocols : List Protocol
  ignoreLoopback : Bool
  explain : Bool
  directions : Bool
  noisy : Bool
  mode : ProbeMode
  concurrency : Nat
  jobTimeoutMs : Nat
  connectTimeoutMs : Nat
  retries : UInt32
  retryBackoffMs : Nat
  kubectl : String
  kubeContext : Option String
  clusterDomain : String

namespace Settings

def standard : Settings where
  logLevel := "netpol_verifier=info,warn"
  logFormat := .plain
  resources := none
  policies := none
  ports := [.number 80]
  protocols := [.tcp]
  ignoreLoopback := false
  explain := false
  directions := false
  noisy := false
  mode := .podIp
  concurrency := 16
  jobTimeoutMs := 10000
  connectTimeoutMs := 1000
  retries := 2
  retryBackoffMs := 500
  kubectl := "kubectl"
  kubeContext := none
  clusterDomain := Job.defaultDomain

def apply (s : Settings) : Setting → Settings
  | .logLevel v => { s with logLevel := v }
  | .logFormat v => { s with logFormat := v }
  | .resources v => { s with resources := some v }
  | .policies v => { s with policies := some v }
  | .ports v => { s with ports := v }
  | .protocols v => { s with protocols := v }
  | .ignoreLoopback => { s with ignoreLoopback := true }
  | .explain => { s with explain := true }
  | .directions => { s with directions := true }
  | .noisy => { s with noisy := true }
  | .mode v => { s with mode := v }
  | .concurrency v => { s with concurrency := v }
  | .jobTimeoutMs v => { s with jobTimeoutMs := v }
  | .connectTimeoutMs v => { s with connectTimeoutMs := v }
  | .retries v => { s with retries := v }
  | .retryBackoffMs v => { s with retryBackoffMs := v }
  | .kubectl v => { s with kubectl := v }
  | .kubeContext v => { s with kubeContext := some v }
  | .clusterDomain v => { s with clusterDomain := v }

def inputs? (s : Settings) : Except UsageError Inputs :=
  match s.resources with
  | none => .error .missingRequired
  | some resources => .ok ⟨resources, s.policies, s.ports, s.protocols, s.ignoreLoopback⟩

def command (s : Settings) : String → Except UsageError Command
  | "recipes" => .ok .recipes
  | "schema" => .ok .schema
  | "analyze" => do return .analyze ⟨← s.inputs?, s.explain, s.directions, s.noisy⟩
  | "probe" => do
    return .probe
      { inputs := ← s.inputs?
        mode := s.mode
        concurrency := s.concurrency
        jobTimeoutMs := s.jobTimeoutMs
        connectTimeoutMs := s.connectTimeoutMs
        retries := s.retries
        retryBackoffMs := s.retryBackoffMs
        kubectl := s.kubectl
        kubeContext := s.kubeContext
        clusterDomain := s.clusterDomain
        noisy := s.noisy }
  | _ => .error .invalidSubcommand

end Settings

/-- Help is about the program or one of its commands. -/
def helpOn : List String → UsageError
  | [] => .help
  | [topic] => if rootSpec.subcommands.contains topic then .help else .invalidSubcommand
  | _ => .invalidSubcommand

/-- Settings behind the subcommand count more than those in front of it. -/
def parse (words : List String) : Except UsageError Invocation := do
  match ← scan rootSpec .start words with
  | (root, none) =>
    let root ← root.settle
    throw (if root.given.isEmpty then .nothingGiven else .missingSubcommand)
  | (_, some ("help", rest)) => throw (helpOn rest)
  | (root, some (name, rest)) =>
    let (sub, _) ← scan (subSpec name) .start rest
    let sub ← sub.settle
    let own := sub.given.foldl (fun s g => s.apply g.2) Settings.standard
    let _ ← own.command name
    let root ← root.settle
    let settings := (root.given ++ sub.given).foldl (fun s g => s.apply g.2) Settings.standard
    return ⟨settings.logLevel, settings.logFormat, ← settings.command name⟩

/-! ### Usage -/

def OptionSpec.usage (o : OptionSpec) : String :=
  match o.arity with
  | .flag _ => "[--" ++ o.name ++ "]"
  | .value _ => "[--" ++ o.name ++ " VALUE]"

/-- A line for each command with the options that it takes. -/
def usage : String :=
  String.join (rootSpec.subcommands.map fun name =>
    String.intercalate " " ("usage:" :: name :: (subSpec name).options.map (·.usage)) ++ "\n")

end CommandLine

def UsageError.message : UsageError → String
  | .help => CommandLine.usage
  | .nothingGiven => "no command is given"
  | .missingSubcommand => "a command is missing"
  | .invalidSubcommand => "there is no such command"
  | .missingRequired => "the option --resources is missing"
  | .unknownArgument => "an argument is unknown"
  | .valueValidation => "the value of an option is invalid"
  | .invalidValue => "the value of an option is missing"
  | .tooManyValues => "an option takes no value"
  | .argumentConflict => "an option is repeated"

end PolicyReach
