import PolicyReach.Live
import PolicyReach.Text.Utf8

/-!
# Trying connections through kubectl

A job is tried by `agnhost connect` inside the source pod. It reports a failed connection by a word
in its output; any other failure means that the connection was not tried.
-/
namespace PolicyReach

structure Kubectl where
  program : String
  context : Option String
  /-- In milliseconds. -/
  connectTimeout : Nat
  deriving DecidableEq

/-- What a program that has ended leaves behind. -/
structure Exit where
  success : Bool
  stdout : List UInt8
  stderr : List UInt8
  deriving DecidableEq

/-- Starts a program with its arguments; the error tells why it could not be run. -/
abbrev Launcher := String → List String → Except String Exit

/-- Whether the needle stands somewhere in the text. -/
def Text.occurs (needle : List Char) : List Char → Bool
  | [] => needle.isEmpty
  | c :: rest => needle.isPrefixOf (c :: rest) || occurs needle rest

namespace Kubectl

def arguments (k : Kubectl) (job : Job) : List String :=
  (match k.context with
    | some context => ["--context", context]
    | none => []) ++
  ["exec", "--namespace", job.source.ns, job.source.name, "--", "/agnhost", "connect", job.target,
    "--timeout=" ++ toString k.connectTimeout ++ "ms",
    "--protocol=" ++ job.protocol.name.map Char.toLower]

def mentions (output marker : String) : Bool := Text.occurs marker.toList output.toList

def classify (source : WorkloadId) (success : Bool) (stdout stderr : String) :
    Except AgentError Outcome :=
  let output := stdout ++ "\n" ++ stderr
  if success then .ok .connected
  else if mentions output "REFUSED" then .ok .refused
  else if mentions output "TIMEOUT" then .ok .timedOut
  else if mentions output "NotFound" || mentions output "not found" then
    .error (.workloadNotFound source)
  else if mentions output "Unable to connect to the server" then
    .error (.unreachable (Text.trim stderr))
  else .error (.failed (Text.trim output))

/-- Reads what the program left behind for a job. -/
def interpret (job : Job) (latency : Span) (exit : Exit) : Reply :=
  let stdout := Text.Utf8.decode exit.stdout
  let stderr := Text.Utf8.decode exit.stderr
  (classify job.source exit.success stdout stderr).map fun outcome =>
    ⟨outcome, latency, Text.trim stdout ++ Text.trim stderr⟩

/-- No program can be given a text with a NUL character. -/
def launch (start : Launcher) (program : String) (args : List String) : Except String Exit :=
  if (program :: args).any fun s => s.toList.contains '\x00' then
    .error "nul byte found in provided data"
  else start program args

def connect (k : Kubectl) (start : Launcher) (job : Job) : Reply :=
  match launch start k.program (k.arguments job) with
  | .ok exit => interpret job 0 exit
  | .error e => .error (.io e)

end Kubectl

end PolicyReach
