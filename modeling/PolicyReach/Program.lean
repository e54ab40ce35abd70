import PolicyReach.Clock
import PolicyReach.CommandLine
import PolicyReach.Json.Read
import PolicyReach.LogFilter
import PolicyReach.Recipes
import PolicyReach.Schema

/-!
# The program

What the program prints and how it ends follows from its command line, the files that it reads and
the agent that tries connections for it.
-/
namespace PolicyReach

structure World where
  /-- The text of a file, or why it cannot be read. -/
  readText : String → Except String String
  agent : Kubectl → Agent

/-- Why the program fails, with the reasons behind that, the nearest one first. -/
structure Failure where
  message : String
  causes : List String
  deriving DecidableEq

/-- What keeps the program from succeeding. -/
inductive Halt where
  | failure (f : Failure)
  /-- A fault ends the program on the spot. -/
  | crash (message : String)
  deriving DecidableEq

/-- What is printed before the program succeeds or halts. -/
structure Result where
  output : String
  halt : Option Halt
  deriving DecidableEq

/-- How the program ends. -/
structure Ending where
  code : UInt8
  stdout : String
  stderr : String
  deriving DecidableEq

namespace Failure

/-- Further lines are as far in as the first. -/
def hang (lead margin : String) (cause : String) : String :=
  lead ++ String.intercalate ("\n" ++ margin)
    ((Text.pieces '\n' cause.toList).map String.ofList)

/-- The number of a cause stands to the right of five columns. -/
def numbered (n : Nat) (cause : String) : String :=
  let digits := toString n
  hang (String.ofList (List.replicate (5 - digits.length) ' ') ++ digits ++ ": ") "       " cause

def causeLines : List String → List String
  | [cause] => [hang "    " "    " cause]
  | causes => causes.mapIdx numbered

/-- Several causes are numbered. -/
def text (f : Failure) : String :=
  "Error: " ++ f.message ++
    (if f.causes.isEmpty then ""
    else "\n\nCaused by:\n" ++ String.intercalate "\n" (causeLines f.causes)) ++ "\n"

end Failure

namespace Program

def failing (message : String) (causes : List String) {α : Type} : Except Failure α :=
  .error ⟨message, causes⟩

def readText (w : World) (kind path : String) : Except Failure String :=
  match w.readText path with
  | .ok s => .ok s
  | .error e => failing ("failed to read " ++ kind ++ " from " ++ path) [e]

/-! ### Loading -/

/-- Why a text is no document of a kind. -/
def malformed (kind : String) : String := "the text is no " ++ kind ++ " document"

def topologyOf (s : String) : Except String Topology :=
  match (Json.parse? s).bind Resources.ofJson? with
  | none => .error (malformed "resources")
  | some resources => (Topology.build resources).mapError TopologyError.message

def policiesOf (s : String) : Except String (List Document.Policy) :=
  match (Json.parse? s).filter Document.isComplete with
  | none => .error (malformed "JSON")
  | some v =>
    match Document.policiesOf? v with
    | some ps => .ok ps
    | none => .error "data did not match any variant of untagged enum PolicyDocument"

def loadTopology (w : World) (path : String) : Except Failure Topology := do
  match topologyOf (← readText w "resources" path) with
  | .ok topology => return topology
  | .error e => failing ("invalid resources in " ++ path) [e]

def loadPolicies (w : World) : Option String → Except Failure (List Document.Policy)
  | none => .ok []
  | some path => do
    match policiesOf (← readText w "policies" path) with
    | .ok ps => return ps
    | .error e => failing ("invalid policies in " ++ path) [e]

def invalidCauses (e : Invalid) : List String :=
  e.message :: (e.source?.map SelectorError.message).toList

def compile (ps : List Document.Policy) (topology : Topology) : Except Failure PolicyModel :=
  match PolicyModel.compile ps topology with
  | .ok model => .ok model
  | .error e => failing "invalid network policies" (invalidCauses e)

/-- Without policies no workload is isolated. -/
def load (w : World) (i : Inputs) : Except Failure (Topology × PolicyModel) := do
  let topology ← loadTopology w i.resources
  let ps ← loadPolicies w i.policies
  return (topology, ← compile ps topology)

def probes (i : Inputs) (mode : ProbeMode) : List Probe :=
  Probe.combinations i.ports i.protocols mode

/-! ### Analysing -/

def policiesText (model : PolicyModel) : String :=
  "Policies:\n" ++ model.policies.explain ++ "\n\n"

def analysis (o : AnalyzeOptions) (topology : Topology) (model : PolicyModel) : String :=
  (if o.explain then policiesText model else "") ++
    String.join ((probes o.inputs .podIp).map fun probe =>
      (Table.expected model topology probe o.inputs.ignoreLoopback).report o.directions o.noisy)

def analyze (w : World) (o : AnalyzeOptions) : Result :=
  match load w o.inputs with
  | .ok (topology, model) => ⟨analysis o topology model, none⟩
  | .error e => ⟨"", some (.failure e)⟩

/-! ### Probing -/

/-- What came of one probe. -/
structure Round where
  report : String
  mismatched : Nat
  cancelled : Bool
  /-- How often the agent was called. -/
  calls : Nat

def liveConfig (o : ProbeOptions) : LiveConfig where
  concurrency := o.concurrency
  jobTimeout := .ofMillis o.jobTimeoutMs
  backoff := .doubling o.retries (.ofMillis o.retryBackoffMs)
  ignoreLoopback := o.inputs.ignoreLoopback

def kubectl (o : ProbeOptions) : Kubectl := ⟨o.kubectl, o.kubeContext, o.connectTimeoutMs⟩

/-- Plays a round when the agent has been called so often before. -/
def round (o : ProbeOptions) (agent : Agent) (topology : Topology) (model : PolicyModel)
    (calls : Nat) (probe : Probe) : Except Halt Round :=
  let expected := Table.expected model topology probe o.inputs.ignoreLoopback
  let start := Live.initial (liveConfig o) o.clusterDomain topology probe
  let final := Live.Clock.run (liveConfig o) (agent.after calls) none start
  let observed := final.state.table
  if final.state.overflowed then .error (.crash RetryFault.tooManyAttempts.message)
  else
    match Table.compare expected observed with
    | .error e => .error (.failure ⟨"cannot compare tables for " ++ probe.text, [e.message]⟩)
    | .ok c =>
      .ok ⟨c.report expected observed o.noisy, c.mismatched,
        final.state.cancelled || final.cancelling, final.calls.size⟩

/-- Plays rounds until one is cancelled or halts. -/
def rounds (play : Nat → Probe → Except Halt Round) :
    Nat → List Probe → List Round × Option Halt
  | _, [] => ([], none)
  | calls, probe :: rest =>
    match play calls probe with
    | .error e => ([], some e)
    | .ok r =>
      if r.cancelled then ([r], none)
      else
        let (rs, halt) := rounds play (calls + r.calls) rest
        (r :: rs, halt)

/-- Mismatches count more than a run that was cancelled. -/
def judge (rs : List Round) : Option Failure :=
  let mismatched := rs.foldl (fun n r => n + r.mismatched) 0
  if mismatched ≠ 0 then some ⟨"found " ++ toString mismatched ++ " mismatched cells", []⟩
  else if rs.any (·.cancelled) then some ⟨"Aborted", []⟩
  else none

def probe (w : World) (o : ProbeOptions) : Result :=
  match load w o.inputs with
  | .error e => ⟨"", some (.failure e)⟩
  | .ok (topology, model) =>
    let (rs, halt) :=
      rounds (round o (w.agent (kubectl o)) topology model) 0 (probes o.inputs o.mode)
    ⟨String.join (rs.map (·.report)), halt.or ((judge rs).map .failure)⟩

/-! ### Recipes -/

def recipes : Result :=
  let topology := Recipe.standardTopology
  match Recipe.all.mapM (·.report topology) with
  | .ok reports => ⟨"Resources:\n" ++ topology.render ++ "\n\n" ++ String.join reports, none⟩
  | .error e => ⟨"", some (.failure ⟨"invalid network policies", invalidCauses e⟩)⟩

/-! ### Running -/

def perform (w : World) : Command → Result
  | .recipes => recipes
  | .schema => ⟨Schema.text, none⟩
  | .analyze o => analyze w o
  | .probe o => probe w o

def ending (r : Result) : Ending :=
  match r.halt with
  | none => ⟨0, r.output, ""⟩
  | some (.failure f) => ⟨1, r.output, f.text⟩
  | some (.crash message) => ⟨101, r.output, message ++ "\n"⟩

def execute (w : World) (i : Invocation) : Ending :=
  match LogFilter.check i.logLevel with
  | .error .insideCharacter => ending ⟨"", some (.crash LogFilterError.insideCharacter.message)⟩
  | .error e => ending ⟨"", some (.failure ⟨e.message, e.causes⟩)⟩
  | .ok _ => ending (perform w i.command)

def usageEnding : UsageError → Ending
  | .help => ⟨0, UsageError.help.message, ""⟩
  | e => ⟨2, "", "error: " ++ e.message ++ "\n" ++ CommandLine.usage⟩

/-- Runs the program on the words of its command line. -/
def run (w : World) (words : List String) : Ending :=
  match CommandLine.parse words with
  | .ok i => execute w i
  | .error e => usageEnding e

end Program

end PolicyReach
