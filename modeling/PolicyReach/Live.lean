import PolicyReach.Backoff
import PolicyReach.Job
import PolicyReach.Table

/-!
# Live runs

An agent tries connections on behalf of the source workloads. A live run dispatches a job per cell,
only so many at once, and writes down what comes back. An answer about the connection is final; a
failure to try it is retried. In which order the jobs in flight are answered is left open here.
-/
namespace PolicyReach

inductive Outcome where
  | connected
  | refused
  | timedOut
  deriving DecidableEq

structure Attempt where
  outcome : Outcome
  latency : Span
  detail : String
  deriving DecidableEq

/-- A failure to try the connection, which tells nothing about policies. -/
inductive AgentError where
  | workloadNotFound (id : WorkloadId)
  | unreachable (detail : String)
  | timeout (limit : Span)
  | failed (detail : String)
  | io (detail : String)
  deriving DecidableEq

abbrev Reply := Except AgentError Attempt

structure LiveConfig where
  concurrency : Nat
  jobTimeout : Span
  backoff : Backoff
  ignoreLoopback : Bool

namespace Outcome

def text : Outcome → String
  | .connected => "connected"
  | .refused => "refused"
  | .timedOut => "timed out"

def verdict : Outcome → Verdict
  | .connected => .allowed
  | .refused | .timedOut => .denied

end Outcome

def AgentError.message : AgentError → String
  | .workloadNotFound id => "workload " ++ id.text ++ " not found"
  | .unreachable detail => "execution agent is unreachable: " ++ detail
  | .timeout limit => "job did not complete within " ++ limit.text
  | .failed detail => "job failed: " ++ detail
  | .io detail => detail

def Attempt.text (a : Attempt) : String :=
  a.outcome.text ++ " in " ++ toString a.latency.toMillis ++ "ms: " ++ a.detail

/-- What is written down for a job. -/
def Cell.ofReply : Reply → Cell
  | .ok a => .observed a.outcome.verdict a.text
  | .error e => .unknown (some e.message)

/-- A job and the cell that it fills. -/
structure Ticket where
  row : Nat
  col : Nat
  job : Job
  deriving DecidableEq

/-- A dispatched job and the number of the attempt under way, from one. -/
structure Flight where
  ticket : Ticket
  attempt : Nat
  deriving DecidableEq

/-- Whether the flight is the one for a cell. -/
def Flight.fills (row col : Nat) (f : Flight) : Bool := f.ticket.row == row && f.ticket.col == col

/-- The next attempt. Attempts are counted in 32 bits. -/
def Flight.again? (f : Flight) : Option Flight :=
  if f.attempt + 1 < UInt32.size then some { f with attempt := f.attempt + 1 } else none

namespace Live

structure State where
  queued : List Ticket
  inFlight : List Flight
  table : Table
  cancelled : Bool
  /-- The counter of a job's attempts has overflowed, which has broken the run off. -/
  overflowed : Bool
  deriving DecidableEq

inductive Event where
  | dispatch
  /-- The attempt under way for a cell has come back, and if there is to be another one, the pause
  before it is over. -/
  | answer (row col : Nat) (reply : Reply)
  | cancel

def State.stopped (s : State) : Bool := s.cancelled || s.overflowed

/-- A run needs room for one job at least. -/
def room (c : LiveConfig) : Nat := max c.concurrency 1

def finish (s : State) (f : Flight) (reply : Reply) : State :=
  { s with
    inFlight := s.inFlight.erase f
    table := s.table.set f.ticket.row f.ticket.col (.ofReply reply) }

def retry (s : State) (f : Flight) : State :=
  match f.again? with
  | some g => { s with inFlight := s.inFlight.replace f g }
  | none => { s with overflowed := true }

@[simp] theorem queued_retry (s : State) (f : Flight) : (retry s f).queued = s.queued := by
  rw [retry]
  cases f.again? <;> rfl

@[simp] theorem cancelled_retry (s : State) (f : Flight) :
    (retry s f).cancelled = s.cancelled := by
  rw [retry]
  cases f.again? <;> rfl

@[simp] theorem table_retry (s : State) (f : Flight) : (retry s f).table = s.table := by
  rw [retry]
  cases f.again? <;> rfl

/-- Whether a reply settles the job after so many attempts. -/
def settles (c : LiveConfig) (attempt : Nat) : Reply → Bool
  | .ok _ => true
  | .error _ => c.backoff.maxRetries.toNat < attempt

/-- The state after an event, if it can happen. Nothing happens in a run that has stopped. -/
def next (c : LiveConfig) (s : State) (e : Event) : Option State :=
  if s.stopped then none
  else match e with
    | .dispatch =>
      match s.queued with
      | t :: rest =>
        if s.inFlight.length < room c then
          some { s with queued := rest, inFlight := s.inFlight ++ [⟨t, 1⟩] }
        else none
      | [] => none
    | .answer row col reply =>
      (s.inFlight.find? (Flight.fills row col)).map fun f =>
        if settles c f.attempt reply then finish s f reply else retry s f
    | .cancel => some { s with cancelled := true }

/-- The cell of a pair before anything was tried. -/
def initialCell (domain : String) (probe : Probe) (source destination : Workload) : Cell :=
  match Job.build? domain source destination probe with
  | some _ => .unknown none
  | none => .unknown (some (probe.unresolved destination))

/-- The jobs of a run, row by row. -/
def tickets (c : LiveConfig) (domain : String) (topology : Topology) (probe : Probe) :
    List Ticket :=
  let ticket (row col : Nat) (source destination : Workload) : Option Ticket :=
    if c.ignoreLoopback && row == col then none
    else (Job.build? domain source destination probe).map (Ticket.mk row col)
  (topology.workloads.mapIdx fun row source =>
    (topology.workloads.mapIdx fun col destination =>
      ticket row col source destination).filterMap id).flatten

def initial (c : LiveConfig) (domain : String) (topology : Topology) (probe : Probe) : State where
  queued := tickets c domain topology probe
  inFlight := []
  table := .tabulate probe topology c.ignoreLoopback (initialCell domain probe)
  cancelled := false
  overflowed := false

end Live

end PolicyReach
