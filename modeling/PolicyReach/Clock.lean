import PolicyReach.Live

/-!
# Live runs in virtual time

Time is counted in milliseconds and passes only while every job in flight waits. Jobs that can go
on at the same instant do so in the order in which they became ready, in turns. A turn has credit
for so many waits that end in it; jobs that wait when none is left are put off to the next turn. A
cancelled run stops where a job is done or a turn ends.
-/
namespace PolicyReach

/-- What an agent does when it is called. -/
structure Behaviour where
  /-- The time until the reply, unless it never comes. -/
  delay : Option Nat
  reply : Reply
  /-- Whether the call cancels the run. -/
  cancels : Bool

/-- The behaviour depends on the number of the call in the whole run, the job and the attempt. -/
abbrev Agent := Nat → Job → Nat → Behaviour

/-- The agent when it has been called so often before. -/
def Agent.after (agent : Agent) (calls : Nat) : Agent := fun call => agent (calls + call)

namespace Live

inductive Stage where
  | begin
  /-- The agent was called, which comes to a reply at some time. -/
  | calling (endsAt : Nat) (reply : Reply)
  /-- The attempt failed with a reply, and the next one begins at some time. -/
  | pausing (endsAt : Nat) (reply : Reply)

/-- A flight and what it does. -/
structure Task where
  ticket : Ticket
  attempt : Nat
  stage : Stage

structure Clock where
  now : Nat
  state : State
  ready : List Task
  /-- Tasks that waited when no credit was left, the last one first. -/
  putOff : List Task
  waiting : List (Nat × Task)
  /-- How many waits may still end in this turn. -/
  credit : Nat
  /-- A job was done when no credit was left, which ends the turn. -/
  ended : Bool
  /-- The run was cancelled, which is not acted upon yet. -/
  cancelling : Bool
  /-- The jobs of all calls. -/
  calls : Array Job
  active : Nat
  peak : Nat

def turnCredit : Nat := 128

/-- How long a call takes, which is no longer than the job may, and its reply. -/
def bounded (c : LiveConfig) (b : Behaviour) : Nat × Reply :=
  let limit := c.jobTimeout.sleepMillis
  let timeout := (limit, Except.error (AgentError.timeout c.jobTimeout))
  match b.delay with
  | none => timeout
  | some delay =>
    let delay := (Span.ofMillis delay).sleepMillis
    if delay ≤ limit then (delay, b.reply) else timeout

/-- The milliseconds between an attempt that failed and the next one. -/
def pauseAfter (c : LiveConfig) (attempt : Nat) : Nat :=
  match c.backoff.nominal attempt with
  | .ok delay => delay.sleepMillis
  | .error _ => c.backoff.maxDelay.sleepMillis

namespace Clock

def apply (c : LiveConfig) (k : Clock) (e : Event) : Clock :=
  { k with state := (next c k.state e).getD k.state }

/-- Lets a task wait until a time, and go on for a credit if that has come. -/
def wait (k : Clock) (task : Task) (endsAt : Nat) (goOn : Clock → Clock) : Clock :=
  match k.credit with
  | 0 => { k with putOff := task :: k.putOff }
  | credit + 1 =>
    if endsAt ≤ k.now then goOn { k with credit }
    else { k with waiting := k.waiting ++ [(endsAt, task)] }

/-- Hands over the reply to a task's attempt. -/
def deliver (c : LiveConfig) (k : Clock) (task : Task) (reply : Reply) : Clock :=
  k.apply c (.answer task.ticket.row task.ticket.col reply)

/-- Makes the next attempt of a task before any other task goes on. -/
def again (c : LiveConfig) (task : Task) (reply : Reply) (k : Clock) : Clock :=
  let k := deliver c k task reply
  { k with ready := { task with attempt := task.attempt + 1, stage := .begin } :: k.ready }

/-- A job is done, where a run is cancelled if that is due. -/
def leave (c : LiveConfig) (k : Clock) : Clock :=
  if k.cancelling then k.apply c .cancel else { k with ended := k.credit == 0 }

/-- Takes the reply of a task's attempt. -/
def answer (c : LiveConfig) (task : Task) (reply : Reply) (k : Clock) : Clock :=
  let k := { k with active := k.active - 1 }
  if settles c task.attempt reply then leave c (deliver c k task reply)
  else
    let endsAt := k.now + pauseAfter c task.attempt
    k.wait { task with stage := .pausing endsAt reply } endsAt (again c task reply)

/-- Calls the agent. A reply that takes no time is not waited for. -/
def call (c : LiveConfig) (agent : Agent) (k : Clock) (task : Task) : Clock :=
  let b := agent (k.calls.size + 1) task.ticket.job task.attempt
  let k :=
    { k with
      calls := k.calls.push task.ticket.job
      cancelling := k.cancelling || b.cancels
      active := k.active + 1
      peak := max k.peak (k.active + 1) }
  if b.delay = some 0 then k.answer c task b.reply
  else
    let (delay, reply) := bounded c b
    let endsAt := k.now + delay
    k.wait { task with stage := .calling endsAt reply } endsAt (answer c task reply)

/-- Lets a task go on until it waits, is done or begins another attempt. -/
def poll (c : LiveConfig) (agent : Agent) (k : Clock) (task : Task) : Clock :=
  match task.stage with
  | .begin => call c agent k task
  | .calling endsAt reply => k.wait task endsAt (answer c task reply)
  | .pausing endsAt reply => k.wait task endsAt (again c task reply)

/-- Goes over to the next turn. The tasks put off become ready, the last one first. -/
def nextTurn (k : Clock) : Clock :=
  { k with ready := k.ready ++ k.putOff, putOff := [], credit := turnCredit, ended := false }

def earliest (waiting : List (Nat × Task)) : Option Nat := (waiting.map (·.1)).min?

/-- Moves on to the next instant at which something happens. -/
def advance (c : LiveConfig) (cancelAt : Option Nat) (k : Clock) : Option Clock :=
  (earliest k.waiting).map fun time =>
    if cancelAt.any (· < time) then k.apply c .cancel
    else
      { k with
        now := time
        credit := turnCredit
        ready := (k.waiting.filter (·.1 == time)).map (·.2)
        waiting := k.waiting.filter (·.1 != time) }

/-- Ends a turn. The time moves on if no task was put off. -/
def endTurn (c : LiveConfig) (cancelAt : Option Nat) (k : Clock) : Option Clock :=
  if k.cancelling || cancelAt.any (· ≤ k.now) then some (k.apply c .cancel)
  else if k.ended || !k.putOff.isEmpty then some k.nextTurn
  else advance c cancelAt k

def tick (c : LiveConfig) (agent : Agent) (cancelAt : Option Nat) (k : Clock) : Option Clock :=
  if k.state.stopped then none
  else if k.ended then endTurn c cancelAt k
  else match k.state.queued, next c k.state .dispatch with
    | t :: _, some s => some { k with state := s, ready := k.ready ++ [⟨t, 1, .begin⟩] }
    | _, _ =>
      match k.ready with
      | task :: rest => some (poll c agent { k with ready := rest } task)
      | [] => endTurn c cancelAt k

def ticks (c : LiveConfig) (agent : Agent) (cancelAt : Option Nat) : Nat → Clock → Clock
  | 0, k => k
  | n + 1, k =>
    match tick c agent cancelAt k with
    | none => k
    | some k => ticks c agent cancelAt n k

def start (s : State) : Clock where
  now := 0
  state := s
  ready := []
  putOff := []
  waiting := []
  credit := turnCredit
  ended := false
  cancelling := false
  calls := #[]
  active := 0
  peak := 0

/-- Each job is dispatched once, and each of its attempts begins, is waited for and ends. A turn
that puts jobs off, each of them once, has ended as many waits as it has credit. -/
def tickBound (c : LiveConfig) (jobs : Nat) : Nat :=
  8 * ((jobs + 1) * (jobs + 1)) * (c.backoff.maxRetries.toNat + 2)

/-- Runs to the end, unless it is cancelled after so many milliseconds. -/
def run (c : LiveConfig) (agent : Agent) (cancelAfter : Option Nat) (s : State) : Clock :=
  let cancelAt := cancelAfter.map fun ms => (Span.ofMillis ms).sleepMillis
  ticks c agent cancelAt (tickBound c s.queued.length) (start s)

def jobLe (a b : Job) : Bool :=
  (compareLex (compareOn Job.source) (compareOn Job.destination) a b).isLE

/-- How often each job was tried, by source and destination. -/
def callCounts (k : Clock) : List (Job × Nat) :=
  (k.calls.toList.eraseDups.mergeSort jobLe).map fun j => (j, k.calls.count j)

end Clock

/-! ### Scripted agents -/

/-- What an agent does for a pair of workloads: an item per attempt, the last one for all others. -/
structure Script where
  source : WorkloadId
  destination : WorkloadId
  attempts : List Behaviour

def attemptOf (attempts : List Behaviour) (attempt : Nat) : Option Behaviour :=
  attempts[attempt - 1]?.or attempts.getLast?

/-- An agent that never answers. -/
def silent : Behaviour := ⟨none, .error (.failed ""), false⟩

/-- Follows the first script for the pair, else the other one; a given call cancels the run. -/
def scripted (scripts : List Script) (otherwise : List Behaviour) (cancelCall : Option Nat) :
    Agent := fun call job attempt =>
  let attempts :=
    match scripts.find? fun s => s.source = job.source && s.destination = job.destination with
    | some s => s.attempts
    | none => otherwise
  let b := (attemptOf attempts attempt).getD silent
  { b with cancels := b.cancels || cancelCall = some call }

end Live

end PolicyReach
