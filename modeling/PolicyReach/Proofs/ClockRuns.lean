import PolicyReach.Clock
import PolicyReach.Proofs.Replies

/-!
# Runs in virtual time come to their end

A run in virtual time that nobody cancels, and whose attempts can be counted, answers every job
within the ticks that it is given. What it has written down then is what the agent has told in the
calls of the run, as in any other schedule.
-/
namespace PolicyReach.Live

/-- The time at which a stage is over, if it depends on the time. -/
def Stage.endsAt? : Stage → Option ℕ
  | .begin => none
  | .calling endsAt _ | .pausing endsAt _ => some endsAt

/-- The reply to an attempt, once the agent was called. -/
def Stage.reply? : Stage → Option Reply
  | .begin => none
  | .calling _ reply | .pausing _ reply => some reply

def Task.flight (t : Task) : Flight := ⟨t.ticket, t.attempt⟩

namespace Clock

variable {x : Scenario} {agent : Agent} {k k' : Clock} {cur cur' : List Task} {task t : Task}
  {reply : Reply}

def tasks (k : Clock) : List Task := k.ready ++ k.putOff ++ k.waiting.map (·.2)

/-- All that waiting can come to. -/
theorem wait_cases {endsAt : ℕ} {goOn : Clock → Clock} {Q : Clock → Prop}
    (putOff : k.credit = 0 → Q { k with putOff := task :: k.putOff })
    (goesOn : ∀ credit, k.credit = credit + 1 → endsAt ≤ k.now → Q (goOn { k with credit }))
    (waits : k.credit ≠ 0 → k.now < endsAt →
      Q { k with waiting := k.waiting ++ [(endsAt, task)] }) :
    Q (k.wait task endsAt goOn) := by
  rw [wait]
  split
  · next hcredit => exact putOff hcredit
  · next credit hcredit =>
    split
    · next hnow => exact goesOn credit hcredit hnow
    · next hnow => exact waits (by omega) (by omega)

/-! ### What the tasks know of the agent -/

/-- The agent was called for the job, and its reply is the one to the given attempt. -/
def Called (agent : Agent) (x : Scenario) (calls : Array Job) (job : Job) (n : ℕ) : Prop :=
  ∃ i, calls[i]? = some job ∧ x.agent job n = some (bounded x.config (agent (i + 1) job n)).2

/-- The tasks are those in flight, the ones under way included, and the scenario says what the agent
has told so far. There are numbers for all attempts that may be made. -/
structure Faithful (agent : Agent) (x : Scenario) (cur : List Task) (k : Clock) : Prop where
  opened : k.state.stopped = false
  quiet : k.cancelling = false
  counts : x.attempts < UInt32.size
  invariant : x.Invariant k.state
  flights : ((cur ++ k.tasks).map Task.flight).Perm k.state.inFlight
  answering : ∀ t ∈ cur ++ k.tasks, ∀ reply, t.stage.reply? = some reply →
    Called agent x k.calls t.ticket.job t.attempt ∧ x.agent t.ticket.job t.attempt = some reply
  pausing : ∀ t ∈ cur ++ k.tasks, ∀ endsAt reply, t.stage = .pausing endsAt reply →
    settles x.config t.attempt reply = false
  failed : ∀ f ∈ k.state.inFlight, ∀ n, 1 ≤ n → n < f.attempt →
    Called agent x k.calls f.ticket.job n
  settled : ∀ t ∈ x.tickets, t ∉ k.state.pending → ∀ n, 1 ≤ n → n ≤ x.tries t.job →
    Called agent x k.calls t.job n

namespace Faithful

/-- Tasks may be moved about. -/
theorem of_perm (h : Faithful agent x cur k) (hstate : k'.state = k.state)
    (hcancelling : k'.cancelling = k.cancelling) (hcalls : k'.calls = k.calls)
    (hperm : (cur' ++ k'.tasks).Perm (cur ++ k.tasks)) : Faithful agent x cur' k' := by
  refine ⟨hstate ▸ h.opened, hcancelling ▸ h.quiet, h.counts, hstate ▸ h.invariant, ?_, ?_, ?_, ?_,
    ?_⟩
  · rw [hstate]
    exact (hperm.map _).trans h.flights
  · intro t ht
    rw [hcalls]
    exact h.answering t (hperm.mem_iff.mp ht)
  · intro t ht
    exact h.pausing t (hperm.mem_iff.mp ht)
  · rw [hstate, hcalls]
    exact h.failed
  · rw [hstate, hcalls]
    exact h.settled

theorem wait {endsAt : ℕ} {goOn : Clock → Clock} (h : Faithful agent x [task] k)
    (hgoOn : ∀ k, Faithful agent x [task] k → Faithful agent x [] (goOn k)) :
    Faithful agent x [] (k.wait task endsAt goOn) := by
  refine wait_cases (fun _ => ?_) (fun _ _ _ => hgoOn _ ?_) (fun _ _ => ?_)
  · refine h.of_perm rfl rfl rfl ?_
    simp only [tasks, List.nil_append, List.cons_append, List.append_assoc]
    exact List.perm_middle
  · exact h.of_perm rfl rfl rfl (.refl _)
  · refine h.of_perm rfl rfl rfl ?_
    simp only [tasks, List.nil_append, List.map_append, List.map_cons, List.map_nil,
      ← List.append_assoc]
    exact List.perm_append_singleton _ _

theorem flight_mem (h : Faithful agent x cur k) (ht : t ∈ cur ++ k.tasks) :
    t.flight ∈ k.state.inFlight :=
  h.flights.mem_iff.mp (List.mem_map_of_mem ht)

/-- The rest of the tasks are in flight once a task is gone. -/
theorem flights_erase (h : Faithful agent x [task] k) :
    (k.tasks.map Task.flight).Perm (k.state.inFlight.erase task.flight) := by
  have herase := h.flights.erase task.flight
  rwa [List.singleton_append, List.map_cons, List.erase_cons_head] at herase

theorem reply_eq (h : Faithful agent x [task] k) (hreply : task.stage.reply? = some reply) :
    x.reply task.ticket.job task.attempt = reply := by
  obtain ⟨_, hagent⟩ := h.answering _ List.mem_cons_self reply hreply
  rw [Scenario.reply, hagent, Option.getD_some]

/-- The state after an answer, which is the agent's. -/
theorem state_deliver (h : Faithful agent x [task] k) (hreply : task.stage.reply? = some reply)
    (hstate : k'.state = k.state) : (deliver x.config k' task reply).state =
      if settles x.config task.attempt reply then Live.finish k.state task.flight reply
        else Live.retry k.state task.flight := by
  have hnext := (Scenario.answer_step h.invariant h.opened (h.flight_mem List.mem_cons_self)).2
  simp only [Task.flight, h.reply_eq hreply] at hnext
  rw [deliver, apply, hstate, hnext, Option.getD_some]
  rfl

/-- A job is done, for which the agent was called as often as it is tried. -/
theorem finish (h : Faithful agent x [task] k) (hreply : task.stage.reply? = some reply)
    (hs : settles x.config task.attempt reply = true)
    (hstate : k'.state = Live.finish k.state task.flight reply)
    (hcancelling : k'.cancelling = k.cancelling) (hcalls : k'.calls = k.calls)
    (htasks : k'.tasks = k.tasks) : Faithful agent x [] k' := by
  have hself := h.reply_eq hreply
  have hf := h.flight_mem List.mem_cons_self
  have hinvariant := h.invariant.finish hf (by simpa only [Task.flight, hself] using hs)
  have htried := (h.invariant.tried _ hf).tries_eq (by simpa only [Task.flight, hself] using hs)
  simp only [Task.flight, hself] at hf hinvariant htried
  have hpending := Scenario.pending_finish hf reply
  refine ⟨?_, hcancelling ▸ h.quiet, h.counts, hstate ▸ hinvariant, ?_, ?_, ?_, ?_, ?_⟩
  · rw [hstate]
    exact h.opened
  · rw [hstate, List.nil_append, htasks]
    exact h.flights_erase
  · intro t ht
    rw [List.nil_append, htasks] at ht
    rw [hcalls]
    exact h.answering t (List.mem_append_right _ ht)
  · intro t ht
    rw [List.nil_append, htasks] at ht
    exact h.pausing t (List.mem_append_right _ ht)
  · intro g hg
    rw [hstate] at hg
    rw [hcalls]
    exact h.failed g (List.mem_of_mem_erase hg)
  · intro t ht hdone n hn hle
    rw [hcalls]
    by_cases hsame : t = task.ticket
    · subst hsame
      rcases Nat.lt_or_eq_of_le hle with hlt | rfl
      · exact h.failed _ hf n hn (htried ▸ hlt)
      · rw [htried]
        exact (h.answering _ List.mem_cons_self reply hreply).1
    · refine h.settled t ht (fun hmem => ?_) n hn hle
      rcases List.mem_cons.mp (hpending.mem_iff.mp hmem) with heq | hmem
      · exact hsame heq
      · exact hdone (hstate ▸ hmem)

/-- After a pause the next attempt begins, for which there is a number. -/
theorem again {endsAt : ℕ} (h : Faithful agent x [{ task with stage := .pausing endsAt reply }] k) :
    Faithful agent x [] (again x.config task reply k) := by
  have hs := h.pausing _ List.mem_cons_self endsAt reply rfl
  have hself := h.reply_eq rfl
  have hf := h.flight_mem List.mem_cons_self
  simp only [Task.flight] at hs hself hf
  have hcount : task.attempt + 1 < UInt32.size :=
    Nat.lt_of_le_of_lt (Scenario.settles_eq_false hs).2 h.counts
  have hstep := Scenario.answer_step h.invariant h.opened hf
  have hinvariant := Scenario.step_preserves_invariant h.invariant hstep
  have hpending := Scenario.pending_retry hcount hf
  have hretry := Scenario.retry_of_lt (f := ⟨task.ticket, task.attempt⟩) hcount k.state
  have hstate := h.state_deliver rfl rfl
  simp only [Task.flight, hself, hs, Bool.false_eq_true, if_false, hretry]
    at hinvariant hpending hstate
  have hstate : (Clock.again x.config task reply k).state = _ := hstate
  have htasks : (Clock.again x.config task reply k).tasks =
      ⟨task.ticket, task.attempt + 1, .begin⟩ :: k.tasks := rfl
  have hreplaced := Scenario.perm_replace
    (b := { ticket := task.ticket, attempt := task.attempt + 1 }) hf
  refine ⟨?_, h.quiet, h.counts, hstate ▸ hinvariant, ?_, ?_, ?_, ?_, ?_⟩
  · rw [hstate]
    exact h.opened
  · rw [hstate, htasks]
    exact (h.flights_erase.cons _).trans hreplaced.symm
  · intro t ht reply' hreply
    rcases List.mem_cons.mp ht with rfl | ht
    · cases hreply
    · exact h.answering t (List.mem_cons_of_mem _ ht) reply' hreply
  · intro t ht endsAt' reply' hstage
    rcases List.mem_cons.mp ht with rfl | ht
    · cases hstage
    · exact h.pausing t (List.mem_cons_of_mem _ ht) endsAt' reply' hstage
  · intro g hg n hn hlt
    rw [hstate] at hg
    rcases List.mem_cons.mp (hreplaced.mem_iff.mp hg) with rfl | hg
    · rcases Nat.lt_or_eq_of_le (Nat.le_of_lt_succ hlt) with hlt | rfl
      · exact h.failed _ hf n hn hlt
      · exact (h.answering _ List.mem_cons_self reply rfl).1
    · exact h.failed g (List.mem_of_mem_erase hg) n hn hlt
  · intro t ht hdone
    exact h.settled t ht fun hmem => hdone (hstate ▸ hpending.mem_iff.mpr hmem)

/-- A task whose attempt failed may pause before the next one. -/
theorem pause {endsAt resumesAt : ℕ}
    (h : Faithful agent x [{ task with stage := .calling endsAt reply }] k)
    (hs : settles x.config task.attempt reply = false) :
    Faithful agent x [{ task with stage := .pausing resumesAt reply }] k := by
  refine ⟨h.opened, h.quiet, h.counts, h.invariant, h.flights, ?_, ?_, h.failed, h.settled⟩
  · intro t ht
    rcases List.mem_cons.mp ht with rfl | ht
    · have hself := h.answering _ List.mem_cons_self
      exact hself
    · exact h.answering t (List.mem_cons_of_mem _ ht)
  · intro t ht endsAt' reply' hstage
    rcases List.mem_cons.mp ht with rfl | ht
    · obtain ⟨_, rfl⟩ := Stage.pausing.inj hstage
      exact hs
    · exact h.pausing t (List.mem_cons_of_mem _ ht) endsAt' reply' hstage

theorem answer {endsAt : ℕ}
    (h : Faithful agent x [{ task with stage := .calling endsAt reply }] k) :
    Faithful agent x [] (answer x.config task reply k) := by
  rw [Clock.answer]
  cases hs : settles x.config task.attempt reply with
  | true =>
    have hstate : (deliver x.config { k with active := k.active - 1 } task reply).state = _ :=
      h.state_deliver rfl rfl
    have hquiet : ¬ (deliver x.config { k with active := k.active - 1 } task
        reply).cancelling = true := by
      rw [deliver, apply]
      exact Bool.eq_false_iff.mp h.quiet
    rw [if_pos hs] at hstate
    rw [if_pos rfl, leave, if_neg hquiet]
    exact h.finish rfl hs hstate rfl rfl rfl
  | false =>
    simp only [Bool.false_eq_true, if_false]
    refine wait ?_ fun _ => again
    exact (h.pause hs).of_perm rfl rfl rfl (.refl _)

/-- No other task has the job of the one under way. -/
theorem job_ne (h : Faithful agent x [task] k) (ht : t ∈ k.tasks) :
    t.ticket.job ≠ task.ticket.job := by
  have hdistinct : (([task] ++ k.tasks).map fun t => t.ticket.position).Nodup := by
    have hnodup := h.invariant.distinct
    rw [State.pending, List.map_append, List.map_map] at hnodup
    have hflights := (h.flights.map fun f => f.ticket.position).nodup_iff.mpr
      (List.nodup_append.mp hnodup).2.1
    simpa only [List.map_map, Function.comp_def, Task.flight] using hflights
  rw [List.singleton_append, List.map_cons, List.nodup_cons] at hdistinct
  have hticket {u : Task} (hu : u ∈ [task] ++ k.tasks) : u.ticket ∈ x.tickets := by
    refine h.invariant.pending_subset _ (List.mem_append_right _ ?_)
    exact List.mem_map.mpr ⟨u.flight, h.flight_mem hu, rfl⟩
  intro hjob
  have hsame := Scenario.eq_of_job_eq (hticket (List.mem_cons_of_mem _ ht))
    (hticket List.mem_cons_self) hjob
  exact hdistinct.1 (List.mem_map.mpr ⟨t, ht, congrArg Ticket.position hsame⟩)

end Faithful

theorem Called.learn {calls : Array Job} {job j : Job} {n m : ℕ} {r : Reply}
    (h : Called agent x calls j m) (hne : ¬ (j = job ∧ m = n)) (called : Job) :
    Called agent (x.learn job n r) (calls.push called) j m := by
  obtain ⟨i, hi, hagent⟩ := h
  refine ⟨i, ?_, by rw [Scenario.agent_learn_of_ne hne]; exact hagent⟩
  rw [Array.getElem?_push, if_neg ?_]
  · exact hi
  · have := (Array.getElem?_eq_some_iff.mp hi).1
    omega

/-- The reply of a call becomes known when the agent is called. -/
theorem Faithful.called (h : Faithful agent x [task] k) (hstage : task.stage = .begin)
    {b : Behaviour} (hb : b = agent (k.calls.size + 1) task.ticket.job task.attempt)
    {k' : Clock} (endsAt : ℕ) (hstate : k'.state = k.state)
    (hcancelling : k'.cancelling = k.cancelling) (hcalls : k'.calls = k.calls.push task.ticket.job)
    (htasks : k'.tasks = k.tasks) :
    Faithful agent (x.learn task.ticket.job task.attempt (bounded x.config b).2)
      [{ task with stage := .calling endsAt (bounded x.config b).2 }] k' := by
  obtain ⟨ticket, attempt, stage⟩ := task
  obtain rfl : stage = .begin := hstage
  have hf := h.flight_mem List.mem_cons_self
  simp only [Task.flight] at hf
  have hnow : Called agent (x.learn ticket.job attempt (bounded x.config b).2)
      (k.calls.push ticket.job) ticket.job attempt := by
    refine ⟨k.calls.size, Array.getElem?_push_size, ?_⟩
    simp [Scenario.learn, hb]
  refine ⟨hstate ▸ h.opened, hcancelling ▸ h.quiet, h.counts, hstate ▸ h.invariant.learn hf _, ?_,
    ?_, ?_, ?_, ?_⟩
  · rw [hstate, htasks]
    exact h.flights
  · intro t ht reply' hreply
    rw [hcalls]
    rcases List.mem_cons.mp ht with rfl | ht
    · obtain rfl := Option.some.inj hreply
      exact ⟨hnow, if_pos ⟨rfl, rfl⟩⟩
    · replace ht : t ∈ k.tasks := htasks ▸ ht
      have hne := h.job_ne ht
      obtain ⟨hcalled, hagent⟩ := h.answering t (List.mem_cons_of_mem _ ht) reply' hreply
      refine ⟨hcalled.learn (fun hsame => hne hsame.1) _, ?_⟩
      rw [Scenario.agent_learn_of_ne fun hsame => hne hsame.1]
      exact hagent
  · intro t ht endsAt' reply' hstage
    rcases List.mem_cons.mp ht with rfl | ht
    · cases hstage
    · exact h.pausing t (List.mem_cons_of_mem _ (htasks ▸ ht)) endsAt' reply' hstage
  · intro g hg n hn hlt
    rw [hstate] at hg
    rw [hcalls]
    refine (h.failed g hg n hn hlt).learn (fun hsame => ?_) _
    -- Only the task under way has this job, and its attempt has not failed yet.
    rcases List.mem_cons.mp (h.flights.mem_iff.mpr hg) with rfl | hg
    · exact Nat.ne_of_lt hlt hsame.2
    · obtain ⟨t, ht, rfl⟩ := List.mem_map.mp hg
      exact h.job_ne ht hsame.1
  · intro t ht hdone n hn hle
    rw [hstate] at hdone
    rw [hcalls]
    have hne : t.job ≠ ticket.job := fun hjob => hdone <| by
      have hpending := List.mem_append_right k.state.queued
        (List.mem_map_of_mem (f := (·.ticket)) hf)
      rwa [Scenario.eq_of_job_eq ht (h.invariant.pending_subset _ hpending) hjob]
    rw [Scenario.tries_learn hne] at hle
    exact (h.settled t ht hdone n hn hle).learn (fun hsame => hne hsame.1) _

/-- An agent that never cancels the run. -/
def Quiet (agent : Agent) : Prop := ∀ call job attempt, (agent call job attempt).cancels = false

/-- Nothing but what the agent says differs. -/
structure SameRun (x y : Scenario) : Prop where
  config : y.config = x.config
  domain : y.domain = x.domain
  topology : y.topology = x.topology
  probe : y.probe = x.probe

theorem SameRun.refl (x : Scenario) : SameRun x x := ⟨rfl, rfl, rfl, rfl⟩

theorem SameRun.trans {y z : Scenario} (h : SameRun x y) (h' : SameRun y z) : SameRun x z :=
  ⟨h'.config.trans h.config, h'.domain.trans h.domain, h'.topology.trans h.topology,
    h'.probe.trans h.probe⟩

theorem bounded_of_immediate {c : LiveConfig} {b : Behaviour} (h : b.delay = some 0) :
    (bounded c b).2 = b.reply := by
  simp [bounded, h, Span.ofMillis, Span.sleepMillis, Span.ceilMillis, Span.perMilli]

/-- The clock when the agent was called for a task. -/
def calledFor (k : Clock) (task : Task) (b : Behaviour) : Clock :=
  { k with
    calls := k.calls.push task.ticket.job
    cancelling := k.cancelling || b.cancels
    active := k.active + 1
    peak := max k.peak (k.active + 1) }

theorem Faithful.call (h : Faithful agent x [task] k) (hquiet : Quiet agent)
    (hstage : task.stage = .begin) :
    ∃ y, SameRun x y ∧ Faithful agent y [] (call x.config agent k task) := by
  generalize hb : agent (k.calls.size + 1) task.ticket.job task.attempt = b
  have hcancels : (k.cancelling || b.cancels) = k.cancelling := by
    rw [← hb, hquiet, Bool.or_false]
  have hcalled (endsAt : ℕ) :
      Faithful agent (x.learn task.ticket.job task.attempt (bounded x.config b).2)
        [{ task with stage := .calling endsAt (bounded x.config b).2 }] (k.calledFor task b) :=
    h.called hstage hb.symm endsAt rfl hcancels rfl rfl
  refine ⟨x.learn task.ticket.job task.attempt (bounded x.config b).2, ⟨rfl, rfl, rfl, rfl⟩, ?_⟩
  rw [Clock.call, hb]
  split
  · next hdelay =>
    have hnow := hcalled 0
    rw [bounded_of_immediate hdelay] at hnow ⊢
    exact hnow.answer
  · exact (hcalled _).wait fun _ => answer

theorem Faithful.poll (h : Faithful agent x [task] k) (hquiet : Quiet agent) :
    ∃ y, SameRun x y ∧ Faithful agent y [] (poll x.config agent k task) := by
  rw [Clock.poll]
  split
  · next hstage => exact h.call hquiet hstage
  · next endsAt reply hstage =>
    have hself : [task] = [{ task with stage := .calling endsAt reply }] := by rw [← hstage]
    exact ⟨x, .refl x, h.wait fun k hk => answer (hself ▸ hk)⟩
  · next endsAt reply hstage =>
    have hself : [task] = [{ task with stage := .pausing endsAt reply }] := by rw [← hstage]
    exact ⟨x, .refl x, h.wait fun k hk => again (hself ▸ hk)⟩

/-! ### Ticks -/

/-- The clock at the time of the tasks that wait until then. -/
def moveTo (k : Clock) (time : ℕ) : Clock :=
  { k with
    now := time
    credit := turnCredit
    ready := (k.waiting.filter (·.1 == time)).map (·.2)
    waiting := k.waiting.filter (·.1 != time) }

/-- The clock after a job was dispatched. -/
def dispatched (k : Clock) (t : Ticket) (rest : List Ticket) : Clock :=
  { k with
    state := { k.state with queued := rest, inFlight := k.state.inFlight ++ [⟨t, 1⟩] }
    ready := k.ready ++ [⟨t, 1, .begin⟩] }

variable {c : LiveConfig}

theorem endTurn_none (hquiet : k.cancelling = false) :
    endTurn c none k =
      if k.ended || !k.putOff.isEmpty then some k.nextTurn
      else (earliest k.waiting).map k.moveTo := by
  rw [endTurn, hquiet]
  rfl

/-- All that a tick can do as long as nobody cancels the run. -/
theorem tick_cases (hopened : k.state.stopped = false) (hquiet : k.cancelling = false)
    (htick : tick c agent none k = some k') :
    (∃ t rest, k.state.queued = t :: rest ∧
        next c k.state .dispatch = some (k.dispatched t rest).state ∧ k' = k.dispatched t rest) ∨
      (∃ task rest, k.ready = task :: rest ∧ k' = poll c agent { k with ready := rest } task) ∨
      (k.ended = true ∨ k.putOff ≠ []) ∧ k' = k.nextTurn ∨
      (k.ended = false ∧ k.putOff = [] ∧ k.ready = []) ∧
        ∃ time, earliest k.waiting = some time ∧ k' = k.moveTo time := by
  rw [tick, hopened, if_neg Bool.false_ne_true] at htick
  split at htick
  · next hended =>
    rw [endTurn_none hquiet, hended, Bool.true_or, if_pos rfl] at htick
    exact .inr (.inr (.inl ⟨.inl hended, (Option.some.inj htick).symm⟩))
  · next hended =>
    split at htick
    · next t rest s hqueued hdispatch =>
      have hs : (k.dispatched t rest).state = s := by
        rw [next, if_neg (Bool.eq_false_iff.mp hopened)] at hdispatch
        simp only [hqueued] at hdispatch
        split at hdispatch
        · exact Option.some.inj hdispatch
        · cases hdispatch
      subst hs
      exact .inl ⟨t, rest, hqueued, hdispatch, (Option.some.inj htick).symm⟩
    · split at htick
      · next task rest hready =>
        exact .inr (.inl ⟨task, rest, hready, (Option.some.inj htick).symm⟩)
      · next hready =>
        rw [endTurn_none hquiet, Bool.eq_false_iff.mpr hended, Bool.false_or] at htick
        split at htick
        · next hputOff =>
          have hne : k.putOff ≠ [] := by simpa using hputOff
          exact .inr (.inr (.inl ⟨.inr hne, (Option.some.inj htick).symm⟩))
        · next hputOff =>
          have hnil : k.putOff = [] := by simpa using hputOff
          obtain ⟨time, htime, rfl⟩ := Option.map_eq_some_iff.mp htick
          exact .inr (.inr (.inr
            ⟨⟨Bool.eq_false_iff.mpr hended, hnil, hready⟩, time, htime, rfl⟩))

theorem Faithful.dispatched (h : Faithful agent x [] k) {t : Ticket} {rest : List Ticket}
    (hqueued : k.state.queued = t :: rest)
    (hnext : next x.config k.state .dispatch = some (k.dispatched t rest).state) :
    Faithful agent x [] (k.dispatched t rest) := by
  have hstep : x.Step k.state .dispatch (k.dispatched t rest).state := ⟨trivial, hnext⟩
  have hinvariant := Scenario.step_preserves_invariant h.invariant hstep
  have hpending := Scenario.pending_dispatch hqueued
  have htasks : ([] ++ (k.dispatched t rest).tasks).Perm
      ([] ++ k.tasks ++ [(⟨t, 1, .begin⟩ : Task)]) := by
    simp only [tasks, Clock.dispatched, List.nil_append, List.append_assoc]
    refine List.Perm.append_left k.ready ?_
    rw [← List.append_assoc k.putOff]
    exact List.perm_append_comm
  refine ⟨h.opened, h.quiet, h.counts, hinvariant, ?_, ?_, ?_, ?_, ?_⟩
  · refine (htasks.map Task.flight).trans ?_
    rw [List.map_append]
    exact h.flights.append_right _
  · intro u hu reply hreply
    rcases List.mem_append.mp (htasks.mem_iff.mp hu) with hu | hu
    · exact h.answering u hu reply hreply
    · obtain rfl := List.mem_singleton.mp hu
      cases hreply
  · intro u hu endsAt reply hstage
    rcases List.mem_append.mp (htasks.mem_iff.mp hu) with hu | hu
    · exact h.pausing u hu endsAt reply hstage
    · obtain rfl := List.mem_singleton.mp hu
      cases hstage
  · intro g hg n hn hlt
    rcases List.mem_append.mp hg with hg | hg
    · exact h.failed g hg n hn hlt
    · obtain rfl := List.mem_singleton.mp hg
      exact absurd hlt (Nat.not_lt.mpr hn)
  · intro u hu hdone
    exact h.settled u hu fun hmem => hdone (hpending.mem_iff.mpr hmem)

theorem Faithful.nextTurn (h : Faithful agent x [] k) : Faithful agent x [] k.nextTurn := by
  refine h.of_perm rfl rfl rfl ?_
  simp [tasks, Clock.nextTurn]

theorem Faithful.moveTo (h : Faithful agent x [] k) (hready : k.ready = [])
    (time : ℕ) : Faithful agent x [] (k.moveTo time) := by
  refine h.of_perm rfl rfl rfl ?_
  have hsplit := (List.filter_append_perm (·.1 == time) k.waiting).map (·.2)
  rw [List.map_append] at hsplit
  simp only [tasks, Clock.moveTo, hready, List.nil_append]
  refine (List.perm_append_comm.append_right _).trans ?_
  rw [List.append_assoc]
  exact hsplit.append_left k.putOff

theorem Faithful.tick (h : Faithful agent x [] k) (hquiet : Quiet agent)
    (htick : tick x.config agent none k = some k') :
    ∃ y, SameRun x y ∧ Faithful agent y [] k' := by
  rcases tick_cases h.opened h.quiet htick with ⟨t, rest, hqueued, hnext, rfl⟩ |
    ⟨task, rest, hready, rfl⟩ | ⟨_, rfl⟩ | ⟨⟨_, _, hready⟩, time, _, rfl⟩
  · exact ⟨x, .refl x, h.dispatched hqueued hnext⟩
  · refine poll (h.of_perm rfl rfl rfl ?_) hquiet
    simp [tasks, hready]
  · exact ⟨x, .refl x, h.nextTurn⟩
  · exact ⟨x, .refl x, h.moveTo hready time⟩

/-! ### Beginning and end -/

theorem start_faithful (hcounts : x.attempts < UInt32.size) :
    Faithful agent x [] (start x.initial) := by
  refine ⟨rfl, rfl, hcounts, Scenario.initial_invariant, .refl _, nofun, nofun, nofun, ?_⟩
  intro t ht hdone
  rw [start, Scenario.initial_pending] at hdone
  exact absurd ht hdone

theorem waiting_eq_nil (h : earliest k.waiting = none) : k.waiting = [] := by
  rw [earliest, List.min?_eq_none_iff] at h
  exact List.map_eq_nil_iff.mp h

/-- A clock that stands still has nothing left to do. -/
theorem Faithful.complete (h : Faithful agent x [] k)
    (htick : Clock.tick x.config agent none k = none) : k.state.Complete := by
  rw [Clock.tick, h.opened, if_neg Bool.false_ne_true] at htick
  split at htick
  · next hended =>
    rw [endTurn_none h.quiet, hended, Bool.true_or, if_pos rfl] at htick
    cases htick
  · split at htick
    · cases htick
    · next hnone =>
      split at htick
      · cases htick
      · next hready =>
        rw [endTurn_none h.quiet] at htick
        split at htick
        · cases htick
        · next hturn =>
          have hgoes := Bool.or_eq_false_iff.mp (Bool.eq_false_iff.mpr hturn)
          have hputOff : k.putOff = [] := by simpa using hgoes.2
          have hwaiting := waiting_eq_nil (Option.map_eq_none_iff.mp htick)
          have hflights := h.flights
          simp only [tasks, hready, hputOff, hwaiting, List.map_nil, List.append_nil] at hflights
          have hinFlight : k.state.inFlight = [] := hflights.nil_eq.symm
          refine ⟨?_, hinFlight⟩
          cases hqueued : k.state.queued with
          | nil => rfl
          | cons t rest =>
            have hroom : 0 < room x.config := by rw [room]; omega
            refine absurd ?_ (hnone t rest (k.dispatched t rest).state hqueued)
            simp [next, h.opened, hqueued, hinFlight, hroom, Clock.dispatched]

end Clock

end PolicyReach.Live
