import PolicyReach.Proofs.ClockRuns

/-!
# How many ticks a run takes

Each wait that ends pays for the tasks that are put off afterwards in the same turn. So the work of
all tasks together goes down with each tick, and the ticks that a run is given are enough.
-/
namespace PolicyReach.Live.Clock

variable {x : Scenario} {agent : Agent} {k k' : Clock} {task t : Task} {reply : Reply}
  {c : LiveConfig} {endsAt : ℕ} {goOn : Clock → Clock}

/-! ### Turns -/

/-- Tasks are put off, and a turn has ended, only when there is no credit left. -/
structure Turning (k : Clock) : Prop where
  credit : k.putOff ≠ [] ∨ k.ended = true → k.credit = 0
  waits : ∀ w ∈ k.waiting, w.2.stage.endsAt? = some w.1

namespace Turning

theorem wait (h : Turning k) (hstage : task.stage.endsAt? = some endsAt)
    (hgoOn : ∀ k, Turning k → Turning (goOn k)) : Turning (k.wait task endsAt goOn) := by
  refine wait_cases (fun hcredit => ?_) (fun credit hcredit _ => hgoOn _ ?_) (fun _ _ => ?_)
  · exact ⟨fun _ => hcredit, h.waits⟩
  · refine ⟨fun hspent => ?_, h.waits⟩
    have := h.credit hspent
    omega
  · refine ⟨h.credit, fun w hw => ?_⟩
    rcases List.mem_append.mp hw with hw | hw
    · exact h.waits w hw
    · obtain rfl := List.mem_singleton.mp hw
      exact hstage

theorem again (task : Task) (reply : Reply) (h : Turning k) : Turning (again c task reply k) :=
  ⟨h.credit, h.waits⟩

theorem leave (h : Turning k) : Turning (leave c k) := by
  rw [Clock.leave]
  split
  · exact ⟨h.credit, h.waits⟩
  · refine ⟨fun hspent => ?_, h.waits⟩
    rcases hspent with hputOff | hended
    · exact h.credit (.inl hputOff)
    · exact eq_of_beq hended

theorem answer (task : Task) (reply : Reply) (h : Turning k) :
    Turning (answer c task reply k) := by
  rw [Clock.answer]
  split
  · refine leave ?_
    exact ⟨h.credit, h.waits⟩
  · refine wait ?_ rfl fun _ => again task reply
    exact ⟨h.credit, h.waits⟩

theorem poll (h : Turning k) : Turning (poll c agent k task) := by
  rw [Clock.poll]
  split
  · rw [call]
    have hcalled : Turning (k.calledFor task
        (agent (k.calls.size + 1) task.ticket.job task.attempt)) := ⟨h.credit, h.waits⟩
    split
    · exact hcalled.answer task _
    · exact hcalled.wait rfl fun _ => answer task _
  · next hstage => exact h.wait (by rw [hstage]; rfl) fun _ => answer task _
  · next hstage => exact h.wait (by rw [hstage]; rfl) fun _ => again task _

theorem tick (h : Turning k) (hopened : k.state.stopped = false) (hquiet : k.cancelling = false)
    (htick : tick c agent none k = some k') : Turning k' := by
  rcases tick_cases hopened hquiet htick with ⟨t, rest, _, _, rfl⟩ | ⟨task, rest, _, rfl⟩ |
    ⟨_, rfl⟩ | ⟨⟨hended, hputOff, _⟩, time, _, rfl⟩
  · exact ⟨h.credit, h.waits⟩
  · refine poll ?_
    exact ⟨h.credit, h.waits⟩
  · refine ⟨fun hspent => ?_, h.waits⟩
    rcases hspent with hputOff | hended
    · exact absurd rfl hputOff
    · cases hended
  · refine ⟨fun hspent => ?_, fun w hw => h.waits w (List.mem_of_mem_filter hw)⟩
    rcases hspent with hspent | hspent
    · exact absurd hputOff hspent
    · exact absurd (hended.symm.trans hspent) Bool.false_ne_true

theorem start (s : State) : Turning (start s) :=
  ⟨fun hspent => hspent.elim (absurd rfl) nofun, nofun⟩

end Turning

/-! ### Work -/

/-- What a wait pays for when it ends, in a run with so many jobs. -/
def waitWork (jobs : ℕ) : ℕ := 3 * jobs + 4

/-- What an attempt pays for: its two waits and its beginning. -/
def attemptWork (jobs : ℕ) : ℕ := 2 * waitWork jobs + 2

/-- What is left to do of a task that may be tried so often. -/
def taskWork (jobs attempts : ℕ) (t : Task) : ℕ :=
  match t.stage with
  | .begin => attemptWork jobs * (attempts + 1 - t.attempt)
  | .calling _ _ => attemptWork jobs * (attempts - t.attempt) + 2 * waitWork jobs
  | .pausing _ _ => attemptWork jobs * (attempts - t.attempt) + waitWork jobs

/-- A ready task either goes on or is found to wait. -/
def readyWork (jobs attempts now : ℕ) (t : Task) : ℕ :=
  taskWork jobs attempts t + if t.stage.endsAt?.all (· ≤ now) then 1 else 3

/-- What the tasks may cost that are put off when no credit is left. -/
def debt (jobs credit : ℕ) : ℕ := if credit = 0 then 3 * jobs + 1 else 0

def work (jobs attempts : ℕ) (k : Clock) : ℕ :=
  k.state.queued.length * (attemptWork jobs * attempts + 2) +
    (k.ready.map (readyWork jobs attempts k.now)).sum +
    (k.putOff.map (taskWork jobs attempts)).sum +
    (k.waiting.map fun w => taskWork jobs attempts w.2 + 2).sum + debt jobs k.credit

variable {jobs attempts : ℕ}

theorem work_putOff (k : Clock) (task : Task) :
    work jobs attempts { k with putOff := task :: k.putOff } =
      work jobs attempts k + taskWork jobs attempts task := by
  simp only [work, List.map_cons, List.sum_cons]
  omega

theorem work_waiting (k : Clock) (task : Task) (endsAt : ℕ) :
    work jobs attempts { k with waiting := k.waiting ++ [(endsAt, task)] } =
      work jobs attempts k + taskWork jobs attempts task + 2 := by
  simp only [work, List.map_append, List.map_cons, List.map_nil, List.sum_append, List.sum_cons,
    List.sum_nil]
  omega

theorem work_credit_le (k : Clock) (credit : ℕ) :
    work jobs attempts { k with credit } ≤ work jobs attempts k + (3 * jobs + 1) := by
  have hdebt : debt jobs credit ≤ 3 * jobs + 1 := by
    rw [debt]
    split <;> omega
  simp only [work]
  omega

/-- Waiting costs as much as the task that waits, or what it does after the wait. -/
theorem work_wait_le {goes most : ℕ}
    (hgoOn : ∀ k, work jobs attempts (goOn k) ≤ work jobs attempts k + goes)
    (hgoes : goes + (3 * jobs + 1) ≤ most) (htask : taskWork jobs attempts task + 2 ≤ most) :
    work jobs attempts (k.wait task endsAt goOn) ≤ work jobs attempts k + most := by
  refine wait_cases (Q := fun k' => work jobs attempts k' ≤ work jobs attempts k + most)
    (fun _ => ?_) (fun credit hcredit _ => ?_) (fun _ _ => ?_)
  · rw [work_putOff]
    omega
  · have hspent : work jobs attempts { k with credit } ≤ work jobs attempts k + (3 * jobs + 1) :=
      work_credit_le k credit
    have := hgoOn { k with credit }
    omega
  · rw [work_waiting]
    omega

theorem work_ready (k : Clock) (task : Task) :
    work jobs attempts { k with ready := task :: k.ready } =
      work jobs attempts k + readyWork jobs attempts k.now task := by
  simp only [work, List.map_cons, List.sum_cons]
  omega

theorem readyWork_begin (t : Ticket) (attempt now : ℕ) :
    readyWork jobs attempts now ⟨t, attempt + 1, .begin⟩ =
      attemptWork jobs * (attempts - attempt) + 1 := by
  simp [readyWork, taskWork, Stage.endsAt?]

theorem queued_apply {e : Event} (he : e ≠ .dispatch) (k : Clock) :
    (k.apply c e).state.queued = k.state.queued := by
  rw [apply]
  cases hnext : next c k.state e with
  | none => rfl
  | some u =>
    unfold next at hnext
    split at hnext
    · cases hnext
    · cases e with
      | dispatch => exact absurd rfl he
      | answer row col reply =>
        obtain ⟨f, _, rfl⟩ := Option.map_eq_some_iff.mp hnext
        rw [Option.getD_some]
        split
        · rfl
        · exact queued_retry k.state f
      | cancel =>
        obtain rfl := Option.some.inj hnext
        rfl

theorem work_congr (hqueued : k'.state.queued = k.state.queued) (hnow : k'.now = k.now)
    (hready : k'.ready = k.ready) (hputOff : k'.putOff = k.putOff)
    (hwaiting : k'.waiting = k.waiting) (hcredit : k'.credit = k.credit) :
    work jobs attempts k' = work jobs attempts k := by
  rw [work, work, hqueued, hnow, hready, hputOff, hwaiting, hcredit]

theorem work_apply {e : Event} (he : e ≠ .dispatch) (k : Clock) :
    work jobs attempts (k.apply c e) = work jobs attempts k :=
  work_congr (queued_apply he k) rfl rfl rfl rfl rfl

theorem work_deliver (k : Clock) (task : Task) (reply : Reply) :
    work jobs attempts (deliver c k task reply) = work jobs attempts k :=
  work_apply (by simp) _

theorem work_leave (k : Clock) : work jobs attempts (leave c k) = work jobs attempts k := by
  rw [leave]
  split
  · exact work_apply (by simp) _
  · exact work_congr rfl rfl rfl rfl rfl rfl

theorem work_again (k : Clock) (task : Task) (reply : Reply) :
    work jobs attempts (again c task reply k) =
      work jobs attempts k + (attemptWork jobs * (attempts - task.attempt) + 1) := by
  rw [again, work_ready, readyWork_begin, work_deliver]

theorem work_answer_le (k : Clock) (task : Task) (reply : Reply) :
    work jobs attempts (answer c task reply k) ≤
      work jobs attempts k +
        (attemptWork jobs * (attempts - task.attempt) + waitWork jobs + 2) := by
  rw [answer]
  have hsame : work jobs attempts { k with active := k.active - 1 } = work jobs attempts k :=
    work_congr rfl rfl rfl rfl rfl rfl
  rw [← hsame]
  split
  · rw [work_leave, work_deliver]
    exact Nat.le_add_right _ _
  · refine work_wait_le (fun k => (work_again k task reply).le) ?_ ?_
    · rw [waitWork]
      omega
    · simp only [taskWork]
      omega

theorem work_call_le (k : Clock) (task : Task) :
    work jobs attempts (call c agent k task) ≤ work jobs attempts k +
      (attemptWork jobs * (attempts - task.attempt) + 2 * waitWork jobs + 2) := by
  have hcalled (b : Behaviour) :
      work jobs attempts (k.calledFor task b) = work jobs attempts k :=
    work_congr rfl rfl rfl rfl rfl rfl
  rw [call, ← hcalled (agent (k.calls.size + 1) task.ticket.job task.attempt)]
  split
  · refine Nat.le_trans (work_answer_le _ task _) (Nat.add_le_add_left ?_ _)
    omega
  · refine work_wait_le (fun k => work_answer_le k task _) ?_ ?_
    · simp only [waitWork]
      omega
    · simp only [taskWork]
      omega

/-- Either the task waits, or the wait that ends has paid for what it does then. -/
theorem work_wait_lt {goes : ℕ} (hstage : task.stage.endsAt? = some endsAt)
    (hgoOn : ∀ k, work jobs attempts (goOn k) ≤ work jobs attempts k + goes)
    (hgoes : goes + (3 * jobs + 1) ≤ taskWork jobs attempts task) :
    work jobs attempts (k.wait task endsAt goOn) <
      work jobs attempts k + readyWork jobs attempts k.now task := by
  refine wait_cases (Q := fun k' => work jobs attempts k' < _)
    (fun _ => ?_) (fun credit hcredit _ => ?_) (fun _ hnow => ?_)
  · rw [work_putOff, readyWork]
    split <;> omega
  · have hspent : work jobs attempts { k with credit } ≤ work jobs attempts k + (3 * jobs + 1) :=
      work_credit_le k credit
    have := hgoOn { k with credit }
    rw [readyWork]
    split <;> omega
  · have hlate : ¬ task.stage.endsAt?.all (· ≤ k.now) = true := by simp [hstage, hnow]
    rw [work_waiting, readyWork, if_neg hlate]
    omega

/-- There is less to do when a task went on. -/
theorem work_poll_lt (k : Clock) (h : task.attempt ≤ attempts) :
    work jobs attempts (poll c agent k task) <
      work jobs attempts k + readyWork jobs attempts k.now task := by
  rw [poll]
  split
  · next hstage =>
    have hwork : readyWork jobs attempts k.now task =
        attemptWork jobs * (attempts - task.attempt) + attemptWork jobs + 1 := by
      rw [readyWork, taskWork, hstage, ← Nat.mul_succ, ← Nat.succ_sub h]
      rfl
    refine Nat.lt_of_le_of_lt (work_call_le k task) ?_
    rw [hwork]
    simp only [attemptWork]
    omega
  · next hstage =>
    refine work_wait_lt (by rw [hstage]; rfl) (fun k => work_answer_le k task _) ?_
    simp only [taskWork, hstage, waitWork]
    omega
  · next hstage =>
    refine work_wait_lt (by rw [hstage]; rfl) (fun k => (work_again k task _).le) ?_
    simp only [taskWork, hstage, waitWork]
    omega

/-! ### Ticks -/

theorem work_dispatched_lt {t : Ticket} {rest : List Ticket} (h : k.state.queued = t :: rest) :
    work jobs attempts (k.dispatched t rest) < work jobs attempts k := by
  have hbegin : readyWork jobs attempts k.now ⟨t, 1, .begin⟩ = attemptWork jobs * attempts + 1 :=
    readyWork_begin t 0 k.now
  simp only [work, dispatched, h, List.length_cons, Nat.add_one_mul, List.map_append,
    List.map_cons, List.map_nil, List.sum_append, List.sum_cons, List.sum_nil]
  omega

theorem sum_readyWork_le (now : ℕ) (ts : List Task) :
    (ts.map (readyWork jobs attempts now)).sum ≤
      (ts.map (taskWork jobs attempts)).sum + 3 * ts.length := by
  induction ts with
  | nil => simp
  | cons t rest ih =>
    have ht : readyWork jobs attempts now t ≤ taskWork jobs attempts t + 3 := by
      rw [readyWork]
      split <;> omega
    simp only [List.map_cons, List.sum_cons, List.length_cons]
    omega

/-- The tasks put off are paid for by the wait that took the last credit. -/
theorem work_nextTurn_lt (hcredit : k.credit = 0) (hjobs : k.putOff.length ≤ jobs) :
    work jobs attempts k.nextTurn < work jobs attempts k := by
  have hsum : (k.putOff.map (readyWork jobs attempts k.now)).sum ≤
      (k.putOff.map (taskWork jobs attempts)).sum + 3 * k.putOff.length :=
    sum_readyWork_le k.now k.putOff
  have hbefore : debt jobs k.credit = 3 * jobs + 1 := if_pos hcredit
  have hafter : debt jobs turnCredit = 0 := rfl
  simp only [work, nextTurn, hbefore, hafter, List.map_append, List.sum_append, List.map_nil,
    List.sum_nil]
  omega

theorem sum_readyWork_lt {time : ℕ} {ws : List (ℕ × Task)} (hne : ws ≠ [])
    (hdue : ∀ w ∈ ws, w.2.stage.endsAt? = some time) :
    (ws.map fun w => readyWork jobs attempts time w.2).sum <
      (ws.map fun w => taskWork jobs attempts w.2 + 2).sum := by
  have hone : ∀ w ∈ ws, readyWork jobs attempts time w.2 < taskWork jobs attempts w.2 + 2 := by
    intro w hw
    rw [readyWork, hdue w hw, if_pos (by simp)]
    omega
  obtain ⟨w, hw⟩ := List.exists_mem_of_ne_nil ws hne
  exact List.sum_lt_sum _ _ (fun w hw => (hone w hw).le) ⟨w, hw, hone w hw⟩

/-- Tasks that have waited are a step nearer to their end. -/
theorem work_moveTo_lt (hturn : Turning k) (hready : k.ready = []) {time : ℕ}
    (htime : earliest k.waiting = some time) :
    work jobs attempts (k.moveTo time) < work jobs attempts k := by
  have hsplit : ((k.waiting.filter (·.1 == time) ++ k.waiting.filter (·.1 != time)).map
      fun w => taskWork jobs attempts w.2 + 2).sum =
        (k.waiting.map fun w => taskWork jobs attempts w.2 + 2).sum :=
    ((List.filter_append_perm (·.1 == time) k.waiting).map _).sum_nat
  rw [List.map_append, List.sum_append] at hsplit
  have hdue : ((k.waiting.filter (·.1 == time)).map
        fun w => readyWork jobs attempts time w.2).sum <
      ((k.waiting.filter (·.1 == time)).map fun w => taskWork jobs attempts w.2 + 2).sum := by
    refine sum_readyWork_lt ?_ fun w hw => ?_
    · obtain ⟨w, hw, hfirst⟩ := List.mem_map.mp (List.min?_mem htime)
      exact List.ne_nil_of_mem (List.mem_filter.mpr ⟨hw, beq_iff_eq.mpr hfirst⟩)
    · obtain ⟨hw, htime⟩ := List.mem_filter.mp hw
      rw [hturn.waits w hw, eq_of_beq htime]
  have hafter : debt jobs turnCredit = 0 := rfl
  simp only [work, moveTo, hready, hafter, List.map_nil, List.sum_nil, List.map_map,
    Function.comp_def]
  omega

/-- No more tasks are under way than there are jobs. -/
theorem Faithful.length_tasks_le (h : Faithful agent x [] k) :
    k.tasks.length ≤ x.tickets.length := by
  have hflights := h.flights.length_eq
  rw [List.nil_append, List.length_map] at hflights
  have hpending : k.state.pending.length ≤ x.tickets.length :=
    ((List.Nodup.of_map _ h.invariant.distinct).subperm h.invariant.pending_subset).length_le
  rw [State.pending, List.length_append, List.length_map] at hpending
  omega

theorem work_tick_lt (h : Faithful agent x [] k) (hturn : Turning k)
    (htick : tick x.config agent none k = some k') :
    work x.tickets.length x.attempts k' < work x.tickets.length x.attempts k := by
  rcases tick_cases h.opened h.quiet htick with ⟨t, rest, hqueued, _, rfl⟩ |
    ⟨task, rest, hready, rfl⟩ | ⟨hspent, rfl⟩ | ⟨⟨_, _, hready⟩, time, htime, rfl⟩
  · exact work_dispatched_lt hqueued
  · have htask : task ∈ [] ++ k.tasks := by simp [tasks, hready]
    have htried := (h.invariant.tried _ (h.flight_mem htask)).2.1
    have hbefore : work x.tickets.length x.attempts k =
        work x.tickets.length x.attempts { k with ready := rest } +
          readyWork x.tickets.length x.attempts k.now task := by
      rw [← work_ready, ← hready]
    rw [hbefore]
    exact work_poll_lt _ htried
  · refine work_nextTurn_lt (hturn.credit hspent.symm) ?_
    have htasks := h.length_tasks_le
    simp only [tasks, List.length_append] at htasks
    omega
  · exact work_moveTo_lt hturn hready htime

/-! ### Whole runs -/

theorem work_start_le : work x.tickets.length x.attempts (start x.initial) ≤
    tickBound x.config x.tickets.length := by
  have hwork : work x.tickets.length x.attempts (start x.initial) =
      x.tickets.length * (attemptWork x.tickets.length * x.attempts + 2) := rfl
  rw [hwork, tickBound, Scenario.attempts, attemptWork, waitWork]
  generalize x.tickets.length = jobs
  generalize x.config.backoff.maxRetries.toNat = retries
  calc jobs * ((2 * (3 * jobs + 4) + 2) * (retries + 1) + 2)
      = (6 * (jobs * jobs) + 10 * jobs) * (retries + 1) + 2 * jobs := by ring
    _ ≤ 8 * ((jobs + 1) * (jobs + 1)) * (retries + 1) + 8 * ((jobs + 1) * (jobs + 1)) := by
        gcongr
        · have : (jobs + 1) * (jobs + 1) = jobs * jobs + 2 * jobs + 1 := by ring
          omega
        · omega
        · exact Nat.le_trans (Nat.le_add_right jobs 1)
            (Nat.le_mul_of_pos_left _ (Nat.succ_pos jobs))
    _ = 8 * ((jobs + 1) * (jobs + 1)) * (retries + 2) := by ring

theorem SameRun.tickets_eq {y : Scenario} (h : SameRun x y) : y.tickets = x.tickets := by
  rw [Scenario.tickets, Scenario.tickets, h.config, h.domain, h.topology, h.probe]

theorem SameRun.initial_eq {y : Scenario} (h : SameRun x y) : y.initial = x.initial := by
  rw [Scenario.initial, Scenario.initial, h.config, h.domain, h.topology, h.probe]

theorem SameRun.attempts_eq {y : Scenario} (h : SameRun x y) : y.attempts = x.attempts := by
  rw [Scenario.attempts, Scenario.attempts, h.config]

/-- A clock stands still after as many ticks as there is work. -/
theorem ticks_complete (hquiet : Quiet agent) {n : ℕ} (h : Faithful agent x [] k)
    (hturn : Turning k) (hwork : work x.tickets.length x.attempts k ≤ n) :
    ∃ y, SameRun x y ∧ Faithful agent y [] (ticks x.config agent none n k) ∧
      (ticks x.config agent none n k).state.Complete := by
  induction n generalizing x k with
  | zero =>
    refine ⟨x, .refl x, h, h.complete ?_⟩
    cases htick : Clock.tick x.config agent none k with
    | none => rfl
    | some k' =>
      have := work_tick_lt h hturn htick
      omega
  | succ n ih =>
    rw [ticks]
    split
    · next htick => exact ⟨x, .refl x, h, h.complete htick⟩
    · next k' htick =>
      have hless := work_tick_lt h hturn htick
      obtain ⟨y, hsame, h'⟩ := h.tick hquiet htick
      have hwork' : work y.tickets.length y.attempts k' ≤ n := by
        rw [hsame.tickets_eq, hsame.attempts_eq]
        omega
      obtain ⟨z, hsame', hz⟩ := ih h' (hturn.tick h.opened h.quiet htick) hwork'
      rw [hsame.config] at hz
      exact ⟨z, hsame.trans hsame', hz⟩

/-- The run is over, has not stopped before, and has written down what the scenario says. The
scenario says of each attempt what the agent has said in a call of the run. -/
structure Settled (agent : Agent) (x : Scenario) (k : Clock) : Prop where
  opened : k.state.stopped = false
  quiet : k.cancelling = false
  complete : k.state.Complete
  table : k.state.table = x.settledTable
  told : ∀ t ∈ x.tickets, ∀ n, 1 ≤ n → n ≤ x.tries t.job → Called agent x k.calls t.job n

theorem run_settled (hquiet : Quiet agent) (x : Scenario) (hcounts : x.attempts < UInt32.size) :
    ∃ y, SameRun x y ∧ Settled agent y (run y.config agent none y.initial) := by
  obtain ⟨y, hsame, h, hdone⟩ :=
    ticks_complete hquiet (start_faithful hcounts) (Turning.start x.initial) work_start_le
  refine ⟨y, hsame, ?_⟩
  rw [hsame.config, hsame.initial_eq]
  refine ⟨h.opened, h.quiet, hdone, h.invariant.eq_settledTable hdone, ?_⟩
  intro t ht n
  refine h.settled t ht ?_ n
  rw [State.pending, hdone.1, hdone.2]
  exact List.not_mem_nil

end PolicyReach.Live.Clock
