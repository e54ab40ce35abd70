import PolicyReach.Proofs.Verification

/-!
# What all schedules have in common

The jobs of a live run may be dispatched and answered in any order. Whatever the order is, each job
is dispatched once, tried until an attempt is conclusive and not again, and only so many jobs are in
flight at once. A run that is not cancelled leaves the same table behind in the end.
-/
namespace PolicyReach

/-- The first attempts of a job. -/
def Ticket.firstAttempts (t : Ticket) (n : ℕ) : List Flight := (List.range' 1 n).map (Flight.mk t)

theorem Ticket.firstAttempts_succ (t : Ticket) (n : ℕ) :
    t.firstAttempts (n + 1) = t.firstAttempts n ++ [⟨t, n + 1⟩] := by
  rw [firstAttempts, List.range'_concat, List.map_append, firstAttempts, Nat.one_mul, Nat.add_comm]
  rfl

theorem Flight.fills_iff {f : Flight} {t : Ticket} :
    f.fills t.row t.col = true ↔ f.ticket.position = t.position := by
  simp [fills, Ticket.position]

namespace Live.Scenario

variable {x : Scenario} {s u v : State} {e : Event} {es : List Event} {log : List Flight}

/-! ### Calls of the agent -/

theorem calls_append (hrun : x.Execution s es u) (more : List Event) :
    calls x.config s (es ++ more) = calls x.config s es ++ calls x.config u more := by
  induction hrun generalizing more with
  | refl => rfl
  | tail _ hstep ih =>
    rw [List.append_assoc, ih, ih, List.append_assoc]
    simp [calls, hstep.2]

theorem calls_concat (hrun : x.Execution s es u) (hstep : x.Step u e v) :
    calls x.config s (es ++ [e]) = calls x.config s es ++ (begun? x.config u e).toList := by
  rw [calls_append hrun]
  simp [calls, hstep.2]

theorem filter_fills_concat_of_ne {f : Flight} {t : Ticket}
    (h : t.position ≠ f.ticket.position) :
    (log ++ [f]).filter (Flight.fills t.row t.col) = log.filter (Flight.fills t.row t.col) := by
  have hfills : f.fills t.row t.col = false :=
    Bool.eq_false_iff.mpr fun hf => h (Flight.fills_iff.mp hf).symm
  simp [List.filter_append, hfills]

theorem filter_fills_concat (f : Flight) :
    (log ++ [f]).filter (Flight.fills f.ticket.row f.ticket.col) =
      log.filter (Flight.fills f.ticket.row f.ticket.col) ++ [f] := by
  have hfills : f.fills f.ticket.row f.ticket.col = true := Flight.fills_iff.mpr rfl
  simp [List.filter_append, hfills]

/-- What the calls of a run so far tell of each job, according to where the job is. -/
structure Logged (x : Scenario) (s : State) (log : List Flight) : Prop where
  listed : ∀ f ∈ log, f.ticket ∈ x.tickets ∧ x.Tried f.ticket.job f.attempt
  dispatched : (log.filter (·.attempt = 1)).map (·.ticket) ++ s.queued = x.tickets
  waiting : ∀ t ∈ s.queued, log.filter (Flight.fills t.row t.col) = []
  flying : ∀ f ∈ s.inFlight,
    log.filter (Flight.fills f.ticket.row f.ticket.col) = f.ticket.firstAttempts f.attempt
  settled : ∀ t ∈ x.tickets, t ∉ s.pending →
    log.filter (Flight.fills t.row t.col) = t.firstAttempts (x.tries t.job)

theorem initial_logged : x.Logged x.initial [] := by
  refine ⟨nofun, ?_, ?_, nofun, ?_⟩
  · simp [initial, Live.initial, tickets]
  · intro t _
    rfl
  · intro t ht hpending
    rw [initial_pending] at hpending
    exact absurd ht hpending

/-- No other pending job fills the cell of a flight. -/
theorem Invariant.position_ne (h : x.Invariant s) {f : Flight} (hf : f ∈ s.inFlight) {t : Ticket}
    (ht : t ∈ s.queued ++ (s.inFlight.erase f).map (·.ticket)) :
    t.position ≠ f.ticket.position := by
  have hperm := (pending_finish hf (x.reply f.ticket.job f.attempt)).map Ticket.position
  have hnodup := hperm.nodup_iff.mp h.distinct
  rw [List.map_cons, List.nodup_cons] at hnodup
  intro heq
  exact hnodup.1 (heq ▸ List.mem_map_of_mem ht)

theorem Logged.dispatch (h : x.Logged s log) (hinv : x.Invariant s) {t : Ticket}
    {rest : List Ticket} (hq : s.queued = t :: rest) :
    x.Logged { s with queued := rest, inFlight := s.inFlight ++ [⟨t, 1⟩] } (log ++ [⟨t, 1⟩]) := by
  have hpending : s.pending = t :: (rest ++ s.inFlight.map (·.ticket)) := by
    rw [State.pending, hq, List.cons_append]
  have hnodup := hinv.distinct
  rw [hpending, List.map_cons, List.nodup_cons] at hnodup
  have hother {v : Ticket} (hv : v ∈ rest ++ s.inFlight.map (·.ticket)) :
      v.position ≠ t.position := fun heq => hnodup.1 (heq ▸ List.mem_map_of_mem hv)
  have htickets : t ∈ x.tickets :=
    hinv.pending_subset t (by rw [hpending]; exact List.mem_cons_self)
  have hmoved := pending_dispatch hq
  refine ⟨?_, ?_, ?_, ?_, ?_⟩
  · intro f hf
    rcases List.mem_append.mp hf with hf | hf
    · exact h.listed f hf
    · obtain rfl := List.mem_singleton.mp hf
      exact ⟨htickets, tried_one t.job⟩
  · rw [← h.dispatched, hq]
    simp
  -- No other job fills the same cell, so the new attempt shows only in the log of its own.
  · intro v hv
    rw [filter_fills_concat_of_ne (hother (List.mem_append_left _ hv))]
    exact h.waiting v (by rw [hq]; exact List.mem_cons_of_mem t hv)
  · intro g hg
    rcases List.mem_append.mp hg with hg | hg
    · rw [filter_fills_concat_of_ne (hother (List.mem_append_right _ (List.mem_map_of_mem hg)))]
      exact h.flying g hg
    · obtain rfl := List.mem_singleton.mp hg
      rw [filter_fills_concat ⟨t, 1⟩, h.waiting t (by rw [hq]; exact List.mem_cons_self)]
      rfl
  · intro v hv hdone
    have hdone : v ∉ s.pending := fun hmem => hdone (hmoved.mem_iff.mpr hmem)
    rw [filter_fills_concat_of_ne, h.settled v hv hdone]
    intro heq
    have := List.inj_on_of_nodup_map nodup_positions hv htickets heq
    exact hdone (by rw [this, hpending]; exact List.mem_cons_self)

theorem Logged.finish (h : x.Logged s log) (hinv : x.Invariant s) {f : Flight}
    (hf : f ∈ s.inFlight)
    (hs : settles x.config f.attempt (x.reply f.ticket.job f.attempt) = true) :
    x.Logged (finish s f (x.reply f.ticket.job f.attempt)) log := by
  have hperm := pending_finish hf (x.reply f.ticket.job f.attempt)
  refine ⟨h.listed, h.dispatched, h.waiting, ?_, ?_⟩
  · intro g hg
    exact h.flying g (List.mem_of_mem_erase hg)
  · intro t ht hdone
    by_cases htf : t = f.ticket
    · rw [htf, h.flying f hf, (hinv.tried f hf).tries_eq hs]
    · refine h.settled t ht fun hmem => ?_
      rcases List.mem_cons.mp (hperm.mem_iff.mp hmem) with heq | hmem
      · exact htf heq
      · exact hdone hmem

theorem Logged.retry (h : x.Logged s log) (hinv : x.Invariant s) {f : Flight}
    (hf : f ∈ s.inFlight)
    (hs : settles x.config f.attempt (x.reply f.ticket.job f.attempt) = false)
    (hcount : f.attempt + 1 < UInt32.size) :
    x.Logged (retry s f) (log ++ [{ f with attempt := f.attempt + 1 }]) := by
  have htried := hinv.tried f hf
  have htickets : f.ticket ∈ x.tickets :=
    hinv.pending_subset _ ((pending_finish hf (x.reply f.ticket.job f.attempt)).mem_iff.mpr
      List.mem_cons_self)
  have hpending := pending_retry hcount hf
  rw [retry_of_lt hcount] at hpending ⊢
  refine ⟨?_, ?_, ?_, ?_, ?_⟩
  · intro g hg
    rcases List.mem_append.mp hg with hg | hg
    · exact h.listed g hg
    · obtain rfl := List.mem_singleton.mp hg
      exact ⟨htickets, htried.succ hs⟩
  · have hpos : ¬ f.attempt = 0 := Nat.one_le_iff_ne_zero.mp htried.1
    rw [← h.dispatched]
    simp [hpos]
  · intro t ht
    have hne := hinv.position_ne hf (List.mem_append_left _ ht)
    rw [filter_fills_concat_of_ne (f := { f with attempt := f.attempt + 1 }) hne]
    exact h.waiting t ht
  · intro g hg
    rcases List.mem_cons.mp ((perm_replace hf).mem_iff.mp hg) with rfl | hg
    · rw [filter_fills_concat { f with attempt := f.attempt + 1 }, Ticket.firstAttempts_succ,
        ← h.flying f hf]
    · have hmem := List.mem_append_right s.queued (List.mem_map_of_mem (f := (·.ticket)) hg)
      have hne := hinv.position_ne hf hmem
      rw [filter_fills_concat_of_ne (f := { f with attempt := f.attempt + 1 }) hne]
      exact h.flying g (List.mem_of_mem_erase hg)
  · intro t ht hdone
    have hdone : t ∉ s.pending := fun hmem => hdone (hpending.mem_iff.mpr hmem)
    rw [filter_fills_concat_of_ne, h.settled t ht hdone]
    intro heq
    have := List.inj_on_of_nodup_map nodup_positions ht htickets heq
    exact hdone (this ▸ List.mem_append_right _ (List.mem_map_of_mem hf))

theorem step_preserves_logged (h : x.Logged s log) (hinv : x.Invariant s) (hstep : x.Step s e u) :
    x.Logged u (log ++ (begun? x.config s e).toList) := by
  obtain ⟨_, ⟨t, rest, hq, _, hbegun, rfl⟩ | ⟨f, hf, hs, hbegun, rfl⟩ |
    ⟨f, hf, hs, hcount, hbegun, rfl⟩ | ⟨f, _, _, _, hbegun, rfl⟩ | ⟨rfl, rfl⟩⟩ := step_cases hstep
  · rw [hbegun]
    exact h.dispatch hinv hq
  · rw [hbegun, Option.toList_none, List.append_nil]
    exact h.finish hinv hf hs
  · rw [hbegun]
    exact h.retry hinv hf hs hcount
  · rw [hbegun, Option.toList_none, List.append_nil]
    exact ⟨h.listed, h.dispatched, h.waiting, h.flying, h.settled⟩
  · rw [begun?, Option.toList_none, List.append_nil]
    exact ⟨h.listed, h.dispatched, h.waiting, h.flying, h.settled⟩

theorem logged_of_execution (hrun : x.Execution x.initial es s) :
    x.Logged s (calls x.config x.initial es) := by
  generalize hstart : x.initial = start at hrun
  induction hrun with
  | refl => exact hstart ▸ initial_logged
  | tail hrun hstep ih =>
    subst hstart
    -- Runs grow at their end, and so does the log.
    rw [calls_concat hrun hstep]
    exact step_preserves_logged ih (execution_preserves_invariant initial_invariant hrun) hstep

/-! ### Room -/

theorem inFlight_le_of_step (h : s.inFlight.length ≤ room x.config) (hstep : x.Step s e u) :
    u.inFlight.length ≤ room x.config := by
  obtain ⟨_, ⟨t, rest, _, hroom, _, rfl⟩ | ⟨f, _, _, _, rfl⟩ | ⟨f, _, _, hcount, _, rfl⟩ |
    ⟨_, _, _, _, _, rfl⟩ | ⟨_, rfl⟩⟩ := step_cases hstep
  · rw [List.length_append, List.length_singleton]
    exact hroom
  · exact Nat.le_trans List.length_erase_le h
  · simpa [retry_of_lt hcount] using h
  · exact h
  · exact h

theorem inFlight_le_of_execution (hrun : x.Execution s es u)
    (h : s.inFlight.length ≤ room x.config) : u.inFlight.length ≤ room x.config := by
  induction hrun with
  | refl => exact h
  | tail _ hstep ih => exact inFlight_le_of_step ih hstep

/-! ### Finished runs -/

/-- The pair of workloads at a place that is not left out. -/
def IsPair (x : Scenario) (row col : ℕ) (source destination : Workload) : Prop :=
  x.topology.workloads[row]? = some source ∧ x.topology.workloads[col]? = some destination ∧
    (x.config.ignoreLoopback && row == col) = false

/-- What a finished run has written down and which attempts it has made, told by the agent alone. -/
structure Settled (x : Scenario) (table : Table) (log : List Flight) : Prop where
  table_eq : table = x.settledTable
  omitted : ∀ place, x.config.ignoreLoopback = true → table.cell? place place = none
  unresolved : ∀ row col source destination, x.IsPair row col source destination →
    x.probe.resolve destination = none →
    table.cell? row col = some (.unknown (some (x.probe.unresolved destination))) ∧
      ∀ f ∈ log, f.fills row col = false
  observed : ∀ row col source destination job, x.IsPair row col source destination →
    Job.build? x.domain source destination x.probe = some job →
    (table.cell? row col).map (·.verdict) =
        some (((x.outcome? job).map Outcome.verdict).getD .unknown) ∧
      log.filter (Flight.fills row col) = (Ticket.mk row col job).firstAttempts (x.tries job)
  dispatched : (log.filter (·.attempt = 1)).map (·.ticket) = x.tickets
  retried : ∀ f ∈ log, ∀ n, 1 ≤ n → n < f.attempt → (x.reply f.ticket.job n).isOk = false

theorem IsPair.mem_tickets {row col : ℕ} {source destination : Workload} {job : Job}
    (h : x.IsPair row col source destination)
    (hjob : Job.build? x.domain source destination x.probe = some job) :
    (⟨row, col, job⟩ : Ticket) ∈ x.tickets :=
  mem_tickets_iff.mpr ⟨source, destination, h.1, h.2.1, h.2.2, hjob⟩

theorem IsPair.cell?_settledTable {row col : ℕ} {source destination : Workload}
    (h : x.IsPair row col source destination) :
    x.settledTable.cell? row col = some (x.settledCell source destination) := by
  obtain ⟨hs, hd, hloop⟩ := h
  simp [settledTable, Table.cell?_tabulate, hs, hd, hloop]

/-- A port that does not resolve is never tried. -/
theorem IsPair.fills_eq_false {row col : ℕ} {source destination : Workload}
    (h : x.IsPair row col source destination) (hport : x.probe.resolve destination = none)
    {f : Flight} (hf : f.ticket ∈ x.tickets) : f.fills row col = false := by
  refine Bool.eq_false_iff.mpr fun hfills => ?_
  obtain ⟨source', destination', _, hd, _, hjob⟩ := mem_tickets_iff.mp hf
  obtain ⟨_, hcol⟩ : f.ticket.row = row ∧ f.ticket.col = col := by simpa [Flight.fills] using hfills
  obtain rfl := Option.some.inj ((hcol ▸ hd).symm.trans h.2.1)
  rw [Job.build?, hport] at hjob
  cases hjob

theorem settled_of_complete (hrun : x.Execution x.initial es s) (hdone : s.Complete) :
    x.Settled s.table (calls x.config x.initial es) := by
  have htable := table_of_complete hrun hdone
  have hlog := logged_of_execution hrun
  have hpending : s.pending = [] := by rw [State.pending, hdone.1, hdone.2]; rfl
  refine ⟨htable, ?_, ?_, ?_, ?_, ?_⟩
  · intro place hloop
    rw [htable, settledTable, Table.cell?_tabulate]
    cases x.topology.workloads[place]? <;> simp [hloop]
  · intro row col source destination hpair hport
    refine ⟨?_, fun f hf => hpair.fills_eq_false hport (hlog.listed f hf).1⟩
    rw [htable, hpair.cell?_settledTable, settledCell, Job.build?, hport]
    rfl
  · intro row col source destination job hpair hjob
    constructor
    · rw [htable, hpair.cell?_settledTable, settledCell, hjob, Option.map_some,
        verdict_ofReply_result]
    · have hnot : (⟨row, col, job⟩ : Ticket) ∉ s.pending := by rw [hpending]; exact List.not_mem_nil
      exact hlog.settled _ (hpair.mem_tickets hjob) hnot
  · have := hlog.dispatched
    rwa [hdone.1, List.append_nil] at this
  · intro f hf
    exact (hlog.listed f hf).2.2.2

/-- Whatever the order in which jobs are dispatched and answered, never more of them are in flight
than there is room for, the run comes to an end, and what it has done then is always the same. It
never breaks off if the attempts that may be made can be counted. -/
theorem every_run_settles (x : Scenario) :
    (∀ es s, x.Execution x.initial es s → s.inFlight.length ≤ max x.config.concurrency 1) ∧
    (x.attempts < UInt32.size → ∀ es s, x.Execution x.initial es s → s.overflowed = false) ∧
    (∀ es s, x.Execution x.initial es s → s.stopped = false →
      es.length ≤ x.work x.initial ∧ (s.Complete ∨ ∃ e u, x.Step s e u ∧ u.cancelled = false)) ∧
    ∀ es s, x.Execution x.initial es s → s.Complete →
      x.Settled s.table (calls x.config x.initial es) := by
  refine ⟨fun es s hrun => ?_, fun hcounts es s => overflowed_eq_false hcounts,
    fun es s => ends_or_steps, fun es s => settled_of_complete⟩
  exact inFlight_le_of_execution hrun (Nat.zero_le _)

end Live.Scenario

namespace Sample

/-- A workload without ports. -/
def c : Workload := ⟨"x", "c", .empty, ⟨.v4, 3, by decide⟩, []⟩

/-- Connections to a port by name, of which the first attempts are not answered in time and the
second ones refused. -/
def refusing : Live.Scenario where
  config := ⟨2, 0, .doubling 3 0, true⟩
  domain := Job.defaultDomain
  topology := ⟨⟨[⟨"x", .empty⟩], [a, b, c]⟩, _, rfl⟩
  probe := ⟨.name "http", .tcp, .podIp⟩
  agent := fun _ n => if n = 1 then none else some (.ok ⟨.refused, 0, "reset"⟩)

/-- The job from `a` to `b`. -/
def ticketAB : Ticket := ⟨0, 1, ⟨a.id, b.id, "0.0.0.2", 80, .tcp⟩⟩

/-- The job is tried twice and the connection denied, and nothing is tried towards `c`. -/
theorem settled_of_refusing :
    ∃ es s, refusing.Execution refusing.initial es s ∧ s.overflowed = false ∧ s.Complete ∧
      s.inFlight.length ≤ 2 ∧
      (s.table.cell? 0 1).map (·.verdict) = some .denied ∧
      s.table.cell? 0 0 = none ∧
      s.table.cell? 0 2 = some (.unknown (some "x/c has no TCP port named http")) ∧
      (Live.calls refusing.config refusing.initial es).filter (Flight.fills 0 1) =
        [⟨ticketAB, 1⟩, ⟨ticketAB, 2⟩] ∧
      ∀ f ∈ Live.calls refusing.config refusing.initial es, f.fills 0 2 = false := by
  have hcounts : refusing.attempts < UInt32.size := by decide
  obtain ⟨es, s, hrun, _, hdone⟩ := Live.Scenario.exists_complete hcounts
  obtain ⟨hroom, hnever, _, hsettled⟩ := Live.Scenario.every_run_settles refusing
  have h := hsettled es s hrun hdone
  have hab : refusing.IsPair 0 1 a b := ⟨rfl, rfl, rfl⟩
  have hac : refusing.IsPair 0 2 a c := ⟨rfl, rfl, rfl⟩
  have hjob : Job.build? refusing.domain a b refusing.probe = some ticketAB.job := by cbv
  obtain ⟨hverdict, hcalls⟩ := h.observed 0 1 a b _ hab hjob
  obtain ⟨hunknown, huntried⟩ := h.unresolved 0 2 a c hac (by decide)
  have houtcome : refusing.outcome? ticketAB.job = some .refused := by cbv
  have htries : refusing.tries ticketAB.job = 2 := by cbv
  rw [houtcome] at hverdict
  rw [htries] at hcalls
  exact ⟨es, s, hrun, hnever hcounts es s hrun, hdone, hroom es s hrun, hverdict, h.omitted 0 rfl,
    hunknown, hcalls, huntried⟩

end Sample

end PolicyReach
