import PolicyReach.Live
import PolicyReach.Proofs.Compilation
import PolicyReach.Proofs.Retrying
import PolicyReach.Proofs.Table

/-!
# Live runs against an agent

An agent answers each attempt of a job in one way, but jobs may be dispatched and answered in any
order. A run that is not cancelled comes to an end, and what it has written down then is told by the
agent alone. It may break off before only if a job has more attempts than can be counted.
-/
namespace PolicyReach

namespace Live

/-- A live run with the agent that answers in it: what comes back from each attempt of a job, if
anything does in time. -/
structure Scenario where
  config : LiveConfig
  domain : String
  topology : Topology
  probe : Probe
  agent : Job → ℕ → Option Reply

/-- The jobs whose cells are still to be filled. -/
def State.pending (s : State) : List Ticket := s.queued ++ s.inFlight.map (·.ticket)

def State.Complete (s : State) : Prop := s.queued = [] ∧ s.inFlight = []

/-- The attempt that an event begins, if it begins one. -/
def begun? (c : LiveConfig) (s : State) : Event → Option Flight
  | .dispatch => s.queued.head?.map fun t => ⟨t, 1⟩
  | .answer row col reply =>
    (s.inFlight.find? (Flight.fills row col)).bind fun f =>
      if settles c f.attempt reply then none else f.again?
  | .cancel => none

/-- The attempts that a run begins, each of them a call of the agent. -/
def calls (c : LiveConfig) : State → List Event → List Flight
  | _, [] => []
  | s, e :: es =>
    match next c s e with
    | some u => (begun? c s e).toList ++ calls c u es
    | none => []

namespace Scenario

variable (x : Scenario)

def tickets : List Ticket := Live.tickets x.config x.domain x.topology x.probe

def initial : State := Live.initial x.config x.domain x.topology x.probe

/-- How often a job is tried before it is given up. -/
def attempts : ℕ := x.config.backoff.maxRetries.toNat + 1

/-- An attempt that takes too long counts as one that failed. -/
def reply (job : Job) (n : ℕ) : Reply :=
  (x.agent job n).getD (.error (.timeout x.config.jobTimeout))

/-- The first attempt that tells something about the connection. -/
def conclusive? (job : Job) : Option ℕ :=
  (List.range' 1 x.attempts).find? fun n => (x.reply job n).isOk

/-- How often a job is tried: until an attempt is conclusive, but only so often. -/
def tries (job : Job) : ℕ := (x.conclusive? job).getD x.attempts

/-- What is known about a job in the end: the first outcome, or why the last attempt had none. -/
def result (job : Job) : Reply := x.reply job ((x.conclusive? job).getD x.attempts)

def settledCell (source destination : Workload) : Cell :=
  match Job.build? x.domain source destination x.probe with
  | some job => .ofReply (x.result job)
  | none => .unknown (some (x.probe.unresolved destination))

def settledTable : Table :=
  .tabulate x.probe x.topology x.config.ignoreLoopback x.settledCell

/-- An answer is the agent's to the attempt that is under way. -/
def Truthful (s : State) : Event → Prop
  | .answer row col reply => ∀ f, s.inFlight.find? (Flight.fills row col) = some f →
    reply = x.reply f.ticket.job f.attempt
  | .dispatch | .cancel => True

def Step (s : State) (e : Event) (u : State) : Prop :=
  x.Truthful s e ∧ next x.config s e = some u

inductive Execution : State → List Event → State → Prop where
  | refl (s) : Execution s [] s
  | tail {s u v es e} : Execution s es u → x.Step u e v → Execution s (es ++ [e]) v

end Scenario

end Live

def Ticket.position (t : Ticket) : ℕ × ℕ := (t.row, t.col)

namespace Live.Scenario

variable {x : Scenario} {s u v : State} {e : Event} {es : List Event}

/-! ### Jobs and their cells -/

theorem mem_tickets_iff {t : Ticket} :
    t ∈ x.tickets ↔ ∃ source destination, x.topology.workloads[t.row]? = some source ∧
      x.topology.workloads[t.col]? = some destination ∧
      (x.config.ignoreLoopback && t.row == t.col) = false ∧
      Job.build? x.domain source destination x.probe = some t.job := by
  obtain ⟨row, col, job⟩ := t
  simp only [tickets, Live.tickets, List.mem_flatten, List.mem_mapIdx]
  constructor
  · rintro ⟨_, ⟨i, hi, rfl⟩, hmem⟩
    obtain ⟨_, hslot, hsome⟩ := List.mem_filterMap.mp hmem
    obtain ⟨j, hj, rfl⟩ := List.mem_mapIdx.mp hslot
    rw [id_eq] at hsome
    split at hsome
    · cases hsome
    · next hloop =>
      obtain ⟨_, hjob, ht⟩ := Option.map_eq_some_iff.mp hsome
      obtain ⟨rfl, rfl, rfl⟩ := Ticket.mk.inj ht
      exact ⟨_, _, List.getElem?_eq_getElem hi, List.getElem?_eq_getElem hj,
        Bool.eq_false_iff.mpr hloop, hjob⟩
  · rintro ⟨source, destination, hs, hd, hloop, hjob⟩
    obtain ⟨hi, rfl⟩ := List.getElem?_eq_some_iff.mp hs
    obtain ⟨hj, rfl⟩ := List.getElem?_eq_some_iff.mp hd
    refine ⟨_, ⟨row, hi, rfl⟩, List.mem_filterMap.mpr ⟨some ⟨row, col, job⟩, ?_, rfl⟩⟩
    exact List.mem_mapIdx.mpr ⟨col, hj, by simp [hloop, hjob]⟩

/-- Jobs are listed row by row and in a row from left to right, so no place comes up again. -/
theorem nodup_positions : (x.tickets.map Ticket.position).Nodup := by
  have hplace {row col : ℕ} {source destination : Workload} {t : Ticket}
      (h : (if x.config.ignoreLoopback && row == col then none else
        (Job.build? x.domain source destination x.probe).map (Ticket.mk row col)) = some t) :
      t.row = row ∧ t.col = col := by
    split at h
    · cases h
    · obtain ⟨_, _, rfl⟩ := Option.map_eq_some_iff.mp h
      exact ⟨rfl, rfl⟩
  refine List.pairwise_map.mpr (List.pairwise_flatten.mpr ⟨?_, ?_⟩)
  · intro cells hcells
    obtain ⟨i, hi, rfl⟩ := List.mem_mapIdx.mp hcells
    refine List.pairwise_filterMap.mpr (List.pairwise_iff_getElem.mpr ?_)
    intro j k hj hk hjk t ht t' ht' heq
    rw [List.getElem_mapIdx, id_eq] at ht ht'
    have hcol : t.col = t'.col := congrArg Prod.snd heq
    rw [(hplace ht).2, (hplace ht').2] at hcol
    omega
  · refine List.pairwise_iff_getElem.mpr ?_
    intro i j hi hj hij t ht t' ht' heq
    rw [List.getElem_mapIdx] at ht ht'
    obtain ⟨_, hslot, hsome⟩ := List.mem_filterMap.mp ht
    obtain ⟨_, hslot', hsome'⟩ := List.mem_filterMap.mp ht'
    obtain ⟨k, hk, rfl⟩ := List.mem_mapIdx.mp hslot
    obtain ⟨k', hk', rfl⟩ := List.mem_mapIdx.mp hslot'
    have hrow : t.row = t'.row := congrArg Prod.fst heq
    rw [(hplace hsome).1, (hplace hsome').1] at hrow
    omega

theorem cell?_initial {t : Ticket} (h : t ∈ x.tickets) :
    x.initial.table.cell? t.row t.col = some (.unknown none) := by
  obtain ⟨source, destination, hs, hd, hloop, hjob⟩ := mem_tickets_iff.mp h
  simp [initial, Live.initial, Table.cell?_tabulate, hs, hd, hloop, initialCell, hjob]

theorem cell?_settledTable {t : Ticket} (h : t ∈ x.tickets) :
    x.settledTable.cell? t.row t.col = some (.ofReply (x.result t.job)) := by
  obtain ⟨source, destination, hs, hd, hloop, hjob⟩ := mem_tickets_iff.mp h
  simp [settledTable, Table.cell?_tabulate, hs, hd, hloop, settledCell, hjob]

/-- Where no job fills the cell there is nothing to wait for. -/
theorem cell?_initial_eq {row col : ℕ} (h : (row, col) ∉ x.tickets.map Ticket.position) :
    x.initial.table.cell? row col = x.settledTable.cell? row col := by
  rw [initial, Live.initial, settledTable, Table.cell?_tabulate, Table.cell?_tabulate]
  cases hs : x.topology.workloads[row]? with
  | none => rfl
  | some source =>
    cases hd : x.topology.workloads[col]? with
    | none => rfl
    | some destination =>
      cases hloop : x.config.ignoreLoopback && row == col with
      | true => simp
      | false =>
        cases hjob : Job.build? x.domain source destination x.probe with
        | none => simp [initialCell, settledCell, hjob]
        | some job =>
          have hmem : (⟨row, col, job⟩ : Ticket) ∈ x.tickets :=
            mem_tickets_iff.mpr ⟨source, destination, hs, hd, hloop, hjob⟩
          exact absurd (List.mem_map_of_mem hmem) h

/-! ### Replies -/

/-- All attempts before the given one have failed. -/
def Tried (x : Scenario) (job : Job) (attempt : ℕ) : Prop :=
  1 ≤ attempt ∧ attempt ≤ x.attempts ∧ ∀ n, 1 ≤ n → n < attempt → (x.reply job n).isOk = false

theorem tried_one (job : Job) : x.Tried job 1 := by
  refine ⟨Nat.le_refl 1, Nat.le_add_left 1 _, ?_⟩
  intro n h h'
  omega

theorem settles_eq_false {n : ℕ} {r : Reply} (h : settles x.config n r = false) :
    r.isOk = false ∧ n < x.attempts := by
  cases r with
  | ok a => cases h
  | error e =>
    have : ¬ x.config.backoff.maxRetries.toNat < n := of_decide_eq_false h
    exact ⟨rfl, by rw [attempts]; omega⟩

/-- A job is tried again only if the last attempt failed and another one may be made. -/
theorem Tried.succ {job : Job} {n : ℕ} (h : x.Tried job n)
    (hs : settles x.config n (x.reply job n) = false) : x.Tried job (n + 1) := by
  obtain ⟨hpos, _, hfailed⟩ := h
  obtain ⟨hnow, hlt⟩ := settles_eq_false hs
  refine ⟨by omega, hlt, ?_⟩
  intro k hk hkn
  by_cases heq : k = n
  · exact heq ▸ hnow
  · exact hfailed k hk (by omega)

/-- A job whose next attempt has no number has used up all the numbers. -/
theorem Tried.overflows {job : Job} {n : ℕ} (h : x.Tried job n)
    (hs : settles x.config n (x.reply job n) = false) (hn : UInt32.size ≤ n + 1) :
    x.config.backoff.Overflows (x.reply job) := by
  obtain ⟨_, _, hfailed⟩ := h
  obtain ⟨hnow, hlt⟩ := settles_eq_false hs
  have hle : x.attempts ≤ UInt32.size := x.config.backoff.attempts_le_size
  have hall : x.attempts = UInt32.size := by omega
  refine ⟨hall, fun k hk hkn => ?_⟩
  by_cases heq : k = n
  · exact heq ▸ hnow
  · exact hfailed k hk (by omega)

/-- A job is settled by its last attempt. -/
theorem Tried.tries_eq {job : Job} {n : ℕ} (h : x.Tried job n)
    (hs : settles x.config n (x.reply job n) = true) : x.tries job = n := by
  obtain ⟨hpos, hle, hfailed⟩ := h
  cases hok : (x.reply job n).isOk with
  | true =>
    have : x.conclusive? job = some n := by
      rw [conclusive?, List.find?_range'_eq_some]
      refine ⟨hok, by simp only [List.mem_range'_1]; omega, ?_⟩
      intro k hk hkn
      simp [hfailed k hk hkn]
    rw [tries, this, Option.getD_some]
  | false =>
    have hlast : n = x.attempts := by
      cases hr : x.reply job n with
      | ok a => simp [hr, Except.isOk, Except.toBool] at hok
      | error e =>
        rw [hr] at hs
        have : x.config.backoff.maxRetries.toNat < n := of_decide_eq_true hs
        rw [attempts] at hle ⊢
        omega
    have : x.conclusive? job = none := by
      rw [conclusive?, List.find?_range'_eq_none]
      intro k hk hkn
      by_cases heq : k = n
      · simp [heq, hok]
      · simp [hfailed k hk (by omega)]
    rw [tries, this, Option.getD_none, ← hlast]

/-- The reply that settles a job is what is known about it in the end. -/
theorem Tried.result_eq {job : Job} {n : ℕ} (h : x.Tried job n)
    (hs : settles x.config n (x.reply job n) = true) : x.result job = x.reply job n :=
  congrArg (x.reply job) (h.tries_eq hs)

theorem Tried.result_of_runFrom {job : Job} {jitter : ℕ → Factor} {made : ℕ} {delay : Span}
    {steps : List (RetryStep Span)} {r : Retried AgentError Attempt} (h : x.Tried job (made + 1))
    (hsteps : steps.countP RetryStep.isCall = made)
    (hrun : x.config.backoff.runFrom jitter (x.reply job) made delay steps = .ok r) :
    r.result = x.result job ∧ r.calls = x.tries job := by
  fun_induction Backoff.runFrom x.config.backoff jitter (x.reply job) made delay steps
    generalizing r with
  | case1 => cases hrun
  | case2 made delay steps attempt _ calls a =>
    rename_i ha
    obtain rfl := Except.ok.inj hrun
    have hs : settles x.config attempt (x.reply job attempt) = true := by rw [ha]; rfl
    refine ⟨ha.symm.trans (h.result_eq hs).symm, ?_⟩
    rw [h.tries_eq hs, Retried.calls, List.countP_reverse, List.countP_cons, hsteps]
    rfl
  | case3 made delay steps attempt _ calls e he =>
    rename_i hlast
    obtain rfl := Except.ok.inj hrun
    have hs : settles x.config attempt (x.reply job attempt) = true := by
      rw [he]
      exact decide_eq_true hlast
    refine ⟨he.symm.trans (h.result_eq hs).symm, ?_⟩
    rw [h.tries_eq hs, Retried.calls, List.countP_reverse, List.countP_cons, hsteps]
    rfl
  | case4 made delay steps attempt _ calls e he hmore =>
    rename_i ih
    have hnext := h.succ (by rw [he]; exact decide_eq_false hmore)
    obtain ⟨pause, _, hrun⟩ := bind_eq_ok_iff.mp hrun
    obtain ⟨delay, _, hrun⟩ := bind_eq_ok_iff.mp hrun
    refine ih pause delay hnext ?_ hrun
    rw [List.countP_cons, List.countP_cons, hsteps]
    rfl

/-- Retrying a job with pauses comes to what its flights come to, in as many calls. -/
theorem result_of_run {job : Job} {jitter : ℕ → Factor} {r : Retried AgentError Attempt}
    (hrun : x.config.backoff.run jitter (x.reply job) = .ok r) :
    r.result = x.result job ∧ r.calls = x.tries job :=
  (tried_one job).result_of_runFrom rfl hrun

/-! ### Steps -/

theorem perm_replace {α : Type} [BEq α] [LawfulBEq α] {a b : α} {l : List α} (h : a ∈ l) :
    (l.replace a b).Perm (b :: l.erase a) := by
  induction l with
  | nil => cases h
  | cons c rest ih =>
    by_cases hc : c = a
    · subst hc
      simp
    · have hrest : a ∈ rest := by simpa [Ne.symm hc] using h
      have hne : (a == c) = false := by simpa using Ne.symm hc
      have hne' : (c == a) = false := by simpa using hc
      rw [List.replace_cons, hne, List.erase_cons, hne']
      exact ((ih hrest).cons c).trans (.swap b c _)

theorem pending_dispatch {t : Ticket} {rest : List Ticket} (h : s.queued = t :: rest) :
    ({ s with queued := rest, inFlight := s.inFlight ++ [⟨t, 1⟩] } : State).pending.Perm
      s.pending := by
  simp only [State.pending, h, List.map_append, List.map_cons, List.map_nil]
  rw [← List.append_assoc]
  exact List.perm_append_singleton t _

theorem pending_finish {f : Flight} (h : f ∈ s.inFlight) (r : Reply) :
    s.pending.Perm (f.ticket :: (finish s f r).pending) := by
  have hmap := (List.perm_cons_erase h).map (·.ticket)
  exact (hmap.append_left s.queued).trans List.perm_middle

theorem retry_of_lt {f : Flight} (h : f.attempt + 1 < UInt32.size) (s : State) :
    retry s f =
      { s with inFlight := s.inFlight.replace f { f with attempt := f.attempt + 1 } } := by
  rw [retry, Flight.again?, if_pos h]

theorem retry_of_le {f : Flight} (h : UInt32.size ≤ f.attempt + 1) (s : State) :
    retry s f = { s with overflowed := true } := by
  rw [retry, Flight.again?, if_neg (Nat.not_lt.mpr h)]

theorem pending_retry {f : Flight} (hcount : f.attempt + 1 < UInt32.size) (h : f ∈ s.inFlight) :
    (retry s f).pending.Perm s.pending := by
  rw [retry_of_lt hcount]
  have hreplaced := (perm_replace (b := { f with attempt := f.attempt + 1 }) h).map (·.ticket)
  have hmap := (List.perm_cons_erase h).map (·.ticket)
  exact (hreplaced.trans hmap.symm).append_left s.queued

theorem cell?_finish (s : State) (f : Flight) (r : Reply) (row col : ℕ) :
    (finish s f r).table.cell? row col =
      if (row, col) = f.ticket.position then (s.table.cell? row col).map fun _ => .ofReply r
      else s.table.cell? row col :=
  s.table.cell?_set f.ticket.row f.ticket.col (.ofReply r) row col

/-- All that a step can do, and the attempt that it begins. -/
theorem step_cases (h : x.Step s e u) : s.stopped = false ∧
    ((∃ t rest, s.queued = t :: rest ∧ s.inFlight.length < room x.config ∧
        begun? x.config s e = some ⟨t, 1⟩ ∧
        u = { s with queued := rest, inFlight := s.inFlight ++ [⟨t, 1⟩] }) ∨
      (∃ f ∈ s.inFlight, settles x.config f.attempt (x.reply f.ticket.job f.attempt) = true ∧
        begun? x.config s e = none ∧ u = finish s f (x.reply f.ticket.job f.attempt)) ∨
      (∃ f ∈ s.inFlight, settles x.config f.attempt (x.reply f.ticket.job f.attempt) = false ∧
        f.attempt + 1 < UInt32.size ∧
        begun? x.config s e = some { f with attempt := f.attempt + 1 } ∧ u = retry s f) ∨
      (∃ f ∈ s.inFlight, settles x.config f.attempt (x.reply f.ticket.job f.attempt) = false ∧
        UInt32.size ≤ f.attempt + 1 ∧ begun? x.config s e = none ∧
        u = { s with overflowed := true }) ∨
      (e = .cancel ∧ u = { s with cancelled := true })) := by
  obtain ⟨htruthful, hnext⟩ := h
  unfold next at hnext
  split at hnext
  · cases hnext
  · next hstopped =>
    refine ⟨Bool.eq_false_iff.mpr hstopped, ?_⟩
    cases e with
    | dispatch =>
      cases hq : s.queued with
      | nil => simp [hq] at hnext
      | cons t rest =>
        simp only [hq] at hnext
        split at hnext
        · next hroom =>
          exact .inl ⟨t, rest, rfl, hroom, by simp [begun?, hq], (Option.some.inj hnext).symm⟩
        · cases hnext
    | answer row col reply =>
      obtain ⟨f, hf, hu⟩ := Option.map_eq_some_iff.mp hnext
      have hmem := List.mem_of_find?_eq_some hf
      obtain rfl := htruthful f hf
      cases hsettles : settles x.config f.attempt (x.reply f.ticket.job f.attempt) with
      | true =>
        refine .inr (.inl ⟨f, hmem, hsettles, ?_, by simpa [hsettles] using hu.symm⟩)
        simp [begun?, hf, hsettles]
      | false =>
        have hu : u = retry s f := by simpa [hsettles] using hu.symm
        rcases Nat.lt_or_ge (f.attempt + 1) UInt32.size with hlt | hge
        · refine .inr (.inr (.inl ⟨f, hmem, hsettles, hlt, ?_, hu⟩))
          simp [begun?, hf, hsettles, Flight.again?, hlt]
        · have hu := hu.trans (retry_of_le hge s)
          refine .inr (.inr (.inr (.inl ⟨f, hmem, hsettles, hge, ?_, hu⟩)))
          simp [begun?, hf, hsettles, Flight.again?, Nat.not_lt.mpr hge]
    | cancel => exact .inr (.inr (.inr (.inr ⟨rfl, (Option.some.inj hnext).symm⟩)))

/-! ### What a run preserves -/

/-- Cells are filled exactly for the jobs that are no longer pending. -/
structure Invariant (x : Scenario) (s : State) : Prop where
  pending_subset : ∀ t ∈ s.pending, t ∈ x.tickets
  distinct : (s.pending.map Ticket.position).Nodup
  tried : ∀ f ∈ s.inFlight, x.Tried f.ticket.job f.attempt
  probe : s.table.probe = x.probe
  sources : s.table.sources = x.topology.ids
  destinations : s.table.destinations = x.topology.ids
  cells : ∀ row col, s.table.cell? row col =
    if (row, col) ∈ s.pending.map Ticket.position then x.initial.table.cell? row col
    else x.settledTable.cell? row col

theorem initial_pending : x.initial.pending = x.tickets := by
  simp [State.pending, initial, Live.initial, tickets]

theorem initial_invariant : x.Invariant x.initial := by
  refine ⟨?_, ?_, ?_, rfl, rfl, rfl, ?_⟩
  · intro t ht
    rwa [initial_pending] at ht
  · rw [initial_pending]
    exact nodup_positions
  · intro f hf
    cases hf
  · intro row col
    rw [initial_pending]
    by_cases h : (row, col) ∈ x.tickets.map Ticket.position
    · rw [if_pos h]
    · rw [if_neg h, cell?_initial_eq h]

/-- As long as the same jobs are pending and no cell is written, only the attempts matter. -/
theorem Invariant.of_perm (h : x.Invariant s) (hpending : u.pending.Perm s.pending)
    (htable : u.table = s.table) (htried : ∀ f ∈ u.inFlight, x.Tried f.ticket.job f.attempt) :
    x.Invariant u := by
  have hpositions := hpending.map Ticket.position
  refine ⟨?_, ?_, htried, ?_, ?_, ?_, ?_⟩
  · intro t ht
    exact h.pending_subset t (hpending.mem_iff.mp ht)
  · exact hpositions.nodup_iff.mpr h.distinct
  · rw [htable, h.probe]
  · rw [htable, h.sources]
  · rw [htable, h.destinations]
  · intro row col
    rw [htable, h.cells row col]
    simp only [hpositions.mem_iff]

theorem Invariant.finish (h : x.Invariant s) {f : Flight} (hf : f ∈ s.inFlight)
    (hs : settles x.config f.attempt (x.reply f.ticket.job f.attempt) = true) :
    x.Invariant (finish s f (x.reply f.ticket.job f.attempt)) := by
  have hperm := pending_finish hf (x.reply f.ticket.job f.attempt)
  have hticket := h.pending_subset f.ticket (hperm.mem_iff.mpr List.mem_cons_self)
  have hpositions := hperm.map Ticket.position
  have hnodup := hpositions.nodup_iff.mp h.distinct
  rw [List.map_cons, List.nodup_cons] at hnodup
  refine ⟨?_, hnodup.2, ?_, h.probe, h.sources, h.destinations, ?_⟩
  · intro t ht
    exact h.pending_subset t (hperm.mem_iff.mpr (List.mem_cons_of_mem _ ht))
  · intro g hg
    exact h.tried g (List.mem_of_mem_erase hg)
  · intro row col
    have hcell := h.cells row col
    simp only [hpositions.mem_iff, List.map_cons, List.mem_cons] at hcell
    rw [cell?_finish]
    by_cases hplace : (row, col) = f.ticket.position
    · -- The cell was still open, and what is written is what settles its job.
      rw [if_pos hplace, hcell, if_pos (.inl hplace), hplace, if_neg hnodup.1]
      obtain ⟨rfl, rfl⟩ := Prod.mk.inj hplace
      rw [cell?_initial hticket, cell?_settledTable hticket, (h.tried f hf).result_eq hs]
      rfl
    · rw [if_neg hplace, hcell]
      simp only [hplace, false_or]

theorem step_preserves_invariant (h : x.Invariant s) (hstep : x.Step s e u) : x.Invariant u := by
  obtain ⟨_, ⟨t, rest, hq, _, _, rfl⟩ | ⟨f, hf, hs, _, rfl⟩ | ⟨f, hf, hs, hlt, _, rfl⟩ |
    ⟨f, _, _, _, _, rfl⟩ | ⟨_, rfl⟩⟩ := step_cases hstep
  · refine h.of_perm (pending_dispatch hq) rfl ?_
    intro g hg
    rcases List.mem_append.mp hg with hg | hg
    · exact h.tried g hg
    · obtain rfl := List.mem_singleton.mp hg
      exact tried_one t.job
  · exact h.finish hf hs
  · have hpending := pending_retry hlt hf
    rw [retry_of_lt hlt] at hpending ⊢
    refine h.of_perm hpending rfl ?_
    intro g hg
    rcases List.mem_cons.mp ((perm_replace hf).mem_iff.mp hg) with rfl | hg
    · exact (h.tried f hf).succ hs
    · exact h.tried g (List.mem_of_mem_erase hg)
  · exact h.of_perm (.refl _) rfl h.tried
  · exact h.of_perm (.refl _) rfl h.tried

theorem execution_preserves_invariant (h : x.Invariant s) (hrun : x.Execution s es u) :
    x.Invariant u := by
  induction hrun with
  | refl => exact h
  | tail _ hstep ih => exact step_preserves_invariant ih hstep

theorem Invariant.eq_settledTable (h : x.Invariant s) (hdone : s.Complete) :
    s.table = x.settledTable := by
  have hpending : s.pending = [] := by rw [State.pending, hdone.1, hdone.2]; rfl
  refine Table.eq_of_cell?_eq h.probe h.sources h.destinations fun row col => ?_
  rw [h.cells row col, hpending]
  exact if_neg List.not_mem_nil

/-- Whatever the order in which jobs were answered, a finished run has written down what the agent
told of each job. -/
theorem table_of_complete (hrun : x.Execution x.initial es s) (hdone : s.Complete) :
    s.table = x.settledTable :=
  (execution_preserves_invariant initial_invariant hrun).eq_settledTable hdone

/-! ### How runs end -/

/-- How many steps may still be made. -/
def work (x : Scenario) (s : State) : ℕ :=
  s.queued.length * (x.attempts + 1) + (s.inFlight.map fun f => x.attempts + 1 - f.attempt).sum

theorem work_lt_of_step (h : x.Invariant s) (hstep : x.Step s e u) (hu : u.stopped = false) :
    x.work u < x.work s := by
  obtain ⟨_, ⟨t, rest, hq, _, _, rfl⟩ | ⟨f, hf, hs, _, rfl⟩ | ⟨f, hf, hs, hlt, _, rfl⟩ |
    ⟨_, _, _, _, _, rfl⟩ | ⟨_, rfl⟩⟩ := step_cases hstep
  · simp only [work, hq, List.map_append, List.sum_append, List.length_cons, Nat.add_mul]
    simp only [List.map_cons, List.map_nil, List.sum_cons, List.sum_nil]
    omega
  · have hsum := ((List.perm_cons_erase hf).map fun f => x.attempts + 1 - f.attempt).sum_nat
    have hle := (h.tried f hf).2.1
    simp only [List.map_cons, List.sum_cons] at hsum
    simp only [work, Live.finish]
    omega
  · have hsum := ((List.perm_cons_erase hf).map fun f => x.attempts + 1 - f.attempt).sum_nat
    have hsum' := ((perm_replace (b := { f with attempt := f.attempt + 1 }) hf).map
      fun f => x.attempts + 1 - f.attempt).sum_nat
    have hle := (h.tried f hf).2.1
    simp only [List.map_cons, List.sum_cons] at hsum hsum'
    simp only [work, retry_of_lt hlt]
    omega
  · simp [State.stopped] at hu
  · cases hu

theorem find?_fills (h : x.Invariant s) {f : Flight} (hf : f ∈ s.inFlight) :
    s.inFlight.find? (Flight.fills f.ticket.row f.ticket.col) = some f := by
  have hdistinct : (s.inFlight.map fun g => g.ticket.position).Nodup := by
    have := h.distinct
    rw [State.pending, List.map_append, List.map_map] at this
    exact (List.nodup_append.mp this).2.1
  obtain ⟨g, hg⟩ : ∃ g, s.inFlight.find? (Flight.fills f.ticket.row f.ticket.col) = some g := by
    rw [← Option.isSome_iff_exists, List.find?_isSome]
    exact ⟨f, hf, by simp [Flight.fills]⟩
  have hplace : g.ticket.position = f.ticket.position := by
    have := List.find?_some hg
    simpa [Flight.fills, Ticket.position] using this
  have hmem := List.mem_of_find?_eq_some hg
  rw [hg, List.inj_on_of_nodup_map hdistinct hmem hf hplace]

/-- Any job in flight may be the next to be answered. -/
theorem answer_step (h : x.Invariant s) (hopen : s.stopped = false) {f : Flight}
    (hf : f ∈ s.inFlight) :
    x.Step s (.answer f.ticket.row f.ticket.col (x.reply f.ticket.job f.attempt))
      (if settles x.config f.attempt (x.reply f.ticket.job f.attempt)
        then finish s f (x.reply f.ticket.job f.attempt) else retry s f) := by
  have hfind := find?_fills h hf
  refine ⟨?_, by simp [next, hopen, hfind]⟩
  intro g hg
  obtain rfl := Option.some.inj (hfind.symm.trans hg)
  rfl

theorem exists_step (h : x.Invariant s) (hopen : s.stopped = false) (hdone : ¬ s.Complete) :
    ∃ e u, x.Step s e u ∧ u.cancelled = false := by
  have hcancelled : s.cancelled = false := (Bool.or_eq_false_iff.mp hopen).1
  cases hflight : s.inFlight with
  | nil =>
    cases hq : s.queued with
    | nil => exact absurd ⟨hq, hflight⟩ hdone
    | cons t rest =>
      have hroom : 0 < room x.config := by rw [room]; omega
      refine ⟨.dispatch, { s with queued := rest, inFlight := [⟨t, 1⟩] }, ⟨trivial, ?_⟩, hcancelled⟩
      simp [next, hopen, hq, hflight, hroom]
  | cons f rest =>
    have hf : f ∈ s.inFlight := by rw [hflight]; exact List.mem_cons_self
    refine ⟨_, _, answer_step h hopen hf, ?_⟩
    split
    · exact hcancelled
    · rw [cancelled_retry, hcancelled]

/-- A run makes only so many steps before it stops. -/
theorem length_add_work_le (hs : x.Invariant s) (hrun : x.Execution s es u)
    (hu : u.stopped = false) : es.length + x.work u ≤ x.work s := by
  induction hrun with
  | refl => simp
  | tail hrun hstep ih =>
    have hopen := (step_cases hstep).1
    have hlt := work_lt_of_step (execution_preserves_invariant hs hrun) hstep hu
    have := ih hopen
    rw [List.length_append, List.length_singleton]
    omega

/-- A run that has not stopped is over or goes on, but not for ever. -/
theorem ends_or_steps (hrun : x.Execution x.initial es s) (hopen : s.stopped = false) :
    es.length ≤ x.work x.initial ∧ (s.Complete ∨ ∃ e u, x.Step s e u ∧ u.cancelled = false) := by
  have hwork := length_add_work_le initial_invariant hrun hopen
  have h := execution_preserves_invariant initial_invariant hrun
  refine ⟨by omega, ?_⟩
  by_cases hdone : s.Complete
  · exact .inl hdone
  · exact .inr (exists_step h hopen hdone)

/-! ### Runs that break off -/

theorem overflows_of_step (h : x.Invariant s) (hstep : x.Step s e u) (hu : u.overflowed = true) :
    ∃ t ∈ x.tickets, x.config.backoff.Overflows (x.reply t.job) := by
  obtain ⟨hopen, hcases⟩ := step_cases hstep
  have hbefore : s.overflowed ≠ true := by
    rw [(Bool.or_eq_false_iff.mp hopen).2]
    exact Bool.false_ne_true
  rcases hcases with ⟨t, rest, _, _, _, rfl⟩ | ⟨f, _, _, _, rfl⟩ | ⟨f, _, _, hlt, _, rfl⟩ |
    ⟨f, hf, hs, hge, _, rfl⟩ | ⟨_, rfl⟩
  · exact absurd hu hbefore
  · exact absurd hu hbefore
  · rw [retry_of_lt hlt] at hu
    exact absurd hu hbefore
  · have hpending : f.ticket ∈ s.pending := List.mem_append_right _ (List.mem_map_of_mem hf)
    exact ⟨f.ticket, h.pending_subset _ hpending, (h.tried f hf).overflows hs hge⟩
  · exact absurd hu hbefore

/-- A run breaks off only for a job of which all attempts fail that can be counted, and only if one
more may be made. -/
theorem exists_overflows (hrun : x.Execution x.initial es s) (hs : s.overflowed = true) :
    ∃ t ∈ x.tickets, x.config.backoff.Overflows (x.reply t.job) := by
  cases hrun with
  | refl => cases hs
  | tail hrun hstep =>
    exact overflows_of_step (execution_preserves_invariant initial_invariant hrun) hstep hs

theorem overflowed_eq_false (hcounts : x.attempts < UInt32.size)
    (hrun : x.Execution x.initial es s) : s.overflowed = false := by
  by_contra hs
  obtain ⟨t, _, hall, _⟩ := exists_overflows hrun (Bool.eq_true_of_not_eq_false hs)
  exact absurd hall (Nat.ne_of_lt hcounts)

/-- A run that is not cancelled can always be brought to its end, if its attempts can be counted. -/
theorem exists_complete (hcounts : x.attempts < UInt32.size) :
    ∃ es s, x.Execution x.initial es s ∧ s.cancelled = false ∧ s.Complete := by
  suffices hends : ∀ es s, x.Execution x.initial es s → s.cancelled = false →
      ∃ es s, x.Execution x.initial es s ∧ s.cancelled = false ∧ s.Complete from
    hends [] x.initial (.refl _) rfl
  intro es s hrun hopen
  induction hw : x.work s using Nat.strongRecOn generalizing es s with
  | ind w ih =>
    by_cases hdone : s.Complete
    · exact ⟨es, s, hrun, hopen, hdone⟩
    · have h := execution_preserves_invariant initial_invariant hrun
      have hstopped : s.stopped = false :=
        Bool.or_eq_false_iff.mpr ⟨hopen, overflowed_eq_false hcounts hrun⟩
      obtain ⟨e, u, hstep, hu⟩ := exists_step h hstopped hdone
      have hrun' := hrun.tail hstep
      have hstopped' : u.stopped = false :=
        Bool.or_eq_false_iff.mpr ⟨hu, overflowed_eq_false hcounts hrun'⟩
      have hlt := work_lt_of_step h hstep hstopped'
      exact ih (x.work u) (hw ▸ hlt) _ u hrun' hu rfl

end Live.Scenario

end PolicyReach
