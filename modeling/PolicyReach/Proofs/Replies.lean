import PolicyReach.Proofs.LiveRun

/-!
# What a run may still learn of its agent

A run depends on the replies of its agent only as far as they have been asked for. What the agent
says to an attempt that is just under way can be chosen when it comes.
-/
namespace PolicyReach.Live.Scenario

variable {x : Scenario} {s : State} {job j : Job} {n k : ℕ} {r : Reply}

/-- The scenario in which the agent comes to the reply in the given attempt of the job. -/
def learn (x : Scenario) (job : Job) (n : ℕ) (r : Reply) : Scenario :=
  { x with agent := fun j k => if j = job ∧ k = n then some r else x.agent j k }

theorem agent_learn_of_ne (h : ¬ (j = job ∧ k = n)) : (x.learn job n r).agent j k = x.agent j k :=
  if_neg h

theorem reply_learn_of_ne (h : ¬ (j = job ∧ k = n)) : (x.learn job n r).reply j k = x.reply j k :=
  congrArg (fun o => o.getD (.error (.timeout x.config.jobTimeout))) (agent_learn_of_ne h)

theorem reply_learn_of_job_ne (h : j ≠ job) : (x.learn job n r).reply j = x.reply j :=
  funext fun _ => reply_learn_of_ne fun hj => h hj.1

theorem conclusive?_learn (h : j ≠ job) : (x.learn job n r).conclusive? j = x.conclusive? j := by
  rw [conclusive?, reply_learn_of_job_ne h]
  rfl

theorem tries_learn (h : j ≠ job) : (x.learn job n r).tries j = x.tries j := by
  rw [tries, conclusive?_learn h]
  rfl

theorem result_learn (h : j ≠ job) : (x.learn job n r).result j = x.result j := by
  rw [result, conclusive?_learn h, reply_learn_of_job_ne h]
  rfl

/-- Different cells have different jobs, because no two workloads have the same name. -/
theorem eq_of_job_eq {t t' : Ticket} (ht : t ∈ x.tickets) (ht' : t' ∈ x.tickets)
    (h : t.job = t'.job) : t = t' := by
  obtain ⟨source, destination, hs, hd, _, hjob⟩ := mem_tickets_iff.mp ht
  obtain ⟨source', destination', hs', hd', _, hjob'⟩ := mem_tickets_iff.mp ht'
  have hids : source.id = source'.id ∧ destination.id = destination'.id := by
    obtain ⟨_, _, hbuilt⟩ := Option.map_eq_some_iff.mp hjob
    obtain ⟨_, _, hbuilt'⟩ := Option.map_eq_some_iff.mp hjob'
    rw [← h, ← hbuilt, Job.mk.injEq] at hbuilt'
    exact ⟨hbuilt'.1.symm, hbuilt'.2.1.symm⟩
  have hplace {row row' : ℕ} {w w' : Workload} (hw : x.topology.workloads[row]? = some w)
      (hw' : x.topology.workloads[row']? = some w') (hid : w.id = w'.id) : row = row' := by
    have hrow : x.topology.ids[row]? = some w.id := by simp [Topology.ids, hw]
    have hrow' : x.topology.ids[row']? = some w.id := by simp [Topology.ids, hw', hid]
    exact (List.getElem?_inj (List.getElem?_eq_some_iff.mp hrow).1 x.topology.ids_nodup).mp
      (hrow.trans hrow'.symm)
  obtain ⟨row, col, job⟩ := t
  obtain ⟨row', col', job'⟩ := t'
  simp only [Ticket.mk.injEq]
  exact ⟨hplace hs hs' hids.1, hplace hd hd' hids.2, h⟩

theorem Tried.learn {t : Ticket} (h : x.Tried t.job k) (hne : t.job = job → k ≤ n) :
    (x.learn job n r).Tried t.job k := by
  refine ⟨h.1, h.2.1, fun m hm hmk => ?_⟩
  rw [reply_learn_of_ne fun hj => ?_]
  · exact h.2.2 m hm hmk
  · have := hne hj.1
    omega

/-- A cell does not depend on the replies to the job of another cell. -/
theorem cell?_settledTable_learn {row col : ℕ}
    (h : ∀ t ∈ x.tickets, t.position = (row, col) → t.job ≠ job) :
    (x.learn job n r).settledTable.cell? row col = x.settledTable.cell? row col := by
  rw [settledTable, settledTable, Table.cell?_tabulate, Table.cell?_tabulate]
  cases hs : x.topology.workloads[row]? with
  | none => simp [learn, hs]
  | some source =>
    cases hd : x.topology.workloads[col]? with
    | none => simp [learn, hd]
    | some destination =>
      cases hloop : x.config.ignoreLoopback && row == col with
      | true => simp [learn, hs, hd, hloop]
      | false =>
        have hcell : (x.learn job n r).settledCell source destination =
            x.settledCell source destination := by
          have hsame : Job.build? (x.learn job n r).domain source destination
              (x.learn job n r).probe = Job.build? x.domain source destination x.probe := rfl
          rw [settledCell, settledCell, hsame]
          cases hbuilt : Job.build? x.domain source destination x.probe with
          | none => rfl
          | some j =>
            have hmem : (⟨row, col, j⟩ : Ticket) ∈ x.tickets :=
              mem_tickets_iff.mpr ⟨source, destination, hs, hd, hloop, hbuilt⟩
            exact congrArg Cell.ofReply (result_learn (h _ hmem rfl))
        simpa [learn, hs, hd, hloop] using hcell

/-- What the agent says to the attempt under way has not been written down anywhere. -/
theorem Invariant.learn (h : x.Invariant s) {f : Flight} (hf : f ∈ s.inFlight) (r : Reply) :
    (x.learn f.ticket.job f.attempt r).Invariant s := by
  have hpending : f.ticket ∈ s.pending := List.mem_append_right _ (List.mem_map_of_mem hf)
  have hticket := h.pending_subset _ hpending
  have hflights : (s.inFlight.map fun g => g.ticket.position).Nodup := by
    have hdistinct := h.distinct
    rw [State.pending, List.map_append, List.map_map] at hdistinct
    exact (List.nodup_append.mp hdistinct).2.1
  refine ⟨h.pending_subset, h.distinct, ?_, h.probe, h.sources, h.destinations, ?_⟩
  · intro g hg
    refine (h.tried g hg).learn fun hjob => ?_
    have hg' := h.pending_subset _ (List.mem_append_right _ (List.mem_map_of_mem hg))
    have hsame := eq_of_job_eq hg' hticket hjob
    rw [List.inj_on_of_nodup_map hflights hg hf (congrArg Ticket.position hsame)]
  · intro row col
    rw [h.cells row col]
    split
    · rfl
    · next hplace =>
      refine (cell?_settledTable_learn fun t ht hpos hjob => hplace ?_).symm
      rw [← hpos, eq_of_job_eq ht hticket hjob]
      exact List.mem_map_of_mem hpending

end PolicyReach.Live.Scenario
