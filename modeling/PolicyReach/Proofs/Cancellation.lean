import PolicyReach.Proofs.Schedules

/-!
# Cancelled runs

A run can be cancelled at any moment. The table that it leaves behind is the one of the full run
with some cells still blank, so that it compares with a model as before, only that some of the
mismatches are gaps.
-/
namespace PolicyReach

theorem Job.ids_of_build {domain : String} {source destination : Workload} {probe : Probe}
    {job : Job} (h : Job.build? domain source destination probe = some job) :
    job.source = source.id ∧ job.destination = destination.id := by
  obtain ⟨_, _, rfl⟩ := Option.map_eq_some_iff.mp h
  exact ⟨rfl, rfl⟩

/-- The table has the cells of a full one, each of them filled in the same way or still blank. -/
structure Table.Restricts (t full : Table) : Prop where
  probe : t.probe = full.probe
  sources : t.sources = full.sources
  destinations : t.destinations = full.destinations
  present : ∀ row col, (t.cell? row col).isSome = (full.cell? row col).isSome
  cells : ∀ row col cell, t.cell? row col = some cell →
    full.cell? row col = some cell ∨ cell = .unknown none

theorem Table.restricts_tabulate {probe : Probe} {topology : Topology} {ignoreLoopback : Bool}
    {part full : Workload → Workload → Cell}
    (h : ∀ source destination, part source destination = full source destination ∨
      part source destination = .unknown none) :
    (tabulate probe topology ignoreLoopback part).Restricts
      (tabulate probe topology ignoreLoopback full) := by
  refine ⟨rfl, rfl, rfl, fun row col => ?_, fun row col cell hcell => ?_⟩
  · rw [cell?_tabulate, cell?_tabulate]
    cases topology.workloads[row]? with
    | none => rfl
    | some source =>
      cases topology.workloads[col]? with
      | none => rfl
      | some destination => cases ignoreLoopback && row == col <;> simp
  · rw [cell?_tabulate] at hcell ⊢
    obtain ⟨source, hs, hcell⟩ := Option.bind_eq_some_iff.mp hcell
    obtain ⟨destination, hd, hcell⟩ := Option.bind_eq_some_iff.mp hcell
    simp only [hs, hd, Option.bind_some]
    split at hcell
    · cases hcell
    · next hloop =>
      obtain rfl := Option.some.inj hcell
      rw [if_neg hloop, Option.some.injEq]
      exact (h source destination).imp_left Eq.symm

theorem Agreement.of_unknown (v : Verdict) : of v .unknown = .gap := by cases v <;> rfl

/-- A comparison of a topology sorts each of its pairs into one kind of agreement. -/
theorem Comparison.total_grid {probe : Probe} {topology : Topology} {ignoreLoopback : Bool}
    {agreement : Workload → Workload → Agreement} {c : Comparison}
    (hc : c = ⟨probe, topology.ids, topology.ids, topology.grid ignoreLoopback agreement⟩) :
    c.agreed + c.mismatched + c.gaps = (topology.pairs ignoreLoopback).length := by
  rw [← length_mismatches, agreed_add_mismatches_add_gaps, hc, entries_grid, List.length_map]

namespace Live

/-- Whether the job for a pair of workloads is still pending. -/
def State.awaits (s : State) (source destination : Workload) : Bool :=
  s.pending.any fun t => t.job.source == source.id && t.job.destination == destination.id

namespace Scenario

variable {x : Scenario} {m : PolicyModel} {s u v : State} {e : Event} {es : List Event}
  {row col : ℕ} {source destination : Workload}

/-- The cell of a pair while a run goes on. -/
def cellDuring (x : Scenario) (s : State) (source destination : Workload) : Cell :=
  if s.awaits source destination then .unknown none else x.settledCell source destination

/-- How the cell of a pair compares while a run goes on. -/
def agreementDuring (x : Scenario) (s : State) (m : PolicyModel)
    (source destination : Workload) : Agreement :=
  if s.awaits source destination then .gap else x.agreement m source destination

/-! ### Tables -/

/-- Places and ids of workloads tell the same about pending jobs. -/
theorem IsPair.awaits_iff (hpair : x.IsPair row col source destination) (h : x.Invariant s) :
    s.awaits source destination = true ↔ (row, col) ∈ s.pending.map Ticket.position := by
  obtain ⟨hs, hd, _⟩ := hpair
  obtain ⟨hrow, rfl⟩ := List.getElem?_eq_some_iff.mp hs
  obtain ⟨hcol, rfl⟩ := List.getElem?_eq_some_iff.mp hd
  rw [State.awaits, List.any_eq_true, List.mem_map]
  refine exists_congr fun t => and_congr_right fun ht => ?_
  obtain ⟨source', destination', hs', hd', _, hjob⟩ := mem_tickets_iff.mp (h.pending_subset t ht)
  obtain ⟨hrow', rfl⟩ := List.getElem?_eq_some_iff.mp hs'
  obtain ⟨hcol', rfl⟩ := List.getElem?_eq_some_iff.mp hd'
  obtain ⟨hsource, hdestination⟩ := Job.ids_of_build hjob
  rw [Bool.and_eq_true, beq_iff_eq, beq_iff_eq, hsource, hdestination,
    Topology.id_getElem_inj hrow' hrow, Topology.id_getElem_inj hcol' hcol, Ticket.position,
    Prod.mk.injEq]

/-- At any moment of a run its table is told by the jobs that are pending. -/
theorem Invariant.table_eq (h : x.Invariant s) :
    s.table = .tabulate x.probe x.topology x.config.ignoreLoopback (x.cellDuring s) := by
  refine Table.eq_of_cell?_eq h.probe h.sources h.destinations fun row col => ?_
  rw [h.cells row col, Table.cell?_tabulate]
  -- Only cells that have a job are still as they were at first, and those are blank.
  split
  · next hpending =>
    obtain ⟨t, ht, hplace⟩ := List.mem_map.mp hpending
    obtain ⟨rfl, rfl⟩ := Prod.mk.inj hplace
    have htickets := h.pending_subset t ht
    obtain ⟨source, destination, hs, hd, hloop, _⟩ := mem_tickets_iff.mp htickets
    have hawaits := (IsPair.awaits_iff ⟨hs, hd, hloop⟩ h).mpr hpending
    rw [cell?_initial htickets, hs, hd]
    simp [hloop, cellDuring, hawaits]
  · next hsettled =>
    rw [settledTable, Table.cell?_tabulate]
    refine Option.bind_congr fun source hs => Option.bind_congr fun destination hd => ?_
    cases hloop : x.config.ignoreLoopback && row == col with
    | true => rfl
    | false =>
      have hawaits : s.awaits source destination = false :=
        Bool.eq_false_iff.mpr fun hawaits =>
          hsettled ((IsPair.awaits_iff ⟨hs, hd, hloop⟩ h).mp hawaits)
      simp [cellDuring, hawaits]

/-- At no moment of a run its table tells anything else than the table of a finished one. -/
theorem Invariant.restricts (h : x.Invariant s) : s.table.Restricts x.settledTable := by
  rw [h.table_eq, settledTable]
  refine Table.restricts_tabulate fun source destination => ?_
  rw [cellDuring]
  split
  · exact .inr rfl
  · exact .inl rfl

/-- A port that does not resolve is written down before anything is tried. -/
theorem IsPair.cell?_of_unresolved (hpair : x.IsPair row col source destination)
    (hport : x.probe.resolve destination = none) (h : x.Invariant s) :
    s.table.cell? row col = some (.unknown (some (x.probe.unresolved destination))) := by
  have hplace : (row, col) ∉ s.pending.map Ticket.position := by
    intro hmem
    obtain ⟨t, ht, hplace⟩ := List.mem_map.mp hmem
    obtain ⟨rfl, rfl⟩ := Prod.mk.inj hplace
    have hfills := hpair.fills_eq_false hport (f := ⟨t, 1⟩) (h.pending_subset t ht)
    simp [Flight.fills] at hfills
  rw [h.cells row col, if_neg hplace, hpair.cell?_settledTable, settledCell, Job.build?, hport]
  rfl

/-! ### Comparisons -/

/-- How a run that goes on compares with a model. -/
def comparisonDuring (x : Scenario) (s : State) (m : PolicyModel) : Comparison :=
  ⟨x.probe, x.topology.ids, x.topology.ids,
    x.topology.grid x.config.ignoreLoopback (x.agreementDuring s m)⟩

theorem Invariant.compare_table (h : x.Invariant s) :
    (Table.expected m x.topology x.probe x.config.ignoreLoopback).compare s.table =
      .ok (x.comparisonDuring s m) := by
  have hcells (source destination : Workload) :
      Agreement.of (Table.expectedCell m x.topology x.probe source destination).verdict
        (x.cellDuring s source destination).verdict = x.agreementDuring s m source destination := by
    rw [cellDuring, agreementDuring]
    split
    · exact Agreement.of_unknown _
    · exact agreement_of_cells source destination
  rw [Table.expected, h.table_eq, Table.compare_tabulate]
  simp only [hcells, comparisonDuring]

/-- The mismatches of a run that goes on are those of the pairs that are no longer pending. -/
theorem mismatches_comparisonDuring : (x.comparisonDuring s m).mismatches =
    ((x.topology.pairs x.config.ignoreLoopback).filter fun p => !s.awaits p.1 p.2).filterMap
      (x.disagreement? m) := by
  rw [comparisonDuring, Comparison.mismatches, Comparison.entries_grid, List.filterMap_map,
    List.filterMap_filter]
  refine List.filterMap_congr fun p _ => ?_
  rw [Function.comp_apply, agreementDuring]
  cases s.awaits p.1 p.2 with
  | true => rfl
  | false => exact mismatch?_agreement p

theorem mismatches_comparisonDuring_sublist :
    (x.comparisonDuring s m).mismatches.Sublist (x.comparison m).mismatches := by
  rw [mismatches_comparisonDuring, mismatches_comparison]
  exact List.filter_sublist.filterMap _

/-! ### Cancelling -/

theorem cancel_step (hopen : s.stopped = false) :
    x.Step s .cancel { s with cancelled := true } :=
  ⟨trivial, by simp [next, hopen]⟩

theorem not_step_of_stopped (h : s.stopped = true) : ¬ x.Step s e u := fun hstep =>
  absurd ((step_cases hstep).1.symm.trans h) Bool.false_ne_true

/-- A run can be cancelled whenever it has not stopped yet, and goes no further then. At whichever
moment that is, its table is a part of the one of every finished run, in which ports that do not
resolve are written down already. It compares with the model like the full table, except that some
of the mismatches may be gaps. If the attempts that may be made can be counted, nothing else stops a
run, and there is a finished one. -/
theorem cancelled_run_restricts (x : Scenario) (m : PolicyModel) :
    (∀ s, s.stopped = false → x.Step s .cancel { s with cancelled := true }) ∧
    (∀ s e u, s.stopped = true → ¬ x.Step s e u) ∧
    (x.attempts < UInt32.size →
      (∀ es s, x.Execution x.initial es s → s.overflowed = false) ∧
      ∃ es full, x.Execution x.initial es full ∧ full.cancelled = false ∧ full.Complete) ∧
    ∀ es s es' full, x.Execution x.initial es s →
      x.Execution x.initial es' full → full.cancelled = false → full.Complete →
      s.table.Restricts full.table ∧
      (∀ row col source destination, x.IsPair row col source destination →
        x.probe.resolve destination = none →
        s.table.cell? row col = some (.unknown (some (x.probe.unresolved destination)))) ∧
      ∃ c d,
        (Table.expected m x.topology x.probe x.config.ignoreLoopback).compare s.table = .ok c ∧
        (Table.expected m x.topology x.probe x.config.ignoreLoopback).compare full.table = .ok d ∧
        c.mismatches.Sublist d.mismatches ∧
        c.agreed + c.mismatched + c.gaps = d.agreed + d.mismatched + d.gaps := by
  refine ⟨fun s => cancel_step, fun s e u => not_step_of_stopped,
    fun hcounts => ⟨fun es s => overflowed_eq_false hcounts, exists_complete hcounts⟩, ?_⟩
  intro es s es' full hrun hfull _ hdone
  have h := execution_preserves_invariant initial_invariant hrun
  rw [table_of_complete hfull hdone]
  refine ⟨h.restricts, ?_, x.comparisonDuring s m, x.comparison m, h.compare_table,
    compare_settledTable, mismatches_comparisonDuring_sublist, ?_⟩
  · intro row col source destination hpair hport
    exact hpair.cell?_of_unresolved hport h
  · rw [Comparison.total_grid (c := x.comparisonDuring s m) rfl,
      Comparison.total_grid (c := x.comparison m) rfl]

end Scenario

end Live

namespace Sample

/-- Cancelled while its first job is in flight, the run leaves a blank cell behind and reports no
mismatch, and the full run reports one. -/
theorem scenario_cancelled :
    ∃ s es full c d, scenario.Execution scenario.initial [.dispatch, .cancel] s ∧
      scenario.Execution scenario.initial es full ∧ full.Complete ∧
      s.table.Restricts full.table ∧ s.table.cell? 0 1 = some (.unknown none) ∧
      (Table.expected model topology scenario.probe true).compare s.table = .ok c ∧
      (Table.expected model topology scenario.probe true).compare full.table = .ok d ∧
      c.mismatches.Sublist d.mismatches ∧ c.mismatches = [] ∧
      d.mismatches = [(a.id, b.id, .denied, .allowed)] ∧
      c.agreed + c.mismatched + c.gaps = d.agreed + d.mismatched + d.gaps := by
  obtain ⟨hcancel, _, hends, hrestricts⟩ := Live.Scenario.cancelled_run_restricts scenario model
  obtain ⟨_, es, full, hfull, hopen, hdone⟩ := hends (by decide)
  obtain ⟨u, hdispatch, hu, htable⟩ : ∃ u, scenario.Step scenario.initial .dispatch u ∧
      u.stopped = false ∧ u.table = scenario.initial.table :=
    ⟨_, ⟨trivial, rfl⟩, rfl, rfl⟩
  have hrun := ((Live.Scenario.Execution.refl scenario.initial).tail hdispatch).tail (hcancel u hu)
  obtain ⟨hsub, _, c, d, hc, hd, hmismatches, htotal⟩ :=
    hrestricts _ _ es full hrun hfull hopen hdone
  refine ⟨_, es, full, c, d, hrun, hfull, hdone, hsub, ?_, hc, hd, hmismatches, ?_, ?_, htotal⟩
  · show u.table.cell? 0 1 = _
    rw [htable]
    cbv
  · have hgaps : (Table.expected model topology scenario.probe true).compare
        scenario.initial.table =
          .ok ⟨scenario.probe, topology.ids, topology.ids,
            [[none, some .gap], [some .gap, none]]⟩ := by cbv
    obtain rfl := Except.ok.inj (hgaps.symm.trans (htable ▸ hc))
    cbv
  · rw [Live.Scenario.table_of_complete hfull hdone] at hd
    obtain rfl := Except.ok.inj (Live.Scenario.compare_settledTable.symm.trans hd)
    rw [Live.Scenario.mismatches_comparison]
    cbv

end Sample

end PolicyReach
