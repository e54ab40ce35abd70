import PolicyReach.Proofs.LiveRun
import PolicyReach.Proofs.Resolution

/-!
# Verifying a model against live runs

A live run is compared with what a model predicts. The comparison reports the pairs for which the
agent observed something else, and only those: whatever could not be predicted or observed is a gap.
-/
namespace PolicyReach

/-! ### Predicting and observing -/

theorem Evaluation.verdict_ne_unknown (e : Evaluation) : e.verdict ≠ .unknown := by
  rw [verdict, Verdict.ofAllowed]
  cases e.isAllowed <;> decide

theorem Outcome.verdict_ne_unknown (o : Outcome) : o.verdict ≠ .unknown := by
  cases o <;> decide

/-- What a model says about a pair, if the destination has the port that is probed. -/
def PolicyModel.predicted? (m : PolicyModel) (topology : Topology) (probe : Probe)
    (source destination : Workload) : Option Verdict :=
  (probe.resolve destination).map fun port =>
    (m.evaluate topology ⟨source, destination, probe.protocol, port⟩).verdict

namespace Live.Scenario

variable (x : Scenario)

/-- The outcome of the first attempt that had one, among all that are made. -/
def outcome? (job : Job) : Option Outcome :=
  (x.conclusive? job).bind fun n => (x.reply job n).toOption.map (·.outcome)

/-- What the agent tells about a pair, if it is asked and ever tells anything. -/
def observed? (source destination : Workload) : Option Verdict :=
  (Job.build? x.domain source destination x.probe).bind fun job =>
    (x.outcome? job).map Outcome.verdict

/-- A pair for which prediction and observation are known and differ. -/
def disagreement? (m : PolicyModel) (p : Workload × Workload) :
    Option (WorkloadId × WorkloadId × Verdict × Verdict) :=
  match m.predicted? x.topology x.probe p.1 p.2, x.observed? p.1 p.2 with
  | some e, some o => if e = o then none else some (p.1.id, p.2.id, e, o)
  | _, _ => none

end Live.Scenario

namespace Table

theorem verdict_expectedCell (m : PolicyModel) (topology : Topology) (probe : Probe)
    (source destination : Workload) :
    (expectedCell m topology probe source destination).verdict =
      (m.predicted? topology probe source destination).getD .unknown := by
  rw [expectedCell, PolicyModel.predicted?]
  cases probe.resolve destination <;> rfl

end Table

namespace Live.Scenario

variable {x : Scenario} {s d : Workload} {v : Verdict}

theorem verdict_ofReply_result (job : Job) :
    (Cell.ofReply (x.result job)).verdict = ((x.outcome? job).map Outcome.verdict).getD .unknown := by
  rw [result, outcome?]
  cases hc : x.conclusive? job with
  | some n =>
    rw [Option.getD_some, Option.bind_some]
    cases x.reply job n <;> rfl
  | none =>
    have hlast : (x.reply job x.attempts).isOk = false := by
      rw [conclusive?, List.find?_range'_eq_none] at hc
      have := hc x.attempts (Nat.le_add_left 1 _) (by omega)
      simpa using this
    rw [Option.getD_none]
    cases hr : x.reply job x.attempts with
    | ok a => simp [hr, Except.isOk, Except.toBool] at hlast
    | error e => rfl

theorem verdict_settledCell :
    (x.settledCell s d).verdict = (x.observed? s d).getD .unknown := by
  rw [settledCell, observed?]
  cases Job.build? x.domain s d x.probe with
  | none => rfl
  | some job => exact verdict_ofReply_result job

theorem observed_ne_unknown (h : x.observed? s d = some v) : v ≠ .unknown := by
  obtain ⟨job, _, hv⟩ := Option.bind_eq_some_iff.mp h
  obtain ⟨o, _, rfl⟩ := Option.map_eq_some_iff.mp hv
  exact o.verdict_ne_unknown

end Live.Scenario

theorem PolicyModel.predicted_ne_unknown {m : PolicyModel} {topology : Topology} {probe : Probe}
    {s d : Workload} {v : Verdict} (h : m.predicted? topology probe s d = some v) :
    v ≠ .unknown := by
  obtain ⟨port, _, rfl⟩ := Option.map_eq_some_iff.mp h
  exact Evaluation.verdict_ne_unknown _

/-! ### Comparing -/

/-- Verdicts agree or not where both are known. -/
def Agreement.ofKnown : Option Verdict → Option Verdict → Agreement
  | some e, some o => if e = o then .agree e else .mismatch e o
  | _, _ => .gap

theorem Agreement.of_getD {e o : Option Verdict} (he : ∀ v, e = some v → v ≠ .unknown)
    (ho : ∀ v, o = some v → v ≠ .unknown) :
    of (e.getD .unknown) (o.getD .unknown) = ofKnown e o := by
  cases e with
  | none => cases o <;> rfl
  | some e =>
    cases o with
    | none => cases e <;> rfl
    | some o =>
      have he := he e rfl
      have ho := ho o rfl
      cases e <;> cases o <;> first | rfl | contradiction

namespace Comparison

/-- Every cell of a comparison is counted once. -/
theorem agreed_add_mismatches_add_gaps (c : Comparison) :
    c.agreed + c.mismatches.length + c.gaps = c.entries.length := by
  rw [agreed, mismatches, gaps]
  induction c.entries with
  | nil => rfl
  | cons entry rest ih =>
    obtain ⟨source, destination, agreement⟩ := entry
    rw [List.countP_cons, List.countP_cons, List.filterMap_cons, List.length_cons]
    cases agreement with
    | agree v =>
      simp only [mismatch?, reduceCtorEq, decide_false, if_true, Bool.false_eq_true, if_false]
      omega
    | mismatch e o =>
      simp only [mismatch?, reduceCtorEq, decide_false, Bool.false_eq_true, if_false,
        List.length_cons]
      omega
    | gap =>
      simp only [mismatch?, decide_true, if_true, Bool.false_eq_true, if_false]
      omega

theorem length_mismatches (c : Comparison) : c.mismatches.length = c.mismatched := by
  rw [mismatches, mismatched, List.length_filterMap_eq_countP]
  refine List.countP_congr fun entry _ => ?_
  obtain ⟨source, destination, agreement⟩ := entry
  cases agreement <;> simp [mismatch?]

end Comparison

namespace Live.Scenario

variable {x : Scenario} {m : PolicyModel}

/-- How the cell of a pair compares. -/
def agreement (x : Scenario) (m : PolicyModel) (source destination : Workload) : Agreement :=
  .ofKnown (m.predicted? x.topology x.probe source destination) (x.observed? source destination)

/-- How a finished run compares with a model. -/
def comparison (x : Scenario) (m : PolicyModel) : Comparison :=
  ⟨x.probe, x.topology.ids, x.topology.ids,
    x.topology.grid x.config.ignoreLoopback (x.agreement m)⟩

theorem agreement_of_cells (source destination : Workload) :
    Agreement.of (Table.expectedCell m x.topology x.probe source destination).verdict
      (x.settledCell source destination).verdict = x.agreement m source destination := by
  rw [Table.verdict_expectedCell, verdict_settledCell]
  exact Agreement.of_getD (fun _ => PolicyModel.predicted_ne_unknown)
    (fun _ => observed_ne_unknown)

theorem compare_settledTable :
    (Table.expected m x.topology x.probe x.config.ignoreLoopback).compare x.settledTable =
      .ok (x.comparison m) := by
  rw [Table.expected, settledTable, Table.compare_tabulate]
  simp only [agreement_of_cells, comparison]

theorem mismatch?_agreement (p : Workload × Workload) :
    Comparison.mismatch? (p.1.id, p.2.id, x.agreement m p.1 p.2) = x.disagreement? m p := by
  rw [agreement, disagreement?]
  cases m.predicted? x.topology x.probe p.1 p.2 with
  | none => rfl
  | some e =>
    cases x.observed? p.1 p.2 with
    | none => rfl
    | some o =>
      by_cases h : e = o
      · simp [Agreement.ofKnown, h, Comparison.mismatch?]
      · simp [Agreement.ofKnown, h, Comparison.mismatch?]

theorem agreement_eq_gap_iff {source destination : Workload} :
    x.agreement m source destination = .gap ↔
      m.predicted? x.topology x.probe source destination = none ∨
        x.observed? source destination = none := by
  rw [agreement]
  cases m.predicted? x.topology x.probe source destination with
  | none => simp [Agreement.ofKnown]
  | some e =>
    cases x.observed? source destination with
    | none => simp [Agreement.ofKnown]
    | some o => by_cases h : e = o <;> simp [Agreement.ofKnown, h]

theorem ids_of_disagreement {p : Workload × Workload}
    {entry : WorkloadId × WorkloadId × Verdict × Verdict} (h : x.disagreement? m p = some entry) :
    (entry.1, entry.2.1) = (p.1.id, p.2.id) := by
  rw [disagreement?] at h
  split at h
  · split at h
    · cases h
    · obtain rfl := Option.some.inj h
      rfl
  · cases h

theorem mismatches_comparison : (x.comparison m).mismatches =
    (x.topology.pairs x.config.ignoreLoopback).filterMap (x.disagreement? m) := by
  rw [comparison, Comparison.mismatches, Comparison.entries_grid, List.filterMap_map]
  exact List.filterMap_congr fun p _ => mismatch?_agreement p

theorem nodup_mismatches :
    ((x.comparison m).mismatches.map fun entry => (entry.1, entry.2.1)).Nodup := by
  rw [mismatches_comparison]
  refine List.pairwise_map.mpr (List.pairwise_filterMap.mpr ?_)
  refine (x.topology.pairwise_pairs x.config.ignoreLoopback).imp ?_
  intro p q hne entry hentry entry' hentry'
  rw [ids_of_disagreement hentry, ids_of_disagreement hentry']
  exact hne

theorem gaps_comparison : (x.comparison m).gaps =
    (x.topology.pairs x.config.ignoreLoopback).countP fun p =>
      m.predicted? x.topology x.probe p.1 p.2 = none ∨ x.observed? p.1 p.2 = none := by
  rw [comparison, Comparison.gaps, Comparison.entries_grid, List.countP_map]
  refine List.countP_congr fun p _ => ?_
  simp only [Function.comp_apply, decide_eq_true_eq]
  exact agreement_eq_gap_iff

theorem length_entries_comparison :
    (x.comparison m).entries.length = (x.topology.pairs x.config.ignoreLoopback).length := by
  rw [comparison, Comparison.entries_grid, List.length_map]

/-- However the jobs of a run are dispatched and answered, the run ends, and comparing it with a
model reports the pairs for which the agent contradicts the model, row by row and once each. It
never breaks off if the attempts that may be made can be counted. -/
theorem compare_complete (x : Scenario) (m : PolicyModel) :
    (x.attempts < UInt32.size → ∀ es s, x.Execution x.initial es s → s.overflowed = false) ∧
    (∀ es s, x.Execution x.initial es s → s.stopped = false →
      es.length ≤ x.work x.initial ∧ (s.Complete ∨ ∃ e u, x.Step s e u ∧ u.cancelled = false)) ∧
    ∀ es s, x.Execution x.initial es s → s.cancelled = false → s.Complete →
      ∃ c, (Table.expected m x.topology x.probe x.config.ignoreLoopback).compare s.table = .ok c ∧
        c.mismatches = (x.topology.pairs x.config.ignoreLoopback).filterMap (x.disagreement? m) ∧
        (c.mismatches.map fun entry => (entry.1, entry.2.1)).Nodup ∧
        c.gaps = (x.topology.pairs x.config.ignoreLoopback).countP (fun p =>
          m.predicted? x.topology x.probe p.1 p.2 = none ∨ x.observed? p.1 p.2 = none) ∧
        c.agreed + c.mismatches.length + c.gaps =
          (x.topology.pairs x.config.ignoreLoopback).length := by
  refine ⟨fun hcounts es s => overflowed_eq_false hcounts, fun es s => ends_or_steps, ?_⟩
  intro es s hrun _ hdone
  rw [table_of_complete hrun hdone]
  refine ⟨x.comparison m, compare_settledTable, mismatches_comparison, nodup_mismatches,
    gaps_comparison, ?_⟩
  rw [Comparison.agreed_add_mismatches_add_gaps, length_entries_comparison]

end Live.Scenario

namespace Sample

/-- Every first attempt fails and every second one connects. -/
def scenario : Live.Scenario where
  config := ⟨1, 0, .doubling 1 0, true⟩
  domain := Job.defaultDomain
  topology := topology
  probe := ⟨.number 80, .tcp, .podIp⟩
  agent := fun _ n =>
    if n = 1 then some (.error (.failed "no route")) else some (.ok ⟨.connected, 0, "open"⟩)

/-- The model denies requests to `b`, and the one from `a` is reported. -/
theorem comparison_of_scenario :
    ∃ es s c, scenario.Execution scenario.initial es s ∧ s.overflowed = false ∧ s.Complete ∧
      (Table.expected model topology scenario.probe true).compare s.table = .ok c ∧
      c.mismatches = [(a.id, b.id, .denied, .allowed)] ∧ c.gaps = 0 ∧ c.agreed = 1 := by
  have hcounts : scenario.attempts < UInt32.size := by decide
  obtain ⟨es, s, hrun, hopen, hdone⟩ := Live.Scenario.exists_complete hcounts
  obtain ⟨hnever, _, hcompares⟩ := Live.Scenario.compare_complete scenario model
  obtain ⟨c, hc, hmismatches, _, hgaps, hall⟩ := hcompares es s hrun hopen hdone
  have hfound : (scenario.topology.pairs scenario.config.ignoreLoopback).filterMap
      (scenario.disagreement? model) = [(a.id, b.id, .denied, .allowed)] := by cbv
  have hnone : (scenario.topology.pairs scenario.config.ignoreLoopback).countP (fun p =>
      model.predicted? scenario.topology scenario.probe p.1 p.2 = none ∨
        scenario.observed? p.1 p.2 = none) = 0 := by cbv
  have hlength : (scenario.topology.pairs scenario.config.ignoreLoopback).length = 2 := by cbv
  rw [hfound] at hmismatches
  rw [hnone] at hgaps
  rw [hmismatches, hgaps, hlength, List.length_singleton] at hall
  exact ⟨es, s, c, hrun, hnever hcounts es s hrun, hdone, hc, hmismatches, hgaps, by omega⟩

end Sample

end PolicyReach
