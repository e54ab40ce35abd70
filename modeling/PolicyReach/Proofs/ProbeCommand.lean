import PolicyReach.Program
import PolicyReach.Proofs.CommandLine
import PolicyReach.Proofs.TickBound
import PolicyReach.Proofs.Verification

/-!
# What a probe comes to

A probe of a cluster that nobody interrupts compares the model with the cluster once for each of its
ports and protocols, whatever the agent says. It fails only if a prediction was contradicted.
-/
namespace PolicyReach

open Live

theorem Live.Clock.Quiet.after {agent : Agent} (h : Quiet agent) (calls : ℕ) :
    Clock.Quiet (agent.after calls) :=
  fun call => h (calls + call)

/-- The live run of a scenario, with an agent that has been called so often before. -/
def Live.Scenario.clock (x : Scenario) (agent : Agent) (calls : ℕ) : Clock :=
  Clock.run x.config (agent.after calls) none x.initial

/-- Runs that settle one after another, the first one when the agent has been called so often. -/
inductive Live.Clock.Follow (agent : Agent) : ℕ → List Scenario → Prop where
  | nil {calls} : Follow agent calls []
  | cons {calls x xs} (settled : Settled (agent.after calls) x (x.clock agent calls))
      (later : Follow agent (calls + (x.clock agent calls).calls.size) xs) :
      Follow agent calls (x :: xs)

namespace Program

variable {o : ProbeOptions} {agent : Agent} {topology : Topology} {model : PolicyModel}
  {x : Scenario} {calls : ℕ} {w : World} {words : List String}

/-- The scenario is about a probe of the command. -/
structure Belongs (o : ProbeOptions) (topology : Topology) (x : Scenario) : Prop where
  config : x.config = liveConfig o
  domain : x.domain = o.clusterDomain
  topology : x.topology = topology

/-- What is printed about a scenario. -/
def scenarioReport (o : ProbeOptions) (model : PolicyModel) (x : Scenario) : String :=
  (x.comparison model).report
    (Table.expected model x.topology x.probe o.inputs.ignoreLoopback) x.settledTable o.noisy

/-- What comes of a scenario when the agent has been called so often before. -/
def settledRound (o : ProbeOptions) (agent : Agent) (model : PolicyModel) (calls : ℕ)
    (x : Scenario) : Round :=
  ⟨scenarioReport o model x, (x.comparison model).mismatched, false,
    (x.clock agent calls).calls.size⟩

/-- A round plays the live run and reports how it compares with the model. -/
theorem round_settles (hquiet : Clock.Quiet agent) (hretries : o.retries.toNat + 1 < UInt32.size)
    (topology : Topology) (model : PolicyModel) (calls : ℕ) (probe : Probe) :
    ∃ x : Scenario, x.probe = probe ∧ Belongs o topology x ∧
      Clock.Settled (agent.after calls) x (x.clock agent calls) ∧
      round o agent topology model calls probe = .ok (settledRound o agent model calls x) := by
  obtain ⟨x, hsame, hsettled⟩ := Clock.run_settled (hquiet.after calls)
    ⟨liveConfig o, o.clusterDomain, topology, probe, fun _ _ => none⟩ hretries
  have hbelongs : Belongs o topology x := ⟨hsame.config, hsame.domain, hsame.topology⟩
  have hclock : Clock.run (liveConfig o) (agent.after calls) none
      (Live.initial (liveConfig o) o.clusterDomain topology probe) = x.clock agent calls := by
    rw [Scenario.clock, hsame.initial_eq, hsame.config]
    rfl
  have hcompare : (Table.expected model topology probe o.inputs.ignoreLoopback).compare
      x.settledTable = .ok (x.comparison model) := by
    rw [← x.compare_settledTable, hsame.config, hsame.topology, hsame.probe]
    rfl
  refine ⟨x, hsame.probe, hbelongs, hsettled, ?_⟩
  have htable : (x.clock agent calls).state.table = x.settledTable := hsettled.table
  have hopened : (x.clock agent calls).state.stopped = false := hsettled.opened
  obtain ⟨hcancelled, hoverflowed⟩ := Bool.or_eq_false_iff.mp hopened
  have hcancelling : (x.clock agent calls).cancelling = false := hsettled.quiet
  simp only [round, hclock, htable, hcompare, hcancelled, hoverflowed, hcancelling, settledRound,
    scenarioReport, hsame.topology, hsame.probe, Bool.or_false, Bool.false_eq_true, if_false]

/-- No round keeps a later one from being played. -/
theorem rounds_settle (hquiet : Clock.Quiet agent) (hretries : o.retries.toNat + 1 < UInt32.size)
    (topology : Topology) (model : PolicyModel) (probes : List Probe) (calls : ℕ) :
    ∃ xs rs, xs.map (·.probe) = probes ∧ (∀ x ∈ xs, Belongs o topology x) ∧
      Clock.Follow agent calls xs ∧
      rounds (round o agent topology model) calls probes = (rs, none) ∧
      rs.map (·.report) = xs.map (scenarioReport o model) ∧
      rs.map (·.mismatched) = xs.map (fun x => (x.comparison model).mismatched) ∧
      ∀ r ∈ rs, r.cancelled = false := by
  induction probes generalizing calls with
  | nil => exact ⟨[], [], rfl, nofun, .nil, rfl, rfl, rfl, nofun⟩
  | cons probe rest ih =>
    obtain ⟨x, hprobe, hbelongs, hsettled, hround⟩ :=
      round_settles hquiet hretries topology model calls probe
    obtain ⟨xs, rs, hprobes, hall, hfollow, hrounds, hreports, hmismatched, hcancelled⟩ :=
      ih (calls + (x.clock agent calls).calls.size)
    refine ⟨x :: xs, settledRound o agent model calls x :: rs, ?_, ?_, .cons hsettled hfollow,
      ?_, ?_, ?_, ?_⟩
    · rw [List.map_cons, hprobe, hprobes]
    · exact List.forall_mem_cons.mpr ⟨hbelongs, hall⟩
    · rw [rounds, hround]
      simp only [settledRound, Bool.false_eq_true, if_false, hrounds]
    · rw [List.map_cons, List.map_cons, hreports, settledRound]
    · rw [List.map_cons, List.map_cons, hmismatched, settledRound]
    · exact List.forall_mem_cons.mpr ⟨rfl, hcancelled⟩

theorem judge_eq {rs : List Round} (h : ∀ r ∈ rs, r.cancelled = false) :
    judge rs = if (rs.map (·.mismatched)).sum = 0 then none
      else some ⟨"found " ++ toString (rs.map (·.mismatched)).sum ++ " mismatched cells", []⟩ := by
  have hsum : rs.foldl (fun n r => n + r.mismatched) 0 = (rs.map (·.mismatched)).sum := by
    rw [List.sum_eq_foldl, List.foldl_map]
  have hnone : rs.any (·.cancelled) = false := by
    simpa [List.any_eq_false] using h
  rw [judge, hsum, hnone]
  simp only [ne_eq, ite_not, Bool.false_eq_true, if_false]

/-- How the program ends with so many cells that the agent has contradicted. -/
def verdictOn (output : String) : ℕ → Ending
  | 0 => ⟨0, output, ""⟩
  | n + 1 => ⟨1, output, "Error: found " ++ toString (n + 1) ++ " mismatched cells\n"⟩

theorem ending_judge (output : String) {rs : List Round} (h : ∀ r ∈ rs, r.cancelled = false) :
    ending ⟨output, (judge rs).map .failure⟩ = verdictOn output (rs.map (·.mismatched)).sum := by
  rw [judge_eq h]
  cases (rs.map (·.mismatched)).sum with
  | zero => rfl
  | succ n =>
    have hlead : "Error: found " = "Error: " ++ "found " := rfl
    have hclose : " mismatched cells\n" = " mismatched cells" ++ "\n" := rfl
    rw [if_neg (Nat.succ_ne_zero n), Option.map_some, verdictOn, hlead, hclose]
    simp only [ending, Failure.text, List.isEmpty_nil, if_true, String.append_empty,
      String.append_assoc]

/-- The command has compared the model with the cluster once in each of the scenarios. -/
structure Probed (w : World) (o : ProbeOptions) (topology : Topology) (model : PolicyModel)
    (xs : List Scenario) (e : Ending) : Prop where
  probes : xs.map (·.probe) = o.inputs.ports.flatMap fun port =>
    o.inputs.protocols.map fun protocol => ⟨port, protocol, o.mode⟩
  belongs : ∀ x ∈ xs, Belongs o topology x
  follow : Clock.Follow (w.agent (kubectl o)) 0 xs
  compared : ∀ x ∈ xs, (Table.expected model topology x.probe o.inputs.ignoreLoopback).compare
    x.settledTable = .ok (x.comparison model)
  ending : e = verdictOn (String.join (xs.map (scenarioReport o model)))
    (xs.map fun x => (x.comparison model).mismatched).sum
  succeeds : e.code = 0 ↔
    ∀ x ∈ xs, ∀ p ∈ topology.pairs o.inputs.ignoreLoopback, x.disagreement? model p = none

theorem code_verdictOn (output : String) (n : ℕ) : (verdictOn output n).code = 0 ↔ n = 0 := by
  cases n <;> simp [verdictOn]

theorem mismatched_eq_zero_iff (hx : Belongs o topology x) :
    (x.comparison model).mismatched = 0 ↔
      ∀ p ∈ topology.pairs o.inputs.ignoreLoopback, x.disagreement? model p = none := by
  rw [← Comparison.length_mismatches, List.length_eq_zero_iff, Scenario.mismatches_comparison,
    List.filterMap_eq_nil_iff, hx.topology, hx.config]
  rfl

theorem probed_of_load (hload : load w o.inputs = .ok (topology, model))
    (hretries : o.retries.toNat + 1 < UInt32.size)
    (hquiet : Clock.Quiet (w.agent (kubectl o))) :
    ∃ xs, Probed w o topology model xs (ending (probe w o)) := by
  obtain ⟨xs, rs, hprobes, hbelongs, hfollow, hrounds, hreports, hmismatched, hcancelled⟩ :=
    rounds_settle hquiet hretries topology model (probes o.inputs o.mode) 0
  have hending : ending (probe w o) = verdictOn (String.join (xs.map (scenarioReport o model)))
      (xs.map fun x => (x.comparison model).mismatched).sum := by
    rw [← hmismatched, ← hreports, ← ending_judge _ hcancelled, probe, hload]
    simp only [hrounds, Option.none_or]
  refine ⟨xs, hprobes, hbelongs, hfollow, fun x hx => ?_, hending, ?_⟩
  · obtain ⟨hconfig, _, htopology⟩ := hbelongs x hx
    rw [← x.compare_settledTable, hconfig, htopology]
    rfl
  · rw [hending, code_verdictOn, List.sum_eq_zero_iff, List.forall_mem_map]
    exact forall₂_congr fun x hx => mismatched_eq_zero_iff (hbelongs x hx)

/-- A probe of files that load, which nobody interrupts, compares the model with the cluster for
every port and protocol that the words give, and fails only for predictions that the agent has
contradicted. There must be numbers for all attempts that it may make. -/
theorem run_probe {i : Invocation} (hparse : CommandLine.parse words = .ok i)
    (hprobe : i.command = .probe o) (hlog : LogFilter.check i.logLevel = .ok ())
    (hretries : o.retries.toNat + 1 < UInt32.size)
    (hload : load w o.inputs = .ok (topology, model))
    (hquiet : Clock.Quiet (w.agent (kubectl o))) :
    (∀ s, CommandLine.Given "port" s words → ProbePort.parseList s = .ok o.inputs.ports) ∧
    ((∀ s, ¬ CommandLine.Given "port" s words) → o.inputs.ports = [.number 80]) ∧
    (∀ s, CommandLine.Given "protocol" s words →
      Protocol.parseList s = .ok o.inputs.protocols) ∧
    ((∀ s, ¬ CommandLine.Given "protocol" s words) → o.inputs.protocols = [.tcp]) ∧
    ∃ xs, Probed w o topology model xs (run w words) := by
  obtain ⟨settings, hports, hgiven, hstandard⟩ :=
    CommandLine.decides_ports.field_eq hparse hprobe
  obtain ⟨settings', hprotocols, hgiven', hstandard'⟩ :=
    CommandLine.decides_protocols.field_eq hparse hprobe
  rw [← (CommandLine.inputs_of_command hports).1] at hgiven hstandard
  rw [← (CommandLine.inputs_of_command hprotocols).2] at hgiven' hstandard'
  refine ⟨hgiven, hstandard, hgiven', hstandard', ?_⟩
  have hrun : run w words = ending (probe w o) := by
    rw [run, hparse]
    simp only [execute, hlog, hprobe, perform]
  rw [hrun]
  exact probed_of_load hload hretries hquiet

end Program

namespace Sample

open Program

def twoPods : Json :=
  .obj [("namespaces", .arr [.obj [("name", .str "x")]]),
    ("workloads", .arr [
      .obj [("namespace", .str "x"), ("name", .str "a"), ("ip", .str "10.0.0.1")],
      .obj [("namespace", .str "x"), ("name", .str "b"), ("ip", .str "10.0.0.2")]])]

/-- Nothing is found out about port 80, and connections to other ports are refused. -/
def closedPorts : World where
  readText := fun _ => .ok twoPods.compact
  agent := fun _ _ job _ =>
    ⟨some 1, if job.port = 80 then .error (.failed "no route") else .ok ⟨.refused, 0, ""⟩, false⟩

def portWords : List String :=
  ["probe", "--resources", "r.json", "--port=80,81", "--retries", "0", "--ignore-loopback"]

def portOptions : ProbeOptions where
  inputs := ⟨"r.json", none, [.number 80, .number 81], [.tcp], true⟩
  mode := .podIp
  concurrency := 16
  jobTimeoutMs := 10000
  connectTimeoutMs := 1000
  retries := 0
  retryBackoffMs := 500
  kubectl := "kubectl"
  kubeContext := none
  clusterDomain := Job.defaultDomain
  noisy := false

def portInvocation : Invocation := ⟨"netpol_verifier=info,warn", .plain, .probe portOptions⟩

theorem exists_of_isOk {ε α : Type} {r : Except ε α} (h : r.isOk = true) : ∃ a, r = .ok a := by
  cases r with
  | ok a => exact ⟨a, rfl⟩
  | error e => cases h

/-- The gaps for port 80 do not matter, and both cells for port 81 do. -/
theorem run_closedPorts :
    CommandLine.parse portWords = .ok portInvocation ∧
    LogFilter.check portInvocation.logLevel = .ok () ∧
    portOptions.retries.toNat + 1 < UInt32.size ∧
    Clock.Quiet (closedPorts.agent (kubectl portOptions)) ∧
    ∃ topology model xs, load closedPorts portOptions.inputs = .ok (topology, model) ∧
      Probed closedPorts portOptions topology model xs (run closedPorts portWords) ∧
      xs.map (·.probe) = [⟨.number 80, .tcp, .podIp⟩, ⟨.number 81, .tcp, .podIp⟩] ∧
      (run closedPorts portWords).code = 1 ∧
      (run closedPorts portWords).stderr = "Error: found 2 mismatched cells\n" := by
  have hparse : CommandLine.parse portWords = .ok portInvocation := by decide +kernel
  obtain ⟨_, hlog⟩ := exists_of_isOk
    (show (LogFilter.check portInvocation.logLevel).isOk = true by decide +kernel)
  have hquiet : Clock.Quiet (closedPorts.agent (kubectl portOptions)) := fun _ _ _ => rfl
  obtain ⟨⟨topology, model⟩, hload⟩ := exists_of_isOk
    (show (load closedPorts portOptions.inputs).isOk = true by decide +kernel)
  have hretries : portOptions.retries.toNat + 1 < UInt32.size := by decide
  obtain ⟨_, _, _, _, xs, hprobed⟩ := run_probe hparse rfl hlog hretries hload hquiet
  refine ⟨hparse, hlog, hretries, hquiet, topology, model, xs, hload, hprobed, hprobed.probes,
    ?_, ?_⟩
  · decide +kernel
  · decide +kernel

end Sample

end PolicyReach
