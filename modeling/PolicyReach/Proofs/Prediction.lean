import PolicyReach.Proofs.TableShape

/-!
# What a model predicts for a probe

A probe is about one port of each destination, which is given by number or looked up there by name.
Where there is such a port the predicted cell is how the model evaluates the flow to it. A rule that
names the probed port looks it up in the same way, so its ports never stop the flow.
-/
namespace PolicyReach

/-- The port of a workload that a probe is about: the number that it gives, or that of the first
port which the workload declares under the name and for the protocol. -/
def Probe.Reaches (probe : Probe) (w : Workload) (port : UInt16) : Prop :=
  match probe.port with
  | .number n => port = n
  | .name s => ∃ before p after, w.ports = before ++ p :: after ∧
      (p.name = some s ∧ p.protocol = probe.protocol) ∧ p.port = port ∧
        ∀ q ∈ before, ¬ (q.name = some s ∧ q.protocol = probe.protocol)

/-- A cell that tells how a flow is evaluated. -/
structure Cell.Tells (c : Cell) (e : Evaluation) : Prop where
  evaluation : c.evaluation = some e
  detail : c.detail = none
  allowed : c.verdict = .allowed ↔ c.egress = .allowed ∧ c.ingress = .allowed
  denied : c.verdict = .denied ↔ ¬ (c.egress = .allowed ∧ c.ingress = .allowed)

/-! ### Ports of destinations -/

section Ports

variable {probe : Probe} {w : Workload} {port : UInt16} {name : String}

theorem Workload.resolvePort_eq_some_iff {protocol : Protocol} :
    w.resolvePort name protocol = some port ↔
      ∃ before p after, w.ports = before ++ p :: after ∧
        (p.name = some name ∧ p.protocol = protocol) ∧ p.port = port ∧
          ∀ q ∈ before, ¬ (q.name = some name ∧ q.protocol = protocol) := by
  rw [resolvePort, Option.map_eq_some_iff]
  simp only [List.find?_eq_some_iff_append, Bool.and_eq_true, decide_eq_true_eq,
    Bool.not_eq_true', Bool.and_eq_false_iff, decide_eq_false_iff_not]
  constructor
  · rintro ⟨p, ⟨⟨hprotocol, hname⟩, before, after, hports, hbefore⟩, hport⟩
    refine ⟨before, p, after, hports, ⟨hname, hprotocol⟩, hport, ?_⟩
    rintro q hq ⟨hqname, hqprotocol⟩
    rcases hbefore q hq with hne | hne
    · exact hne hqprotocol
    · exact hne hqname
  · rintro ⟨before, p, after, hports, ⟨hname, hprotocol⟩, hport, hbefore⟩
    refine ⟨p, ⟨⟨hprotocol, hname⟩, before, after, hports, ?_⟩, hport⟩
    intro q hq
    by_cases hqprotocol : q.protocol = protocol
    · right
      intro hqname
      exact hbefore q hq ⟨hqname, hqprotocol⟩
    · exact .inl hqprotocol

namespace Probe

theorem resolve_eq_some_iff : probe.resolve w = some port ↔ probe.Reaches w port := by
  rw [resolve, Reaches]
  cases probe.port with
  | number n => simp [ProbePort.resolve, eq_comm]
  | name s => exact Workload.resolvePort_eq_some_iff

theorem resolve_eq_none_iff : probe.resolve w = none ↔ ∀ port, ¬ probe.Reaches w port := by
  rw [Option.eq_none_iff_forall_ne_some]
  exact forall_congr' fun port => not_congr resolve_eq_some_iff

/-- A port that was looked up can as well be asked for by its number. -/
theorem reaches_number (probe : Probe) (w : Workload) (port : UInt16) :
    ({ probe with port := .number port } : Probe).Reaches w port := rfl

end Probe

/-- Rules and probes look a name up in the same way. -/
theorem PortMatch.accepts_of_reaches (hname : probe.port = .name name)
    (h : probe.Reaches w port) :
    (PortMatch.name probe.protocol name).accepts probe.protocol port w = true := by
  have hresolved : w.resolvePort name probe.protocol = some port := by
    have hresolve := Probe.resolve_eq_some_iff.mpr h
    rwa [Probe.resolve, hname] at hresolve
  simp [accepts, protocol, hresolved]

theorem Rule.acceptsPort_of_mem {r : Rule} {m : PortMatch} {protocol : Protocol}
    (hm : m ∈ r.ports) (h : m.accepts protocol port w = true) :
    r.acceptsPort protocol port w = true := by
  rw [acceptsPort, Bool.or_eq_true]
  right
  exact List.any_eq_true.mpr ⟨m, hm, h⟩

end Ports

/-! ### Sides -/

theorem DirectionPolicy.admission_ne_denied {p : DirectionPolicy} {peer : Workload}
    {ns : Namespace} {t : Traffic} {r : TargetRule} (hr : r ∈ p.rules)
    (hadmits : r.admits peer ns t = true) : p.admission peer ns t ≠ .denied := by
  have hmem : r.policy ∈ p.admitting peer ns t := by
    rw [admitting, SortedSet.mem_ofList]
    exact List.mem_map_of_mem (List.mem_filter.mpr ⟨hr, hadmits⟩)
  have hne : (p.admitting peer ns t).isEmpty = false := by
    apply Bool.eq_false_iff.mpr
    intro hempty
    exact SortedSet.eq_empty_iff.mp (SortedSet.isEmpty_iff.mp hempty) _ hmem
  intro hdenied
  rw [admission] at hdenied
  by_cases hisolated : p.isIsolated = true
  · simp [hisolated, hne] at hdenied
  · simp [hisolated] at hdenied

theorem PolicyModel.side_evaluate (m : PolicyModel) (topology : Topology) (t : Traffic)
    (d : Direction) : (m.evaluate topology t).side d =
      ((m.workload (t.subject d)).direction d).admission (t.peer d)
        (topology.namespaceOf (t.peer d)) t := by
  cases d <;> rfl

/-! ### Predicted cells -/

section Cells

variable {m : PolicyModel} {topology : Topology} {probe : Probe} {ignoreLoopback : Bool}
  {source destination : Workload} {port : UInt16} {row col : ℕ} {cell : Cell}

theorem Cell.tells_expected (e : Evaluation) : (Cell.expected e).Tells e := by
  have hsides : e.isAllowed = true ↔
      (Cell.expected e).egress = .allowed ∧ (Cell.expected e).ingress = .allowed := by
    rw [Evaluation.isAllowed, Bool.and_eq_true]
    exact and_congr Verdict.ofAllowed_eq_allowed_iff.symm Verdict.ofAllowed_eq_allowed_iff.symm
  refine ⟨rfl, rfl, ?_, ?_⟩
  · rw [← hsides]
    exact Verdict.ofAllowed_eq_allowed_iff
  · rw [← hsides, Bool.not_eq_true]
    exact Verdict.ofAllowed_eq_denied_iff

namespace Table

theorem expectedCell_of_reaches (h : probe.Reaches destination port) :
    expectedCell m topology probe source destination =
      .expected (m.evaluate topology ⟨source, destination, probe.protocol, port⟩) := by
  rw [expectedCell, Probe.resolve_eq_some_iff.mpr h]

theorem expectedCell_of_unreached (h : ∀ port, ¬ probe.Reaches destination port) :
    expectedCell m topology probe source destination =
      .unknown (some (probe.unresolved destination)) := by
  rw [expectedCell, Probe.resolve_eq_none_iff.mpr h]

/-- A cell of a predicted table is that of the workloads of its row and its column. -/
theorem cell?_expected_eq_some_iff :
    (expected m topology probe ignoreLoopback).cell? row col = some cell ↔
      ¬ (ignoreLoopback = true ∧ row = col) ∧
        ∃ source destination, topology.workloads[row]? = some source ∧
          topology.workloads[col]? = some destination ∧
            cell = expectedCell m topology probe source destination := by
  rw [expected, cell?_tabulate]
  simp only [Option.bind_eq_some_iff, Option.ite_none_left_eq_some, Option.some.injEq,
    Bool.and_eq_true, beq_iff_eq]
  constructor
  · rintro ⟨source, hsource, destination, hdestination, hloop, hcell⟩
    exact ⟨hloop, source, destination, hsource, hdestination, hcell.symm⟩
  · rintro ⟨hloop, source, destination, hsource, hdestination, hcell⟩
    exact ⟨source, hsource, destination, hdestination, hloop, hcell.symm⟩

/-- What the cell of a pair says, by the port that the probe reaches at the destination. -/
structure CellFollows (m : PolicyModel) (topology : Topology) (probe : Probe)
    (ignoreLoopback : Bool) (row col : ℕ) (cell : Cell) (source destination : Workload) :
    Prop where
  tested : ∀ port, probe.Reaches destination port →
    cell.Tells (m.evaluate topology ⟨source, destination, probe.protocol, port⟩)
  /-- The table for the number of the port has the same cell. -/
  numbered : ∀ port, probe.Reaches destination port →
    (expected m topology { probe with port := .number port } ignoreLoopback).cell? row col =
      some cell
  /-- A rule that names the port and is about the peer lets the flow pass. -/
  named : ∀ port name, probe.Reaches destination port → probe.port = .name name →
    let t : Traffic := ⟨source, destination, probe.protocol, port⟩
    ∀ d, ∀ r ∈ ((m.workload (t.subject d)).direction d).rules,
      .name probe.protocol name ∈ r.rule.ports →
      r.rule.acceptsPeer (t.peer d) (topology.namespaceOf (t.peer d)) = true →
        (m.evaluate topology t).side d ≠ .denied
  /-- Without a port the whole column is unknown. -/
  untested : (∀ port, ¬ probe.Reaches destination port) →
    ∀ row' cell', (expected m topology probe ignoreLoopback).cell? row' col = some cell' →
      cell'.verdict = .unknown ∧ cell'.evaluation = none

theorem side_ne_denied_of_named {name : String} (h : probe.Reaches destination port)
    (hname : probe.port = .name name) {d : Direction} {r : TargetRule} :
    let t : Traffic := ⟨source, destination, probe.protocol, port⟩
    r ∈ ((m.workload (t.subject d)).direction d).rules →
    .name probe.protocol name ∈ r.rule.ports →
    r.rule.acceptsPeer (t.peer d) (topology.namespaceOf (t.peer d)) = true →
      (m.evaluate topology t).side d ≠ .denied := by
  intro t hr hport hpeer
  have haccepts : r.rule.acceptsPort t.protocol t.port t.destination = true :=
    Rule.acceptsPort_of_mem hport (PortMatch.accepts_of_reaches hname h)
  rw [PolicyModel.side_evaluate]
  apply DirectionPolicy.admission_ne_denied hr
  rw [TargetRule.admits, hpeer, haccepts, Bool.and_self]

theorem cellFollows (hloop : ¬ (ignoreLoopback = true ∧ row = col))
    (hsource : topology.workloads[row]? = some source)
    (hdestination : topology.workloads[col]? = some destination) :
    CellFollows m topology probe ignoreLoopback row col
      (expectedCell m topology probe source destination) source destination where
  tested port hport := by
    rw [expectedCell_of_reaches hport]
    exact Cell.tells_expected _
  numbered port hport := by
    refine cell?_expected_eq_some_iff.mpr ⟨hloop, source, destination, hsource, hdestination, ?_⟩
    rw [expectedCell_of_reaches hport, expectedCell_of_reaches (probe.reaches_number _ port)]
  named port name hport hname d r hr hentry hpeer :=
    side_ne_denied_of_named hport hname hr hentry hpeer
  untested hnone row' cell' hcell' := by
    obtain ⟨_, source', destination', _, hdestination', rfl⟩ :=
      cell?_expected_eq_some_iff.mp hcell'
    obtain rfl : destination = destination' :=
      Option.some.inj (hdestination.symm.trans hdestination')
    rw [expectedCell_of_unreached hnone]
    exact ⟨rfl, rfl⟩

/-- The mode of a probe shows in a predicted table only as a part of the probe itself. -/
theorem expected_mode (m : PolicyModel) (topology : Topology) (probe : Probe)
    (ignoreLoopback : Bool) (mode : ProbeMode) :
    expected m topology { probe with mode := mode } ignoreLoopback =
      { expected m topology probe ignoreLoopback with probe := { probe with mode := mode } } :=
  rfl

/-- A predicted table has a cell for each pair that is tested, and the cell is how the model
evaluates the flow to the port that the probe reaches, be it given by number or by name. The mode
of the probe does not matter, and an entry that names the probed port matches wherever there is
such a port. -/
theorem expected_follows_evaluation (m : PolicyModel) (topology : Topology) (probe : Probe)
    (ignoreLoopback : Bool) :
    (∀ row col, ((expected m topology probe ignoreLoopback).cell? row col).isSome = true ↔
      row < topology.workloads.length ∧ col < topology.workloads.length ∧
        ¬ (ignoreLoopback = true ∧ row = col)) ∧
    (∀ row col cell, (expected m topology probe ignoreLoopback).cell? row col = some cell →
      ∃ source destination, topology.workloads[row]? = some source ∧
        topology.workloads[col]? = some destination ∧
          CellFollows m topology probe ignoreLoopback row col cell source destination) ∧
    (∀ mode, expected m topology { probe with mode := mode } ignoreLoopback =
      { expected m topology probe ignoreLoopback with probe := { probe with mode := mode } }) ∧
    ∀ name destination port, probe.port = .name name → probe.Reaches destination port →
      (PortMatch.name probe.protocol name).accepts probe.protocol port destination = true := by
  refine ⟨(shaped_tabulate _).isSome_cell?, ?_, expected_mode m topology probe ignoreLoopback, ?_⟩
  · intro row col cell hcell
    obtain ⟨hloop, source, destination, hsource, hdestination, rfl⟩ :=
      cell?_expected_eq_some_iff.mp hcell
    exact ⟨source, destination, hsource, hdestination, cellFollows hloop hsource hdestination⟩
  · intro name destination port hname hport
    exact PortMatch.accepts_of_reaches hname hport

/-- No pod is reached under a name that it gives to a port of another protocol. -/
example : (expected Sample.model Sample.topology ⟨.name "http", .udp, .podIp⟩ true).cell? 0 1 =
    some (.unknown (some "x/b has no UDP port named http")) := by decide +kernel

end Table

end Cells

namespace Sample

def web : Probe := ⟨.name "http", .tcp, .podIp⟩

/-- Lets pods `b` reach the web port of pods `a`, which it gives by its name. -/
def webRule : Rule := ⟨[.workloads (.named "x") (pods "b")], [.name .tcp "http"]⟩

def webModel : PolicyModel := .build ⟨[⟨⟨"x", "6"⟩, pods "a", some [webRule], none⟩]⟩ topology

/-- The named port is found at `a`, and the cell from `b` says what the number would. -/
theorem predicted_web :
    web.Reaches a 80 ∧
    ∃ cell, (Table.expected webModel topology web true).cell? 1 0 = some cell ∧
      cell.Tells (webModel.evaluate topology (request b a)) ∧ cell.verdict = .allowed ∧
      (Table.expected webModel topology { web with port := .number 80 } true).cell? 1 0 =
        some cell ∧
      (webModel.evaluate topology (request b a)).side .ingress ≠ .denied := by
  have hreaches : web.Reaches a 80 :=
    ⟨[], ⟨some "http", 80, .tcp⟩, [], rfl, ⟨rfl, rfl⟩, rfl, nofun⟩
  obtain ⟨hpresent, hcells, _, _⟩ := Table.expected_follows_evaluation webModel topology web true
  obtain ⟨cell, hcell⟩ := Option.isSome_iff_exists.mp
    ((hpresent 1 0).mpr ⟨by decide, by decide, by decide⟩)
  obtain ⟨source, destination, hsource, hdestination, hfollows⟩ := hcells 1 0 cell hcell
  obtain rfl : b = source := Option.some.inj hsource
  obtain rfl : a = destination := Option.some.inj hdestination
  have htells : cell.Tells (webModel.evaluate topology (request b a)) := hfollows.tested 80 hreaches
  have hrules : ((webModel.workload a).direction .ingress).rules = [⟨⟨"x", "6"⟩, 0, webRule⟩] := by
    cbv
  refine ⟨hreaches, cell, hcell, htells, htells.allowed.mpr ⟨?_, ?_⟩,
    hfollows.numbered 80 hreaches, ?_⟩
  · rw [Cell.egress, htells.evaluation]
    cbv
  · rw [Cell.ingress, htells.evaluation]
    cbv
  · have hmem : ⟨⟨"x", "6"⟩, 0, webRule⟩ ∈ ((webModel.workload a).direction .ingress).rules := by
      rw [hrules]
      exact List.mem_cons_self
    exact hfollows.named 80 "http" hreaches rfl .ingress _ hmem List.mem_cons_self (by cbv)

end Sample

end PolicyReach
