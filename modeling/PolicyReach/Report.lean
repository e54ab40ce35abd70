import PolicyReach.Comparison
import PolicyReach.Text.Grid

/-!
# Reports
-/
namespace PolicyReach

namespace Admission

def text : Admission → String
  | .unisolated => "unisolated"
  | .denied => "denied"
  | .allowed policies =>
    "allowed by " ++ String.intercalate ", " (policies.toList.map PolicyRef.text)

end Admission

/-- A grid of symbols with a row per source and a column per destination. -/
def symbolGrid (sources destinations : List WorkloadId) (symbols : List (List String)) : String :=
  Text.grid (("-" :: destinations.map (·.text)) ::
    List.zipWith (fun source row => source.text :: row) sources symbols)

namespace Cell

def admissionsText (c : Cell) : List String :=
  match c.evaluation with
  | some e => [e.egress.text, e.ingress.text]
  | none => ["-", "-"]

end Cell

namespace Table

def renderWith (t : Table) (verdict : Cell → Verdict) : String :=
  symbolGrid t.sources t.destinations <|
    t.rows.map fun cells => cells.map fun cell => (cell.map fun c => (verdict c).symbol).getD ""

def render (t : Table) : String := t.renderWith (·.verdict)

def renderIngress (t : Table) : String := t.renderWith (·.ingress)

def renderEgress (t : Table) : String := t.renderWith (·.egress)

/-- A row for each cell, with the policies that decided it. -/
def renderDetails (t : Table) : String :=
  Text.grid (["Source", "Destination", "Verdict", "Egress", "Ingress", "Detail"] ::
    t.entries.map fun (source, destination, cell) =>
      [source.text, destination.text, cell.verdict.text] ++ cell.admissionsText ++
        [cell.detail.getD ""])

/-- A row for each expected cell, next to what was observed for the pair. -/
def renderOutcomes (expected observed : Table) : String :=
  Text.grid (["Source", "Destination", "Expected", "Observed", "Egress", "Ingress", "Detail"] ::
    expected.entries.map fun (source, destination, cell) =>
      let seen := observed.get? source destination
      let verdict := (seen.map Cell.verdict).getD .unknown
      let detail := (seen.bind Cell.detail).or cell.detail
      [source.text, destination.text, cell.verdict.text, verdict.text] ++ cell.admissionsText ++
        [detail.getD ""])

end Table

namespace Comparison

def render (c : Comparison) : String :=
  symbolGrid c.sources c.destinations <|
    c.rows.map fun cells => cells.map fun cell => (cell.map Agreement.symbol).getD ""

end Comparison

namespace ContainerPort

def text (p : ContainerPort) : String :=
  let number := p.protocol.name ++ "/" ++ toString p.port.toNat
  match p.name with
  | some name => number ++ " (" ++ name ++ ")"
  | none => number

end ContainerPort

namespace Topology

def render (t : Topology) : String :=
  Text.grid (["Namespace", "Namespace labels", "Workload", "Workload labels", "IP", "Ports"] ::
    t.workloads.map fun w =>
      [w.ns, ((t.namespace? w.ns).map fun n => Labels.text n.labels).getD "", w.name,
        Labels.text w.labels, w.ip.text, String.intercalate "\n" (w.ports.map ContainerPort.text)])

end Topology

/-- A titled part of a report, with an empty line behind it. -/
def titled (title : String) (probe : Probe) (body : String) : String :=
  title ++ " (" ++ probe.text ++ "):\n" ++ body ++ "\n\n"

namespace Table

def report (t : Table) (directions noisy : Bool) : String :=
  titled "Expected" t.probe t.render ++
    (if directions then
      titled "Ingress" t.probe t.renderIngress ++ titled "Egress" t.probe t.renderEgress
    else "") ++
    (if noisy then titled "Cells" t.probe t.renderDetails else "")

end Table

namespace Comparison

def report (c : Comparison) (expected observed : Table) (noisy : Bool) : String :=
  expected.report false false ++ titled "Observed" expected.probe observed.render ++
    titled "Comparison" expected.probe c.render ++
    (if noisy then titled "Cells" expected.probe (expected.renderOutcomes observed) else "")

end Comparison

end PolicyReach
