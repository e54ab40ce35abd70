import PolicyReach.Evaluation
import PolicyReach.Probe

/-!
# Tables of verdicts

A table has a row for each source and a column for each destination. Where loopback is ignored,
the pairs of a workload with itself have no cell.
-/
namespace PolicyReach

structure Cell where
  verdict : Verdict
  /-- How an expected cell was decided. -/
  evaluation : Option Evaluation
  detail : Option String
  deriving DecidableEq

structure Table where
  probe : Probe
  sources : List WorkloadId
  destinations : List WorkloadId
  rows : List (List (Option Cell))
  height : rows.length = sources.length
  width : ∀ row ∈ rows, row.length = destinations.length
  deriving DecidableEq

namespace Cell

def expected (e : Evaluation) : Cell := ⟨e.verdict, some e, none⟩

def observed (v : Verdict) (detail : String) : Cell := ⟨v, none, some detail⟩

def unknown (detail : Option String) : Cell := ⟨.unknown, none, detail⟩

def egress (c : Cell) : Verdict := (c.evaluation.map (·.egress.verdict)).getD .unknown

def ingress (c : Cell) : Verdict := (c.evaluation.map (·.ingress.verdict)).getD .unknown

end Cell

namespace Table

/-- A table over all pairs of workloads, each cell made from the pair. -/
def tabulate (probe : Probe) (topology : Topology) (ignoreLoopback : Bool)
    (cell : Workload → Workload → Cell) : Table where
  probe := probe
  sources := topology.ids
  destinations := topology.ids
  rows := topology.workloads.mapIdx fun row source =>
    topology.workloads.mapIdx fun col destination =>
      if ignoreLoopback && row == col then none else some (cell source destination)
  height := by simp [Topology.ids]
  width := by
    intro row h
    obtain ⟨i, hi, rfl⟩ := List.mem_mapIdx.mp h
    simp [Topology.ids]

def blank (probe : Probe) (topology : Topology) (ignoreLoopback : Bool) : Table :=
  tabulate probe topology ignoreLoopback fun _ _ => .unknown none

def expectedCell (model : PolicyModel) (topology : Topology) (probe : Probe)
    (source destination : Workload) : Cell :=
  match probe.resolve destination with
  | none => .unknown (some (probe.unresolved destination))
  | some port => .expected (model.evaluate topology ⟨source, destination, probe.protocol, port⟩)

/-- The verdicts that the model predicts. -/
def expected (model : PolicyModel) (topology : Topology) (probe : Probe) (ignoreLoopback : Bool) :
    Table :=
  tabulate probe topology ignoreLoopback (expectedCell model topology probe)

def cell? (t : Table) (row col : Nat) : Option Cell :=
  (t.rows[row]?.bind fun cells => cells[col]?).join

def get? (t : Table) (source destination : WorkloadId) : Option Cell := do
  let row ← t.sources.findIdx? (· == source)
  let col ← t.destinations.findIdx? (· == destination)
  t.cell? row col

/-- Replaces a cell; a pair that has no cell is given none. -/
def set (t : Table) (row col : Nat) (cell : Cell) : Table :=
  { t with
    rows := t.rows.modify row fun cells => cells.modify col fun slot => slot.map fun _ => cell
    height := by simpa using t.height
    width := by
      intro cells h
      obtain ⟨i, hi⟩ := List.mem_iff_getElem?.mp h
      rw [List.getElem?_modify] at hi
      obtain ⟨old, hold, rfl⟩ := Option.map_eq_some_iff.mp hi
      have := t.width old (List.mem_of_getElem? hold)
      split <;> simpa using this }

/-- Every pair row by row, with its cell if it has one. -/
def slots (t : Table) : List (WorkloadId × WorkloadId × Option Cell) :=
  (t.sources.zip t.rows).flatMap fun (source, cells) =>
    (t.destinations.zip cells).map fun (destination, cell) => (source, destination, cell)

/-- The cells that there are, row by row. -/
def entries (t : Table) : List (WorkloadId × WorkloadId × Cell) :=
  t.slots.filterMap fun (source, destination, cell) => cell.map (source, destination, ·)

def length (t : Table) : Nat := t.entries.length

def count (t : Table) (v : Verdict) : Nat := t.entries.countP fun e => e.2.2.verdict = v

end Table

end PolicyReach
