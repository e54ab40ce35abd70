import PolicyReach.Table

/-!
# Comparing an observed table with the expected one

A cell that either table could not determine is a gap and no disagreement.
-/
namespace PolicyReach

inductive Agreement where
  | agree (verdict : Verdict)
  | mismatch (expected observed : Verdict)
  | gap
  deriving DecidableEq

structure Comparison where
  probe : Probe
  sources : List WorkloadId
  destinations : List WorkloadId
  rows : List (List (Option Agreement))
  deriving DecidableEq

/-- Why two tables cannot be compared cell by cell. -/
inductive ShapeMismatch where
  | probe (expected observed : Probe)
  | dimensions (expected observed : Nat × Nat)
  | ordering
  | cell (source destination : WorkloadId)
  deriving DecidableEq

namespace ShapeMismatch

def sizeText (size : Nat × Nat) : String := toString size.1 ++ "x" ++ toString size.2

def message : ShapeMismatch → String
  | .probe expected observed =>
    "expected a table for " ++ expected.text ++ ", observed a table for " ++ observed.text
  | .dimensions expected observed =>
    "expected a " ++ sizeText expected ++ " table, observed " ++ sizeText observed
  | .ordering => "tables order their workloads differently"
  | .cell source destination =>
    "only one table holds a cell for " ++ source.text ++ " -> " ++ destination.text

end ShapeMismatch

namespace Agreement

def of : Verdict → Verdict → Agreement
  | .unknown, _ | _, .unknown => .gap
  | e, o => if e = o then .agree e else .mismatch e o

def symbol : Agreement → String
  | .agree _ => "."
  | .mismatch .. => "X"
  | .gap => "?"

def ofCells : Option Cell → Option Cell → Option Agreement
  | some e, some o => some (of e.verdict o.verdict)
  | _, _ => none

end Agreement

namespace Table

def size (t : Table) : Nat × Nat := (t.sources.length, t.destinations.length)

/-- The first pair for which only one of the tables has a cell. -/
def firstUnpaired? (expected observed : Table) : Option (WorkloadId × WorkloadId) :=
  ((expected.slots.zip observed.slots).find? fun (e, o) => e.2.2.isSome != o.2.2.isSome).map
    fun (e, _) => (e.1, e.2.1)

def compare (expected observed : Table) : Except ShapeMismatch Comparison :=
  if expected.probe ≠ observed.probe then .error (.probe expected.probe observed.probe)
  else if expected.size ≠ observed.size then .error (.dimensions expected.size observed.size)
  else if expected.sources ≠ observed.sources ∨ expected.destinations ≠ observed.destinations then
    .error .ordering
  else match firstUnpaired? expected observed with
    | some (source, destination) => .error (.cell source destination)
    | none =>
      .ok ⟨expected.probe, expected.sources, expected.destinations,
        List.zipWith (List.zipWith Agreement.ofCells) expected.rows observed.rows⟩

end Table

namespace Comparison

def cell? (c : Comparison) (row col : Nat) : Option Agreement :=
  (c.rows[row]?.bind fun cells => cells[col]?).join

def get? (c : Comparison) (source destination : WorkloadId) : Option Agreement := do
  let row ← c.sources.findIdx? (· == source)
  let col ← c.destinations.findIdx? (· == destination)
  c.cell? row col

/-- The cells that there are, row by row. -/
def entries (c : Comparison) : List (WorkloadId × WorkloadId × Agreement) :=
  (c.sources.zip c.rows).flatMap fun (source, cells) =>
    (c.destinations.zip cells).filterMap fun (destination, cell) =>
      cell.map (source, destination, ·)

def mismatch? : WorkloadId × WorkloadId × Agreement →
    Option (WorkloadId × WorkloadId × Verdict × Verdict)
  | (source, destination, .mismatch e o) => some (source, destination, e, o)
  | _ => none

def mismatches (c : Comparison) : List (WorkloadId × WorkloadId × Verdict × Verdict) :=
  c.entries.filterMap mismatch?

def agreed (c : Comparison) : Nat :=
  c.entries.countP fun e => match e.2.2 with | .agree _ => true | _ => false

def mismatched (c : Comparison) : Nat :=
  c.entries.countP fun e => match e.2.2 with | .mismatch .. => true | _ => false

def gaps (c : Comparison) : Nat := c.entries.countP fun e => e.2.2 = .gap

def isConsistent (c : Comparison) : Bool := c.mismatched == 0

end Comparison

end PolicyReach
