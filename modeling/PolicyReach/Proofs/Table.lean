import PolicyReach.Comparison
import PolicyReach.Proofs.Topology

/-!
# Cells of tables

A table over a topology has a cell for each pair of workloads, found by their places or by the
workloads themselves. Writing a cell leaves the others alone, and comparing two such tables compares
them pair by pair.
-/
namespace PolicyReach

namespace Topology

/-- The pairs of workloads that have a cell, row by row. -/
def pairs (t : Topology) (ignoreLoopback : Bool) : List (Workload × Workload) :=
  (t.workloads ×ˢ t.workloads).filter fun p => !(ignoreLoopback && p.1.id == p.2.id)

/-- A slot for each pair of workloads, which is filled where the pair has a cell. -/
def grid {α : Type} (t : Topology) (ignoreLoopback : Bool) (cell : Workload → Workload → α) :
    List (List (Option α)) :=
  t.workloads.map fun source => t.workloads.map fun destination =>
    if ignoreLoopback && source.id == destination.id then none else some (cell source destination)

theorem nodup_workloads (t : Topology) : t.workloads.Nodup := List.Nodup.of_map _ t.ids_nodup

theorem mem_pairs_iff {t : Topology} {ignoreLoopback : Bool} {p : Workload × Workload} :
    p ∈ t.pairs ignoreLoopback ↔ p.1 ∈ t.workloads ∧ p.2 ∈ t.workloads ∧
      ¬ (ignoreLoopback = true ∧ p.1.id = p.2.id) := by
  obtain ⟨source, destination⟩ := p
  rw [pairs, List.mem_filter, List.mem_product, and_assoc]
  simp only [Bool.not_eq_true', Bool.and_eq_false_iff, beq_eq_false_iff_ne, not_and_or,
    Bool.not_eq_true, ne_eq]

theorem nodup_pairs (t : Topology) (ignoreLoopback : Bool) : (t.pairs ignoreLoopback).Nodup :=
  (t.nodup_workloads.product t.nodup_workloads).filter _

/-- No two pairs with a cell have the same ids. -/
theorem pairwise_pairs (t : Topology) (ignoreLoopback : Bool) :
    (t.pairs ignoreLoopback).Pairwise fun p q => (p.1.id, p.2.id) ≠ (q.1.id, q.2.id) := by
  refine (t.nodup_pairs ignoreLoopback).imp_of_mem ?_
  intro p q hp hq hne heq
  obtain ⟨hsource, hdestination⟩ := Prod.mk.inj heq
  have hp := mem_pairs_iff.mp hp
  have hq := mem_pairs_iff.mp hq
  exact hne (Prod.ext (eq_of_id_eq hp.1 hq.1 hsource)
    (eq_of_id_eq hp.2.1 hq.2.1 hdestination))

theorem id_getElem_inj {t : Topology} {i j : ℕ} (hi : i < t.workloads.length)
    (hj : j < t.workloads.length) : t.workloads[i].id = t.workloads[j].id ↔ i = j := by
  have hlen : t.ids.length = t.workloads.length := by rw [ids, List.length_map]
  have hids : t.ids[i] = t.ids[j] ↔ i = j := t.ids_nodup.getElem_inj_iff
  simpa [ids] using hids

/-- Whether a pair is one of a workload with itself can be told from places and from ids. -/
theorem mapIdx_eq_grid {α : Type} (t : Topology) (ignoreLoopback : Bool)
    (cell : Workload → Workload → α) :
    (t.workloads.mapIdx fun row source => t.workloads.mapIdx fun col destination =>
      if ignoreLoopback && row == col then none else some (cell source destination)) =
      t.grid ignoreLoopback cell := by
  refine List.ext_getElem (by simp [grid]) fun row hrow _ => ?_
  refine List.ext_getElem (by simp [grid]) fun col hcol _ => ?_
  simp only [List.length_mapIdx, List.getElem_mapIdx] at hrow hcol
  have hids := id_getElem_inj hrow hcol
  simp [grid, hids]

end Topology

namespace Table

variable {probe : Probe} {topology : Topology} {ignoreLoopback : Bool}
  {cell : Workload → Workload → Cell}

/-! ### Reading and writing -/

theorem cell?_tabulate (row col : ℕ) :
    (tabulate probe topology ignoreLoopback cell).cell? row col =
      topology.workloads[row]?.bind fun source => topology.workloads[col]?.bind fun destination =>
        if ignoreLoopback && row == col then none else some (cell source destination) := by
  rw [cell?, tabulate]
  simp only [List.getElem?_mapIdx]
  cases topology.workloads[row]? with
  | none => rfl
  | some source =>
    simp only [Option.map_some, Option.bind_some, List.getElem?_mapIdx]
    cases topology.workloads[col]? <;> rfl

theorem cell?_set (t : Table) (row col : ℕ) (new : Cell) (i j : ℕ) :
    (t.set row col new).cell? i j =
      if (i, j) = (row, col) then (t.cell? i j).map fun _ => new else t.cell? i j := by
  simp only [cell?, set, List.getElem?_modify, Prod.mk.injEq]
  cases t.rows[i]? with
  | none => simp
  | some cells =>
    by_cases hi : row = i
    · subst hi
      by_cases hj : col = j
      · subst hj
        cases h : cells[col]? <;> simp [h]
      · have : ¬ j = col := fun h => hj h.symm
        cases h : cells[j]? <;> simp [h, hj, this]
    · have : ¬ i = row := fun h => hi h.symm
      simp [hi, this]

/-- What a list holds at a place is found there first if nothing in it repeats. -/
theorem findIdx?_getElem {α : Type} [BEq α] [LawfulBEq α] {l : List α} (h : l.Nodup) {i : ℕ}
    (hi : i < l.length) : l.findIdx? (· == l[i]) = some i := by
  rw [List.findIdx?_eq_some_iff_getElem]
  refine ⟨hi, beq_self_eq_true _, fun j hj heq => ?_⟩
  have hplace : j = i := h.getElem_inj_iff.mp (eq_of_beq heq)
  omega

/-- Where no id repeats, cells are found by ids as they are by places. -/
theorem get?_getElem {t : Table} (hs : t.sources.Nodup) (hd : t.destinations.Nodup) {row col : ℕ}
    (hrow : row < t.sources.length) (hcol : col < t.destinations.length) :
    t.get? t.sources[row] t.destinations[col] = t.cell? row col := by
  simp [get?, findIdx?_getElem hs hrow, findIdx?_getElem hd hcol]

theorem get?_eq_none {t : Table} {source destination : WorkloadId}
    (h : source ∉ t.sources ∨ destination ∉ t.destinations) :
    t.get? source destination = none := by
  have hnone {l : List WorkloadId} {id : WorkloadId} (hid : id ∉ l) :
      l.findIdx? (· == id) = none := by
    rw [List.findIdx?_eq_none_iff]
    intro other hother
    exact beq_false_of_ne fun heq => hid (heq ▸ hother)
  rcases h with h | h
  · simp [get?, hnone h]
  · cases hs : t.sources.findIdx? (· == source) <;> simp [get?, hs, hnone h]

theorem get?_tabulate {source destination : Workload} (hs : source ∈ topology.workloads)
    (hd : destination ∈ topology.workloads) :
    (tabulate probe topology ignoreLoopback cell).get? source.id destination.id =
      if ignoreLoopback && source.id == destination.id then none
      else some (cell source destination) := by
  obtain ⟨row, hrow, rfl⟩ := List.getElem_of_mem hs
  obtain ⟨col, hcol, rfl⟩ := List.getElem_of_mem hd
  have hids := topology.id_getElem_inj hrow hcol
  have hget := get?_getElem (t := tabulate probe topology ignoreLoopback cell)
    topology.ids_nodup topology.ids_nodup
    (show row < topology.ids.length by simpa [Topology.ids] using hrow)
    (show col < topology.ids.length by simpa [Topology.ids] using hcol)
  rw [cell?_tabulate] at hget
  simpa [tabulate, Topology.ids, hrow, hcol, hids] using hget

/-- Tables over the same workloads are told apart by their cells. -/
theorem eq_of_cell?_eq {t u : Table} (hprobe : t.probe = u.probe) (hs : t.sources = u.sources)
    (hd : t.destinations = u.destinations) (hcell : ∀ row col, t.cell? row col = u.cell? row col) :
    t = u := by
  have hlen : t.rows.length = u.rows.length := by rw [t.height, u.height, hs]
  have hrows : t.rows = u.rows := by
    refine List.ext_getElem hlen fun i hi hi' => ?_
    have hwidth : t.rows[i].length = u.rows[i].length := by
      rw [t.width _ (List.getElem_mem hi), u.width _ (List.getElem_mem hi'), hd]
    refine List.ext_getElem hwidth fun j hj hj' => ?_
    have := hcell i j
    simpa [cell?, hi, hi', hj, hj'] using this
  obtain ⟨_, _, _, _, _, _⟩ := t
  obtain ⟨_, _, _, _, _, _⟩ := u
  simp only [mk.injEq]
  exact ⟨hprobe, hs, hd, hrows⟩

/-! ### Comparing -/

theorem slots_tabulate : (tabulate probe topology ignoreLoopback cell).slots =
    (topology.workloads ×ˢ topology.workloads).map fun p =>
      (p.1.id, p.2.id, if ignoreLoopback && p.1.id == p.2.id then none else some (cell p.1 p.2)) := by
  rw [slots, tabulate]
  simp only [topology.mapIdx_eq_grid]
  simp only [Topology.grid, Topology.ids, List.zip_map', List.flatMap_map, List.map_map,
    SProd.sprod, List.product, List.map_flatMap]
  rfl

theorem compare_tabulate {expected observed : Workload → Workload → Cell} :
    compare (tabulate probe topology ignoreLoopback expected)
      (tabulate probe topology ignoreLoopback observed) =
      .ok ⟨probe, topology.ids, topology.ids, topology.grid ignoreLoopback fun source destination =>
        .of (expected source destination).verdict (observed source destination).verdict⟩ := by
  have hpaired : firstUnpaired? (tabulate probe topology ignoreLoopback expected)
      (tabulate probe topology ignoreLoopback observed) = none := by
    rw [firstUnpaired?, slots_tabulate, slots_tabulate, List.zip_map', Option.map_eq_none_iff,
      List.find?_eq_none]
    intro slot hslot
    obtain ⟨p, _, rfl⟩ := List.mem_map.mp hslot
    cases ignoreLoopback && p.1.id == p.2.id <;> simp
  rw [compare, hpaired]
  simp only [tabulate, size, topology.mapIdx_eq_grid, ne_eq, not_true_eq_false, if_false, or_self,
    Except.ok.injEq, Comparison.mk.injEq, true_and, Topology.grid, List.zipWith_map,
    List.zipWith_self]
  refine List.map_congr_left fun source _ => List.map_congr_left fun destination _ => ?_
  cases ignoreLoopback && source.id == destination.id <;> rfl

end Table

namespace Comparison

/-- A comparison of a topology lists its pairs in their order. -/
theorem entries_grid {probe : Probe} {topology : Topology} {ignoreLoopback : Bool}
    {agreement : Workload → Workload → Agreement} :
    entries ⟨probe, topology.ids, topology.ids, topology.grid ignoreLoopback agreement⟩ =
      (topology.pairs ignoreLoopback).map fun p => (p.1.id, p.2.id, agreement p.1 p.2) := by
  have hrow (source : Workload) (l : List Workload) :
      (l.map fun w => (w.id, if ignoreLoopback && source.id == w.id then none
        else some (agreement source w))).filterMap
          (fun p => p.2.map fun a => (source.id, p.1, a)) =
        ((l.map (Prod.mk source)).filter fun p => !(ignoreLoopback && p.1.id == p.2.id)).map
          fun p => (p.1.id, p.2.id, agreement p.1 p.2) := by
    induction l with
    | nil => rfl
    | cons w rest ih =>
      rw [List.map_cons, List.map_cons, List.filterMap_cons, List.filter_cons, ih]
      cases ignoreLoopback && source.id == w.id <;> rfl
  simp only [entries, Topology.grid, Topology.ids, Topology.pairs, List.zip_map', List.flatMap_map,
    SProd.sprod, List.product, List.filter_flatMap, List.map_flatMap]
  refine List.flatMap_congr fun source _ => ?_
  exact hrow source topology.workloads

end Comparison

end PolicyReach
