import PolicyReach.Proofs.Layout
import PolicyReach.Proofs.Resolution
import PolicyReach.Proofs.VirtualTime

/-!
# Tables of one topology

Tables are made in three ways: predicted by a model, blank, or written by a live run. For one
topology, probe and treatment of loopback all of them have the same shape, at any point of a run. So
every accessor finds the same cells, and any two of these tables can be compared.
-/
namespace PolicyReach

namespace Table

variable {t u : Table} {probe : Probe} {topology : Topology} {ignoreLoopback : Bool}

/-- A table over the pairs of a topology that has all cells but those of loopback, if that is
ignored. -/
structure Shaped (t : Table) (probe : Probe) (topology : Topology) (ignoreLoopback : Bool) :
    Prop where
  probe_eq : t.probe = probe
  sources_eq : t.sources = topology.ids
  destinations_eq : t.destinations = topology.ids
  isSome_cell? : ∀ row col, (t.cell? row col).isSome = true ↔
    row < topology.workloads.length ∧ col < topology.workloads.length ∧
      ¬ (ignoreLoopback = true ∧ row = col)

theorem shaped_tabulate (cell : Workload → Workload → Cell) :
    (tabulate probe topology ignoreLoopback cell).Shaped probe topology ignoreLoopback := by
  refine ⟨rfl, rfl, rfl, fun row col => ?_⟩
  rw [cell?_tabulate]
  by_cases hrow : row < topology.workloads.length
  · by_cases hcol : col < topology.workloads.length
    · simp only [List.getElem?_eq_getElem hrow, List.getElem?_eq_getElem hcol, Option.bind_some,
        hrow, hcol, true_and]
      by_cases hloop : ignoreLoopback = true ∧ row = col
      · simp [hloop]
      · have hcell : (ignoreLoopback && row == col) = false := by simpa using hloop
        simp [hloop, hcell]
    · simp [hcol]
  · simp [hrow]

/-- Writing a cell gives a pair no cell that it did not have. -/
theorem Shaped.set (h : t.Shaped probe topology ignoreLoopback) (row col : ℕ) (cell : Cell) :
    (t.set row col cell).Shaped probe topology ignoreLoopback := by
  refine ⟨h.probe_eq, h.sources_eq, h.destinations_eq, fun i j => ?_⟩
  rw [← h.isSome_cell? i j, cell?_set]
  split
  · rw [Option.isSome_map]
  · rfl

/-! ### Live runs -/

variable {c : LiveConfig} {s s' : Live.State} {e : Live.Event}

/-- An event writes one cell or none. -/
theorem table_of_next (h : Live.next c s e = some s') :
    s'.table = s.table ∨ ∃ row col cell, s'.table = s.table.set row col cell := by
  unfold Live.next at h
  split at h
  · cases h
  · cases e with
    | dispatch =>
      left
      simp only at h
      split at h
      · split at h
        · rw [← Option.some.inj h]
        · cases h
      · cases h
    | answer row col reply =>
      obtain ⟨f, _, hreply⟩ := Option.map_eq_some_iff.mp h
      split at hreply
      · exact .inr ⟨f.ticket.row, f.ticket.col, .ofReply reply, by rw [← hreply]; rfl⟩
      · exact .inl (by rw [← hreply, Live.table_retry])
    | cancel =>
      left
      rw [← Option.some.inj h]

theorem Shaped.next (h : s.table.Shaped probe topology ignoreLoopback)
    (hnext : Live.next c s e = some s') : s'.table.Shaped probe topology ignoreLoopback := by
  rcases table_of_next hnext with heq | ⟨row, col, cell, heq⟩
  · exact heq ▸ h
  · exact heq ▸ h.set row col cell

/-- No run changes the shape of its table. -/
theorem Shaped.reaches (h : s.table.Shaped probe topology ignoreLoopback)
    (hrun : Live.Reaches c s s') : s'.table.Shaped probe topology ignoreLoopback := by
  induction hrun with
  | refl => exact h
  | tail _ hstep ih =>
    obtain ⟨e, hnext⟩ := hstep
    exact ih.next hnext

/-! ### The three ways of making a table -/

/-- The tables that are made for a topology. A live run has one at each point, whatever the agent
replies, in which order it does and whether the run is cancelled. -/
inductive Made (probe : Probe) (topology : Topology) (ignoreLoopback : Bool) : Table → Prop
  | expected (m : PolicyModel) :
    Made probe topology ignoreLoopback (.expected m topology probe ignoreLoopback)
  | blank : Made probe topology ignoreLoopback (.blank probe topology ignoreLoopback)
  | live (c : LiveConfig) (domain : String) {s : Live.State}
    (hflag : c.ignoreLoopback = ignoreLoopback)
    (hrun : Live.Reaches c (Live.initial c domain topology probe) s) :
    Made probe topology ignoreLoopback s.table

/-- What a run in virtual time returns is such a table. -/
theorem made_run (c : LiveConfig) (domain : String) (agent : Agent) (cancelAfter : Option ℕ) :
    Made probe topology c.ignoreLoopback
      (Live.Clock.run c agent cancelAfter (Live.initial c domain topology probe)).state.table :=
  .live c domain rfl (Live.Clock.run_reaches c agent cancelAfter _)

theorem Made.shaped (h : Made probe topology ignoreLoopback t) :
    t.Shaped probe topology ignoreLoopback := by
  cases h with
  | expected m => exact shaped_tabulate _
  | blank => exact shaped_tabulate _
  | live c domain hflag hrun =>
    have hstart : (Live.initial c domain topology probe).table.Shaped probe topology
        c.ignoreLoopback := shaped_tabulate _
    exact hflag ▸ hstart.reaches hrun

/-! ### What the shape tells -/

/-- In each row of a square all places but one are off the diagonal. -/
theorem countP_off_diagonal {α : Type} {l : List α} {row : ℕ} (hrow : row < l.length) :
    l.zipIdx.countP (fun p => p.2 != row) = l.length - 1 := by
  have hone : l.zipIdx.countP (fun p => p.2 == row) = 1 := by
    have hcount : (l.zipIdx.map Prod.snd).count row = 1 := by
      rw [List.zipIdx_map_snd]
      exact List.count_eq_one_of_mem List.nodup_range' (by simpa using hrow)
    rwa [List.count, List.countP_map] at hcount
  have htotal := List.length_eq_countP_add_countP (fun p : α × ℕ => p.2 == row) (l := l.zipIdx)
  rw [hone, List.length_zipIdx] at htotal
  have hne : l.zipIdx.countP (fun p => p.2 != row) =
      l.zipIdx.countP fun p => decide ¬ (p.2 == row) = true :=
    List.countP_congr fun p _ => by simp
  omega

theorem countP_places_off_diagonal {α : Type} (l : List α) :
    (places l l).countP (fun p => p.2.2 != p.1.2) = l.length * l.length - l.length := by
  have hrow : l.zipIdx.map (fun p => (l.zipIdx.map (Prod.mk p)).countP fun q => q.2.2 != q.1.2) =
      l.zipIdx.map fun _ => l.length - 1 := by
    refine List.map_congr_left fun p hp => ?_
    obtain ⟨hlt, _⟩ := List.getElem?_eq_some_iff.mp (List.mk_mem_zipIdx_iff_getElem?.mp hp)
    rw [List.countP_map]
    exact countP_off_diagonal hlt
  simp only [places, SProd.sprod, List.product, List.countP_flatMap, Function.comp_def]
  rw [hrow, List.map_const', List.sum_replicate, List.length_zipIdx, smul_eq_mul,
    Nat.mul_sub_one]

theorem Shaped.length_eq (h : t.Shaped probe topology ignoreLoopback) :
    t.length = if ignoreLoopback then
        topology.workloads.length * topology.workloads.length - topology.workloads.length
      else topology.workloads.length * topology.workloads.length := by
  have hids : topology.ids.length = topology.workloads.length := List.length_map _
  have hpresent : t.length = (places topology.ids topology.ids).countP
      fun p => !(ignoreLoopback && p.2.2 == p.1.2) := by
    rw [length_eq_countP, h.sources_eq, h.destinations_eq]
    refine List.countP_congr fun p hp => ?_
    obtain ⟨hrow, hcol⟩ := lt_of_mem_places hp
    rw [h.isSome_cell?, ← hids, Bool.not_eq_true', Bool.and_eq_false_iff, beq_eq_false_iff_ne,
      not_and_or, Bool.not_eq_true, ne_eq, @eq_comm ℕ p.2.2]
    exact ⟨fun hcell => hcell.2.2, fun hcell => ⟨hrow, hcol, hcell⟩⟩
  rw [hpresent, ← hids]
  cases ignoreLoopback with
  | false =>
    simp only [Bool.false_and, Bool.not_false, List.countP_true, Bool.false_eq_true, if_false]
    rw [places, List.length_product, List.length_zipIdx]
  | true =>
    simp only [Bool.true_and, if_true]
    exact countP_places_off_diagonal topology.ids

/-- All ways to the cells of a table with a row and a column for each workload agree. -/
structure LaidOut (t : Table) (topology : Topology) (ignoreLoopback : Bool) : Prop where
  ids : t.sources = topology.ids ∧ t.destinations = topology.ids ∧ topology.ids.Nodup
  present : ∀ row col, (t.cell? row col).isSome = true ↔
    row < topology.workloads.length ∧ col < topology.workloads.length ∧
      ¬ (ignoreLoopback = true ∧ row = col)
  size : t.flat.length = topology.workloads.length * topology.workloads.length
  /-- The number that a place has is that of a slot, which is the one of the place. -/
  numbered : ∀ row col, row < topology.workloads.length → col < topology.workloads.length →
    row * topology.workloads.length + col < t.flat.length ∧
      t.flat[row * topology.workloads.length + col]? = some (t.cell? row col)
  /-- The number of a slot tells its place. -/
  placed : ∀ i < t.flat.length, i / topology.workloads.length < topology.workloads.length ∧
    i % topology.workloads.length < topology.workloads.length ∧
      t.flat[i]? = some (t.cell? (i / topology.workloads.length) (i % topology.workloads.length))
  found : ∀ row col (hrow : row < topology.ids.length) (hcol : col < topology.ids.length),
    t.get? topology.ids[row] topology.ids[col] = t.cell? row col
  missing : ∀ source destination, source ∉ topology.ids ∨ destination ∉ topology.ids →
    t.get? source destination = none
  /-- The places are gone through row by row. -/
  listed : t.entries = (places topology.ids topology.ids).filterMap fun p =>
    (t.cell? p.1.2 p.2.2).map fun cell => (p.1.1, p.2.1, cell)
  length : t.length = if ignoreLoopback then
      topology.workloads.length * topology.workloads.length - topology.workloads.length
    else topology.workloads.length * topology.workloads.length
  counted : t.count .allowed + t.count .denied + t.count .unknown = t.length

theorem Shaped.laidOut (h : t.Shaped probe topology ignoreLoopback) :
    t.LaidOut topology ignoreLoopback := by
  have hids : topology.ids.length = topology.workloads.length := List.length_map _
  have hheight : t.sources.length = topology.workloads.length := by rw [h.sources_eq, hids]
  have hwidth : t.destinations.length = topology.workloads.length := by
    rw [h.destinations_eq, hids]
  have hsize : t.flat.length = topology.workloads.length * topology.workloads.length := by
    rw [length_flat, hheight, hwidth]
  refine ⟨⟨h.sources_eq, h.destinations_eq, topology.ids_nodup⟩, h.isSome_cell?, hsize,
    ?_, ?_, ?_, ?_, ?_, h.length_eq, t.count_add_count_add_count⟩
  · intro row col hrow hcol
    have hslot := t.getElem?_flat (hheight ▸ hrow) (hwidth ▸ hcol)
    rw [hwidth] at hslot
    exact ⟨hsize ▸ number_lt hrow hcol, hslot⟩
  · intro i hi
    have hplace := getElem?_flat_div hi
    rwa [hheight, hwidth] at hplace
  · intro row col hrow hcol
    have hget := get?_getElem (t := t) (h.sources_eq ▸ topology.ids_nodup)
      (h.destinations_eq ▸ topology.ids_nodup) (h.sources_eq ▸ hrow) (h.destinations_eq ▸ hcol)
    simpa only [h.sources_eq, h.destinations_eq] using hget
  · intro source destination hmissing
    refine get?_eq_none ?_
    rwa [h.sources_eq, h.destinations_eq]
  · rw [entries_eq, h.sources_eq, h.destinations_eq]

theorem Shaped.compare (ht : t.Shaped probe topology ignoreLoopback)
    (hu : u.Shaped probe topology ignoreLoopback) : ∃ c, t.compare u = .ok c := by
  refine ⟨_, compare_eq_ok_iff.mpr ⟨⟨?_, ?_, ?_, ?_⟩, rfl⟩⟩
  · rw [ht.probe_eq, hu.probe_eq]
  · rw [ht.sources_eq, hu.sources_eq]
  · rw [ht.destinations_eq, hu.destinations_eq]
  · intro row col
    rw [Bool.eq_iff_iff, ht.isSome_cell?, hu.isSome_cell?]

/-- However a table of a topology is made, it has a row and a column for each workload and all its
accessors agree. It can be compared with any other that is made for the same topology, probe and
treatment of loopback. -/
theorem Made.laidOut_and_comparable (h : Made probe topology ignoreLoopback t) :
    t.LaidOut topology ignoreLoopback ∧
      ∀ u, Made probe topology ignoreLoopback u → ∃ c, t.compare u = .ok c :=
  ⟨h.shaped.laidOut, fun _ hu => h.shaped.compare hu.shaped⟩

end Table

namespace Sample

def port80 : Probe := ⟨.number 80, .tcp, .podIp⟩

def hasty : LiveConfig := ⟨1, .ofMillis 10, .doubling 0 0, true⟩

/-- An agent that connects at once, but cancels the run with its first call. -/
def quitting : Agent := fun call _ _ =>
  ⟨some 0, .ok ⟨.connected, 0, "open"⟩, call == 1⟩

/-- What is left behind when a run is cancelled after the first of two jobs. -/
def halfDone : Table :=
  (Live.Clock.run hasty quitting none
    (Live.initial hasty Job.defaultDomain topology port80)).state.table

theorem laidOut_halfDone :
    Table.Made port80 topology true halfDone ∧
    halfDone.LaidOut topology true ∧ halfDone.count .allowed = 1 ∧ halfDone.count .unknown = 1 ∧
    ∃ c, halfDone.compare (.expected model topology port80 true) = .ok c := by
  have hmade : Table.Made port80 topology true halfDone :=
    Table.made_run hasty Job.defaultDomain quitting none
  obtain ⟨hlaid, hcomparable⟩ := hmade.laidOut_and_comparable
  have hallowed : halfDone.count .allowed = 1 := by cbv
  have hunknown : halfDone.count .unknown = 1 := by cbv
  exact ⟨hmade, hlaid, hallowed, hunknown, hcomparable _ (.expected model)⟩

end Sample

end PolicyReach
