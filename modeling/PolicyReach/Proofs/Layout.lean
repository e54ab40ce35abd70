import PolicyReach.Proofs.Table

/-!
# The layout of tables

A table is a grid with a row for each source and a column for each destination. Its cells are found
by places, by ids, by their numbers in the flat list of all slots, and in the list of its entries.
All of these are views of one grid.
-/
namespace PolicyReach

/-! ### Grids -/

section Grids

variable {α β γ δ : Type} {sources : List α} {destinations : List β}
  {rows : List (List (Option γ))}

def gridCell? (rows : List (List (Option γ))) (row col : ℕ) : Option γ :=
  (rows[row]?.bind fun cells => cells[col]?).join

/-- The places of a grid row by row, each with the labels of its row and its column. -/
def places (sources : List α) (destinations : List β) : List ((α × ℕ) × (β × ℕ)) :=
  sources.zipIdx ×ˢ destinations.zipIdx

theorem mem_places_iff {p : (α × ℕ) × (β × ℕ)} :
    p ∈ places sources destinations ↔
      sources[p.1.2]? = some p.1.1 ∧ destinations[p.2.2]? = some p.2.1 := by
  obtain ⟨⟨source, row⟩, ⟨destination, col⟩⟩ := p
  rw [places, List.mem_product, List.mk_mem_zipIdx_iff_getElem?,
    List.mk_mem_zipIdx_iff_getElem?]

theorem mem_places_of_lt {row col : ℕ} (hrow : row < sources.length)
    (hcol : col < destinations.length) :
    ((sources[row], row), (destinations[col], col)) ∈ places sources destinations :=
  mem_places_iff.mpr ⟨List.getElem?_eq_getElem hrow, List.getElem?_eq_getElem hcol⟩

theorem lt_of_mem_places {p : (α × ℕ) × (β × ℕ)} (h : p ∈ places sources destinations) :
    p.1.2 < sources.length ∧ p.2.2 < destinations.length := by
  obtain ⟨hsource, hdestination⟩ := mem_places_iff.mp h
  obtain ⟨hrow, _⟩ := List.getElem?_eq_some_iff.mp hsource
  obtain ⟨hcol, _⟩ := List.getElem?_eq_some_iff.mp hdestination
  exact ⟨hrow, hcol⟩

theorem zip_eq_map_zipIdx {as : List α} {bs : List β} (h : bs.length = as.length) (default : β) :
    as.zip bs = as.zipIdx.map fun a => (a.1, bs[a.2]?.getD default) := by
  refine List.ext_getElem (by simp [h]) fun i hi _ => ?_
  have hbs : i < bs.length := (List.length_zip ▸ hi).trans_le (Nat.min_le_right _ _)
  simp [hbs]

/-- Going through the rows and the cells of each row is going through the places. -/
theorem slots_eq_map_places (height : rows.length = sources.length)
    (width : ∀ row ∈ rows, row.length = destinations.length) :
    ((sources.zip rows).flatMap fun p => (destinations.zip p.2).map fun q => (p.1, q.1, q.2)) =
      (places sources destinations).map fun p =>
        (p.1.1, p.2.1, gridCell? rows p.1.2 p.2.2) := by
  rw [zip_eq_map_zipIdx height [], List.flatMap_map]
  simp only [places, SProd.sprod, List.product, List.map_flatMap]
  refine List.flatMap_congr fun source hsource => ?_
  obtain ⟨hrow, _⟩ := List.getElem?_eq_some_iff.mp (List.mk_mem_zipIdx_iff_getElem?.mp hsource)
  obtain ⟨cells, hcells⟩ : ∃ cells, rows[source.2]? = some cells :=
    ⟨_, List.getElem?_eq_getElem (height ▸ hrow)⟩
  have hwidth := width cells (List.mem_of_getElem? hcells)
  rw [hcells, Option.getD_some, zip_eq_map_zipIdx hwidth none, List.map_map, List.map_map]
  refine List.map_congr_left fun destination _ => ?_
  simp only [Function.comp_apply, gridCell?, hcells, Option.bind_some]
  cases cells[destination.2]? <;> rfl

/-! ### Numbers of slots -/

variable {grid : List (List δ)} {n : ℕ}

theorem length_flatten_of_width (width : ∀ row ∈ grid, row.length = n) :
    grid.flatten.length = grid.length * n := by
  induction grid with
  | nil => simp
  | cons cells rest ih =>
    have hcells := width cells List.mem_cons_self
    have hrest := ih fun row hrow => width row (List.mem_cons_of_mem _ hrow)
    rw [List.flatten_cons, List.length_append, hcells, hrest, List.length_cons, Nat.succ_mul]
    omega

/-- The slots of a row follow those of the rows before it. -/
theorem getElem?_flatten_of_width (width : ∀ row ∈ grid, row.length = n) {row col : ℕ}
    (hcol : col < n) : grid.flatten[row * n + col]? = grid[row]?.bind fun cells => cells[col]? := by
  induction grid generalizing row with
  | nil => simp
  | cons cells rest ih =>
    have hcells := width cells List.mem_cons_self
    have hrest := fun r hr => width r (List.mem_cons_of_mem cells hr)
    cases row with
    | zero =>
      rw [List.flatten_cons, List.getElem?_append_left (by omega), Nat.zero_mul, Nat.zero_add]
      rfl
    | succ row =>
      have hnumber : (row + 1) * n + col - cells.length = row * n + col := by
        rw [hcells, Nat.succ_mul]
        omega
      have hle : cells.length ≤ (row + 1) * n + col := by
        rw [hcells, Nat.succ_mul]
        omega
      rw [List.flatten_cons, List.getElem?_append_right hle, hnumber, ih hrest,
        List.getElem?_cons_succ]

theorem number_lt {height row col : ℕ} (hrow : row < height) (hcol : col < n) :
    row * n + col < height * n := by
  have hle : (row + 1) * n ≤ height * n := Nat.mul_le_mul_right n hrow
  rw [Nat.succ_mul] at hle
  omega

end Grids

namespace Table

variable {t e o : Table}

def flat (t : Table) : List (Option Cell) := t.rows.flatten

theorem length_flat (t : Table) :
    t.flat.length = t.sources.length * t.destinations.length := by
  rw [flat, length_flatten_of_width t.width, t.height]

theorem getElem?_flat {row col : ℕ} (hrow : row < t.sources.length)
    (hcol : col < t.destinations.length) :
    t.flat[row * t.destinations.length + col]? = some (t.cell? row col) := by
  obtain ⟨cells, hcells⟩ : ∃ cells, t.rows[row]? = some cells :=
    ⟨_, List.getElem?_eq_getElem (t.height ▸ hrow)⟩
  have hwidth := t.width cells (List.mem_of_getElem? hcells)
  rw [flat, getElem?_flatten_of_width t.width hcol, cell?, hcells, Option.bind_some,
    List.getElem?_eq_getElem (hwidth ▸ hcol)]
  rfl

/-- A number tells its place by division. -/
theorem getElem?_flat_div {i : ℕ} (hi : i < t.flat.length) :
    i / t.destinations.length < t.sources.length ∧
      i % t.destinations.length < t.destinations.length ∧
      t.flat[i]? = some (t.cell? (i / t.destinations.length) (i % t.destinations.length)) := by
  rw [length_flat] at hi
  have hpos : 0 < t.destinations.length := Nat.pos_of_lt_mul_left hi
  have hrow : i / t.destinations.length < t.sources.length :=
    Nat.div_lt_of_lt_mul (Nat.mul_comm _ _ ▸ hi)
  have hcol : i % t.destinations.length < t.destinations.length := Nat.mod_lt i hpos
  have hnumber := getElem?_flat hrow hcol
  rw [Nat.div_add_mod'] at hnumber
  exact ⟨hrow, hcol, hnumber⟩

theorem slots_eq (t : Table) : t.slots = (places t.sources t.destinations).map fun p =>
    (p.1.1, p.2.1, t.cell? p.1.2 p.2.2) :=
  slots_eq_map_places t.height t.width

/-- The entries are the cells that there are, row by row and with their own ids. -/
theorem entries_eq (t : Table) : t.entries = (places t.sources t.destinations).filterMap fun p =>
    (t.cell? p.1.2 p.2.2).map fun cell => (p.1.1, p.2.1, cell) := by
  rw [entries, slots_eq, List.filterMap_map]
  rfl

theorem length_eq_countP (t : Table) : t.length =
    (places t.sources t.destinations).countP fun p => (t.cell? p.1.2 p.2.2).isSome := by
  rw [length, entries_eq, List.length_filterMap_eq_countP]
  simp only [Option.isSome_map]

theorem count_add_count_add_count (t : Table) :
    t.count .allowed + t.count .denied + t.count .unknown = t.length := by
  rw [count, count, count, length]
  induction t.entries with
  | nil => rfl
  | cons entry rest ih =>
    rw [List.countP_cons, List.countP_cons, List.countP_cons, List.length_cons]
    have hone (v : Verdict) : (if decide (v = .allowed) = true then 1 else 0) +
        (if decide (v = .denied) = true then 1 else 0) +
        (if decide (v = .unknown) = true then 1 else 0) = 1 := by
      cases v <;> rfl
    have := hone entry.2.2.verdict
    omega

theorem lt_of_isSome_cell? {row col : ℕ} (h : (t.cell? row col).isSome = true) :
    row < t.sources.length ∧ col < t.destinations.length := by
  obtain ⟨cell, hcell⟩ := Option.isSome_iff_exists.mp h
  obtain ⟨cells, hrow, hcol⟩ := Option.bind_eq_some_iff.mp (Option.join_eq_some_iff.mp hcell)
  obtain ⟨hlt, rfl⟩ := List.getElem?_eq_some_iff.mp hrow
  obtain ⟨hlt', _⟩ := List.getElem?_eq_some_iff.mp hcol
  have hwidth := t.width _ (List.getElem_mem hlt)
  exact ⟨t.height ▸ hlt, hwidth ▸ hlt'⟩

/-! ### Comparable tables -/

theorem firstUnpaired?_eq (hs : e.sources = o.sources) (hd : e.destinations = o.destinations) :
    firstUnpaired? e o = ((places e.sources e.destinations).find? fun p =>
      (e.cell? p.1.2 p.2.2).isSome != (o.cell? p.1.2 p.2.2).isSome).map fun p =>
        (p.1.1, p.2.1) := by
  rw [firstUnpaired?, slots_eq, slots_eq, ← hs, ← hd, List.zip_map', List.find?_map,
    Option.map_map]
  rfl

/-- Tables of the same size are paired if they have their cells at the same places. -/
theorem firstUnpaired?_eq_none_iff (hs : e.sources = o.sources)
    (hd : e.destinations = o.destinations) :
    firstUnpaired? e o = none ↔
      ∀ row col, (e.cell? row col).isSome = (o.cell? row col).isSome := by
  rw [firstUnpaired?_eq hs hd, Option.map_eq_none_iff, List.find?_eq_none]
  simp only [bne_iff_ne, ne_eq, not_not]
  constructor
  · intro h row col
    by_cases hinside : row < e.sources.length ∧ col < e.destinations.length
    · obtain ⟨hrow, hcol⟩ := hinside
      exact h _ (mem_places_of_lt hrow hcol)
    · have houtside {t : Table} (hs : e.sources = t.sources)
          (hd : e.destinations = t.destinations) : (t.cell? row col).isSome = false := by
        refine Bool.eq_false_iff.mpr fun hsome => hinside ?_
        rw [hs, hd]
        exact lt_of_isSome_cell? hsome
      rw [houtside rfl rfl, houtside hs hd]
  · intro h p _
    exact h p.1.2 p.2.2

/-- Comparing succeeds if the tables are about the same probe and have the same rows, columns and
places with a cell. -/
theorem compare_eq_ok_iff {c : Comparison} : e.compare o = .ok c ↔
    (e.probe = o.probe ∧ e.sources = o.sources ∧ e.destinations = o.destinations ∧
      ∀ row col, (e.cell? row col).isSome = (o.cell? row col).isSome) ∧
    c = ⟨e.probe, e.sources, e.destinations,
      List.zipWith (List.zipWith Agreement.ofCells) e.rows o.rows⟩ := by
  rw [compare]
  by_cases hprobe : e.probe = o.probe
  · by_cases hsize : e.size = o.size
    · by_cases hids : e.sources = o.sources ∧ e.destinations = o.destinations
      · obtain ⟨hs, hd⟩ := hids
        have hunpaired := firstUnpaired?_eq_none_iff hs hd
        rw [if_neg (not_not.mpr hprobe), if_neg (not_not.mpr hsize),
          if_neg (by simp [hs, hd])]
        cases hfirst : firstUnpaired? e o with
        | none => simp [hprobe, hs, hd, hunpaired.mp hfirst, eq_comm]
        | some pair =>
          have hcells : ¬ ∀ row col, (e.cell? row col).isSome = (o.cell? row col).isSome := by
            rw [← hunpaired, hfirst]
            exact Option.some_ne_none pair
          simp [hcells]
      · rw [if_neg (not_not.mpr hprobe), if_neg (not_not.mpr hsize),
          if_pos (not_and_or.mp hids)]
        simp only [reduceCtorEq, false_iff]
        rintro ⟨⟨_, hs, hd, _⟩, _⟩
        exact hids ⟨hs, hd⟩
    · rw [if_neg (not_not.mpr hprobe), if_pos hsize]
      simp only [reduceCtorEq, false_iff]
      rintro ⟨⟨_, hs, hd, _⟩, _⟩
      exact hsize (by rw [size, size, hs, hd])
  · rw [if_pos hprobe]
    simp [hprobe]

end Table

end PolicyReach
