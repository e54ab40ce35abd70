import PolicyReach.Proofs.Layout
import PolicyReach.Proofs.Verification

/-!
# Comparing any two tables

Tables of any make can be compared if they have the same probe, rows, columns and places with a
cell. What a comparison says of a place depends on the two verdicts at the place only, its counts
and its list of mismatches say the same as its cells, and exchanging the tables exchanges the
verdicts.
-/
namespace PolicyReach

namespace Agreement

def swap : Agreement → Agreement
  | .agree v => .agree v
  | .mismatch e o => .mismatch o e
  | .gap => .gap

variable {v w : Verdict}

theorem of_eq_gap_iff : of v w = .gap ↔ v = .unknown ∨ w = .unknown := by
  cases v <;> cases w <;> decide

theorem of_eq_agree_iff {u : Verdict} : of v w = .agree u ↔ v = u ∧ w = u ∧ u ≠ .unknown := by
  cases v <;> cases w <;> cases u <;> decide

theorem of_eq_mismatch_iff {x y : Verdict} : of v w = .mismatch x y ↔
    v = x ∧ w = y ∧ x ≠ .unknown ∧ y ≠ .unknown ∧ x ≠ y := by
  cases v <;> cases w <;> cases x <;> cases y <;> decide

theorem of_swap (v w : Verdict) : of w v = (of v w).swap := by
  cases v <;> cases w <;> rfl

theorem ofCells_none (x : Option Cell) : ofCells x none = none := by cases x <;> rfl

theorem ofCells_swap (x y : Option Cell) : ofCells y x = (ofCells x y).map swap := by
  cases x with
  | none => cases y <;> rfl
  | some x =>
    cases y with
    | none => rfl
    | some y => rw [ofCells, ofCells, of_swap, Option.map_some]

end Agreement

def ShapeMismatch.swap : ShapeMismatch → ShapeMismatch
  | .probe expected observed => .probe observed expected
  | .dimensions expected observed => .dimensions observed expected
  | .ordering => .ordering
  | .cell source destination => .cell source destination

namespace Comparison

variable {e o : Table} {c c' : Comparison}

/-! ### Cells -/

theorem cell?_of_compare (h : e.compare o = .ok c) (row col : ℕ) :
    c.cell? row col = Agreement.ofCells (e.cell? row col) (o.cell? row col) := by
  obtain ⟨_, rfl⟩ := Table.compare_eq_ok_iff.mp h
  simp only [cell?, Table.cell?, List.getElem?_zipWith]
  cases e.rows[row]? with
  | none => rfl
  | some cells =>
    cases o.rows[row]? with
    | none => exact (Agreement.ofCells_none _).symm
    | some cells' =>
      simp only [Option.bind_some, List.getElem?_zipWith]
      cases cells[col]? with
      | none => rfl
      | some x =>
        cases cells'[col]? with
        | none => exact (Agreement.ofCells_none x).symm
        | some y => rfl

theorem exists_cells (h : e.compare o = .ok c) {row col : ℕ} {a : Agreement}
    (hc : c.cell? row col = some a) : ∃ x y, e.cell? row col = some x ∧
      o.cell? row col = some y ∧ a = .of x.verdict y.verdict := by
  rw [cell?_of_compare h] at hc
  cases hx : e.cell? row col with
  | none => simp [hx, Agreement.ofCells] at hc
  | some x =>
    cases hy : o.cell? row col with
    | none => simp [hx, hy, Agreement.ofCells] at hc
    | some y =>
      rw [hx, hy] at hc
      exact ⟨x, y, rfl, rfl, (Option.some.inj hc).symm⟩

theorem isSome_cell? (h : e.compare o = .ok c) (row col : ℕ) :
    (c.cell? row col).isSome = (e.cell? row col).isSome ∧
      (c.cell? row col).isSome = (o.cell? row col).isSome := by
  obtain ⟨⟨_, _, _, hpaired⟩, _⟩ := Table.compare_eq_ok_iff.mp h
  have hboth := hpaired row col
  rw [cell?_of_compare h]
  cases hx : e.cell? row col with
  | none =>
    rw [hx] at hboth
    exact ⟨rfl, hboth⟩
  | some x =>
    rw [hx] at hboth
    obtain ⟨y, hy⟩ := Option.isSome_iff_exists.mp hboth.symm
    rw [hy]
    exact ⟨rfl, rfl⟩

/-- A comparison has the rows and the columns of its tables. -/
theorem rectangular_of_compare (h : e.compare o = .ok c) :
    c.rows.length = c.sources.length ∧ ∀ row ∈ c.rows, row.length = c.destinations.length := by
  obtain ⟨⟨_, hs, hd, _⟩, rfl⟩ := Table.compare_eq_ok_iff.mp h
  constructor
  · rw [List.length_zipWith, e.height, o.height, hs, Nat.min_self]
  · intro row hrow
    obtain ⟨i, hi, rfl⟩ := List.getElem_of_mem hrow
    rw [List.getElem_zipWith, List.length_zipWith, e.width _ (List.getElem_mem _),
      o.width _ (List.getElem_mem _), hd, Nat.min_self]

/-! ### Entries -/

/-- A comparison lists its cells in the order of the places of both tables. -/
theorem entries_of_compare (h : e.compare o = .ok c) :
    c.entries = (places e.sources e.destinations).filterMap fun p =>
      (c.cell? p.1.2 p.2.2).map fun a => (p.1.1, p.2.1, a) := by
  obtain ⟨hheight, hwidth⟩ := rectangular_of_compare h
  obtain ⟨_, rfl⟩ := Table.compare_eq_ok_iff.mp h
  have hslots := congrArg (List.filterMap fun q : WorkloadId × WorkloadId × Option Agreement =>
    q.2.2.map fun a => (q.1, q.2.1, a)) (slots_eq_map_places hheight hwidth)
  rw [List.filterMap_flatMap, List.filterMap_map] at hslots
  simp only [List.filterMap_map] at hslots
  exact hslots

theorem length_entries_of_compare (h : e.compare o = .ok c) :
    c.entries.length = e.length ∧ c.entries.length = o.length := by
  have hlength : c.entries.length = (places e.sources e.destinations).countP
      fun p => (c.cell? p.1.2 p.2.2).isSome := by
    rw [entries_of_compare h, List.length_filterMap_eq_countP]
    simp only [Option.isSome_map]
  obtain ⟨⟨_, hs, hd, _⟩, _⟩ := Table.compare_eq_ok_iff.mp h
  constructor
  · rw [hlength, e.length_eq_countP]
    exact List.countP_congr fun p _ => by rw [(isSome_cell? h _ _).1]
  · rw [hlength, o.length_eq_countP, hs, hd]
    exact List.countP_congr fun p _ => by rw [(isSome_cell? h _ _).2]

theorem mismatches_of_compare (h : e.compare o = .ok c) :
    c.mismatches = (places e.sources e.destinations).filterMap fun p =>
      (c.cell? p.1.2 p.2.2).bind fun a => mismatch? (p.1.1, p.2.1, a) := by
  rw [mismatches, entries_of_compare h, List.filterMap_filterMap]
  simp only [Option.bind_map]
  rfl

/-- A comparison is consistent if it has no mismatch in any cell. -/
theorem isConsistent_iff (h : e.compare o = .ok c) :
    c.isConsistent = true ↔ ∀ row col v w, c.cell? row col ≠ some (.mismatch v w) := by
  rw [isConsistent, beq_iff_eq, ← length_mismatches, List.length_eq_zero_iff,
    mismatches_of_compare h, List.filterMap_eq_nil_iff]
  constructor
  · intro hnone row col v w hcell
    have hsome : (e.cell? row col).isSome = true := by
      rw [← (isSome_cell? h row col).1, hcell]
      rfl
    obtain ⟨hrow, hcol⟩ := Table.lt_of_isSome_cell? hsome
    have hlisted := hnone _ (mem_places_of_lt hrow hcol)
    rw [hcell] at hlisted
    cases hlisted
  · intro hno p _
    cases hcell : c.cell? p.1.2 p.2.2 with
    | none => rfl
    | some a =>
      cases a with
      | mismatch v w => exact absurd hcell (hno _ _ v w)
      | agree v => rfl
      | gap => rfl

/-! ### Exchanging the tables -/

theorem entries_swap (h : e.compare o = .ok c) (h' : o.compare e = .ok c') :
    c'.entries = c.entries.map fun entry => (entry.1, entry.2.1, entry.2.2.swap) := by
  obtain ⟨⟨_, hs, hd, _⟩, _⟩ := Table.compare_eq_ok_iff.mp h
  rw [entries_of_compare h, entries_of_compare h', ← hs, ← hd, List.map_filterMap]
  refine List.filterMap_congr fun p _ => ?_
  rw [cell?_of_compare h, cell?_of_compare h', Agreement.ofCells_swap, Option.map_map,
    Option.map_map]
  rfl

/-- What is told of an agreement either way round is counted as often. -/
theorem countP_entries_swap (h : e.compare o = .ok c) (h' : o.compare e = .ok c')
    {f : WorkloadId × WorkloadId × Agreement → Bool}
    (hf : ∀ source destination a, f (source, destination, a.swap) = f (source, destination, a)) :
    c'.entries.countP f = c.entries.countP f := by
  rw [entries_swap h h', List.countP_map]
  refine List.countP_congr fun entry _ => ?_
  obtain ⟨source, destination, a⟩ := entry
  rw [Function.comp_apply, hf]

theorem counts_swap (h : e.compare o = .ok c) (h' : o.compare e = .ok c') :
    c'.agreed = c.agreed ∧ c'.mismatched = c.mismatched ∧ c'.gaps = c.gaps := by
  rw [agreed, agreed, mismatched, mismatched, gaps, gaps]
  refine ⟨countP_entries_swap h h' fun _ _ a => ?_, countP_entries_swap h h' fun _ _ a => ?_,
    countP_entries_swap h h' fun _ _ a => ?_⟩
  · cases a <;> rfl
  · cases a <;> rfl
  · cases a <;> simp [Agreement.swap]

theorem mismatches_swap (h : e.compare o = .ok c) (h' : o.compare e = .ok c') :
    c'.mismatches = c.mismatches.map fun m => (m.1, m.2.1, m.2.2.2, m.2.2.1) := by
  rw [mismatches, mismatches, entries_swap h h', List.filterMap_map, List.map_filterMap]
  refine List.filterMap_congr fun entry _ => ?_
  obtain ⟨source, destination, a⟩ := entry
  cases a <;> rfl

end Comparison

namespace Table

variable {e o : Table} {c : Comparison} {r : ShapeMismatch}

theorem firstUnpaired?_swap (hs : e.sources = o.sources) (hd : e.destinations = o.destinations) :
    firstUnpaired? o e = firstUnpaired? e o := by
  rw [firstUnpaired?_eq hs hd, firstUnpaired?_eq hs.symm hd.symm, ← hs, ← hd]
  simp only [bne_comm]

/-- Tables that cannot be compared cannot be compared the other way round, for the same reason. -/
theorem compare_swap_of_error (h : e.compare o = .error r) : o.compare e = .error r.swap := by
  rw [compare] at h ⊢
  by_cases hprobe : e.probe = o.probe
  · rw [if_neg (not_not.mpr hprobe)] at h
    rw [if_neg (not_not.mpr hprobe.symm)]
    by_cases hsize : e.size = o.size
    · rw [if_neg (not_not.mpr hsize)] at h
      rw [if_neg (not_not.mpr hsize.symm)]
      by_cases hids : e.sources ≠ o.sources ∨ e.destinations ≠ o.destinations
      · rw [if_pos hids] at h
        rw [if_pos (hids.imp Ne.symm Ne.symm), ← Except.error.inj h]
        rfl
      · rw [if_neg hids] at h
        obtain ⟨hs, hd⟩ := not_or.mp hids
        rw [if_neg (by simp_all), firstUnpaired?_swap (not_not.mp hs) (not_not.mp hd)]
        cases hfirst : firstUnpaired? e o with
        | none => simp [hfirst] at h
        | some pair =>
          simp only [hfirst] at h
          rw [← Except.error.inj h]
          rfl
    · rw [if_pos hsize] at h
      rw [if_pos (Ne.symm hsize), ← Except.error.inj h]
      rfl
  · rw [if_pos hprobe] at h
    rw [if_pos (Ne.symm hprobe), ← Except.error.inj h]
    rfl

theorem exists_compare_swap (h : e.compare o = .ok c) : ∃ c', o.compare e = .ok c' := by
  obtain ⟨⟨hprobe, hs, hd, hpaired⟩, _⟩ := compare_eq_ok_iff.mp h
  exact ⟨_, compare_eq_ok_iff.mpr
    ⟨⟨hprobe.symm, hs.symm, hd.symm, fun row col => (hpaired row col).symm⟩, rfl⟩⟩

end Table

namespace Comparison

/-- A comparison says what there is to say of two tables, in each of its views. -/
structure Reports (c : Comparison) (e o : Table) : Prop where
  absent : ∀ row col, (c.cell? row col = none ↔ e.cell? row col = none) ∧
    (c.cell? row col = none ↔ o.cell? row col = none)
  gap : ∀ row col x y, e.cell? row col = some x → o.cell? row col = some y →
    (c.cell? row col = some .gap ↔ x.verdict = .unknown ∨ y.verdict = .unknown)
  agree : ∀ row col x y, e.cell? row col = some x → o.cell? row col = some y →
    ∀ v, c.cell? row col = some (.agree v) ↔ x.verdict = v ∧ y.verdict = v ∧ v ≠ .unknown
  mismatch : ∀ row col x y, e.cell? row col = some x → o.cell? row col = some y →
    ∀ v w, c.cell? row col = some (.mismatch v w) ↔
      x.verdict = v ∧ y.verdict = w ∧ v ≠ .unknown ∧ w ≠ .unknown ∧ v ≠ w
  total : c.agreed + c.mismatched + c.gaps = e.length ∧ e.length = o.length
  /-- The mismatches are found by going through the places row by row. -/
  listed : c.mismatches = (places e.sources e.destinations).filterMap fun p =>
    (c.cell? p.1.2 p.2.2).bind fun a => mismatch? (p.1.1, p.2.1, a)
  counted : c.mismatches.length = c.mismatched
  consistent : c.isConsistent = true ↔
    ∀ row col x y, e.cell? row col = some x → o.cell? row col = some y →
      x.verdict ≠ .unknown → y.verdict ≠ .unknown → x.verdict = y.verdict

theorem reports_of_compare {e o : Table} {c : Comparison} (h : e.compare o = .ok c) :
    c.Reports e o := by
  have hcell {row col : ℕ} {x y : Cell} (hx : e.cell? row col = some x)
      (hy : o.cell? row col = some y) :
      c.cell? row col = some (.of x.verdict y.verdict) := by
    rw [cell?_of_compare h, hx, hy]
    rfl
  obtain ⟨hlength, hlength'⟩ := length_entries_of_compare h
  refine ⟨fun row col => ?_, ?_, ?_, ?_, ⟨?_, hlength.symm.trans hlength'⟩,
    mismatches_of_compare h, c.length_mismatches, ?_⟩
  · obtain ⟨he, ho⟩ := isSome_cell? h row col
    simp only [← Option.not_isSome_iff_eq_none, he, ← ho, and_self]
  · intro row col x y hx hy
    rw [hcell hx hy, Option.some.injEq, Agreement.of_eq_gap_iff]
  · intro row col x y hx hy v
    rw [hcell hx hy, Option.some.injEq, Agreement.of_eq_agree_iff]
  · intro row col x y hx hy v w
    rw [hcell hx hy, Option.some.injEq, Agreement.of_eq_mismatch_iff]
  · rw [← hlength, ← agreed_add_mismatches_add_gaps, length_mismatches]
  · rw [isConsistent_iff h]
    constructor
    · intro hno row col x y hx hy hknown hknown'
      by_contra hne
      refine hno row col x.verdict y.verdict ?_
      rw [hcell hx hy, Option.some.injEq, Agreement.of_eq_mismatch_iff]
      exact ⟨rfl, rfl, hknown, hknown', hne⟩
    · intro hsame row col v w hmismatch
      obtain ⟨x, y, hx, hy, hof⟩ := exists_cells h hmismatch
      obtain ⟨rfl, rfl, hknown, hknown', hne⟩ := Agreement.of_eq_mismatch_iff.mp hof.symm
      exact hne (hsame row col x y hx hy hknown hknown')

end Comparison

/-- Two tables can be compared if they are about the same probe and have the same rows, columns and
places with a cell. The comparison then reports what the cells say, and nothing but the sides of its
mismatches tells which table came first. -/
theorem Table.compare_exact (e o : Table) :
    ((∃ c, e.compare o = .ok c) ↔
      e.probe = o.probe ∧ e.sources = o.sources ∧ e.destinations = o.destinations ∧
        ∀ row col, (e.cell? row col).isSome = (o.cell? row col).isSome) ∧
    (∀ c, e.compare o = .ok c → c.Reports e o ∧
      ∃ c', o.compare e = .ok c' ∧
        (c'.agreed = c.agreed ∧ c'.mismatched = c.mismatched ∧ c'.gaps = c.gaps) ∧
        c'.mismatches = c.mismatches.map fun m => (m.1, m.2.1, m.2.2.2, m.2.2.1)) ∧
    ∀ r, e.compare o = .error r → o.compare e = .error r.swap := by
  refine ⟨?_, fun c h => ?_, fun r => compare_swap_of_error⟩
  · constructor
    · rintro ⟨c, hc⟩
      exact (compare_eq_ok_iff.mp hc).1
    · intro h
      exact ⟨_, compare_eq_ok_iff.mpr ⟨h, rfl⟩⟩
  · obtain ⟨c', h'⟩ := exists_compare_swap h
    exact ⟨Comparison.reports_of_compare h, c', h', Comparison.counts_swap h h',
      Comparison.mismatches_swap h h'⟩

namespace Sample

/-- One row with a cell or none for each of two columns. -/
def line (first second : Option Verdict) : Table where
  probe := scenario.probe
  sources := [a.id]
  destinations := [a.id, b.id]
  rows := [[first.map (.observed · ""), second.map (.observed · "")]]
  height := rfl
  width := by simp

/-- How two lines compare that disagree in the second of their cells. -/
def crossed : Comparison :=
  ⟨scenario.probe, [a.id], [a.id, b.id], [[some .gap, some (.mismatch .denied .allowed)]]⟩

/-- The mismatch is turned round with the lines. Lines with cells at different places cannot be
compared either way. -/
theorem compare_lines :
    (line (some .unknown) (some .denied)).compare (line (some .denied) (some .allowed)) =
        .ok crossed ∧
    crossed.isConsistent ≠ true ∧
    (∃ c', (line (some .denied) (some .allowed)).compare (line (some .unknown) (some .denied)) =
        .ok c' ∧ c'.gaps = 1 ∧ c'.mismatches = [(a.id, b.id, .allowed, .denied)]) ∧
    (line none (some .denied)).compare (line (some .denied) none) = .error (.cell a.id a.id) ∧
    (line (some .denied) none).compare (line none (some .denied)) = .error (.cell a.id a.id) := by
  have hok : (line (some .unknown) (some .denied)).compare (line (some .denied) (some .allowed)) =
      .ok crossed := by decide
  have hunpaired : (line none (some .denied)).compare (line (some .denied) none) =
      .error (.cell a.id a.id) := by decide
  obtain ⟨hreports, c', hc', ⟨_, _, hgaps⟩, hmismatches⟩ := (Table.compare_exact _ _).2.1 _ hok
  refine ⟨hok, fun h => ?_, ⟨c', hc', ?_, ?_⟩, hunpaired,
    (Table.compare_exact _ _).2.2 _ hunpaired⟩
  · have hsame := hreports.consistent.mp h 0 1 _ _ rfl rfl (by decide) (by decide)
    exact absurd hsame (by decide)
  · rw [hgaps]
    decide
  · rw [hmismatches]
    decide

end Sample

end PolicyReach
