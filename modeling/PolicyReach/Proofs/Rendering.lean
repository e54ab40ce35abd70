import PolicyReach.Proofs.Columns
import PolicyReach.Proofs.Comparison
import PolicyReach.Proofs.Digits
import PolicyReach.Report

/-!
# What rendered tables tell

A grid is as wide and as high as its labels ask for, since no symbol takes more room than a label.
So it does not hang on the symbols where each of them stands, and grids with the same labels are the
same text only if they hold the same symbols.
-/
namespace PolicyReach

namespace Text

/-! ### Lines -/

theorem newline_notMem_line {cell : String} {i : ℕ} : '\n' ∉ (lines cell)[i]?.getD [] := by
  cases h : (lines cell)[i]? with
  | none => exact List.not_mem_nil
  | some line => exact notMem_of_mem_pieces (List.mem_of_getElem? h)

theorem newline_notMem_rule (widths : List ℕ) : '\n' ∉ rule widths := by
  simp [rule]

theorem newline_notMem_rowLine (widths : List ℕ) (row : List String) (i : ℕ) :
    '\n' ∉ rowLine widths row i := by
  have hcell : ∀ c : ℕ × String, '\n' ∉ padded c.1 ((lines c.2)[i]?.getD []) := by
    intro c
    simp [padded, newline_notMem_line]
  simp [rowLine, hcell]

theorem newline_notMem_gridLines (rows : List (List String)) :
    ∀ line ∈ gridLines rows, '\n' ∉ line := by
  simp only [gridLines, List.forall_mem_cons, List.mem_flatMap, List.mem_append, rowLines,
    List.mem_map, List.mem_singleton]
  refine ⟨newline_notMem_rule _, ?_⟩
  rintro line ⟨row, _, ⟨i, _, rfl⟩ | rfl⟩
  · exact newline_notMem_rowLine _ row i
  · exact newline_notMem_rule _

/-- The lines of a grid can be told from its text. -/
theorem gridLines_inj {rows rows' : List (List String)} (h : grid rows = grid rows') :
    gridLines rows = gridLines rows' := by
  have hlines : ∀ rows, (grid rows).toList.splitOn '\n' = gridLines rows := by
    intro rows
    have hmap : ((gridLines rows).map String.ofList).map String.toList = gridLines rows := by
      simp [Function.comp_def]
    rw [grid, String.toList_intercalate, hmap]
    exact List.splitOn_intercalate '\n' (newline_notMem_gridLines rows) (List.cons_ne_nil _ _)
  rw [← hlines rows, ← hlines rows', h]

/-! ### Room for labels -/

theorem le_foldl_max_iff {l : List ℕ} {a x : ℕ} :
    x ≤ l.foldl max a ↔ x ≤ a ∨ ∃ y ∈ l, x ≤ y := by
  induction l generalizing a with
  | nil => simp
  | cons y rest ih => simp [ih, or_assoc]

theorem foldl_max_eq {l : List ℕ} {a : ℕ} (h : ∀ y ∈ l, y ≤ a) : l.foldl max a = a := by
  induction l with
  | nil => rfl
  | cons y rest ih =>
    obtain ⟨hy, hrest⟩ := List.forall_mem_cons.mp h
    rw [List.foldl_cons, Nat.max_eq_left hy, ih hrest]

theorem one_le_length_lines (cell : String) : 1 ≤ (lines cell).length :=
  List.length_pos_iff.mpr (pieces_ne_nil _ _)

/-- A text with a plain character in it fills a column. -/
theorem one_le_cellWidth {c : Char} (hc : c.toNat ≤ 0xA0) (hs : selectable.has c = false)
    (hne : c ≠ '\n') {cell : String} (h : c ∈ cell.toList) : 1 ≤ cellWidth cell := by
  obtain ⟨line, hline, hmem⟩ := exists_mem_pieces h hne
  exact le_foldl_max_iff.mpr (.inr ⟨_, List.mem_map_of_mem hline, one_le_columns_of_mem hc hs hmem⟩)

/-! ### Symbols -/

/-- What stands in a grid besides the labels. -/
def symbols : List String := ["", ".", "X", "?"]

section Symbols

variable {s s' : String} {w : ℕ}

theorem lines_symbol (h : s ∈ symbols) : lines s = [s.toList] := by
  revert s
  decide

theorem columns_symbol (h : s ∈ symbols) : columns s.toList = s.toList.length ∧
    s.toList.length ≤ 1 := by
  revert s
  decide

theorem cellWidth_symbol_le (h : s ∈ symbols) : cellWidth s ≤ 1 := by
  obtain ⟨hcolumns, hlength⟩ := columns_symbol h
  rw [cellWidth, lines_symbol h]
  simp [hcolumns, hlength]

theorem length_padded_symbol (hw : 1 ≤ w) (h : s ∈ symbols) :
    (padded w s.toList).length = w + 2 := by
  obtain ⟨hcolumns, hlength⟩ := columns_symbol h
  rw [padded, hcolumns]
  simp
  omega

theorem getElem?_padded_symbol (h : s ∈ symbols) :
    (padded w s.toList)[1]? = some (s.toList.headD ' ') := by
  simp only [symbols, List.mem_cons, List.not_mem_nil, or_false] at h
  rcases h with rfl | rfl | rfl | rfl <;> simp [padded]

theorem padded_symbol_inj (h : s ∈ symbols) (h' : s' ∈ symbols)
    (heq : padded w s.toList = padded w s'.toList) : s = s' := by
  have hinj : ∀ s ∈ symbols, ∀ s' ∈ symbols, s.toList.headD ' ' = s'.toList.headD ' ' → s = s' := by
    decide
  have hhead := congrArg (·[1]?) heq
  simp only [getElem?_padded_symbol h, getElem?_padded_symbol h', Option.some.injEq] at hhead
  exact hinj s h s' h' hhead

end Symbols

/-! ### Grids of symbols -/

/-- A block of symbols with so many rows and columns. -/
structure Block (block : List (List String)) (height width : ℕ) : Prop where
  height : block.length = height
  width : ∀ row ∈ block, row.length = width
  mem : ∀ row ∈ block, ∀ s ∈ row, s ∈ symbols

theorem Block.of_cons {row : List String} {rest : List (List String)} {height width : ℕ}
    (h : Block (row :: rest) (height + 1) width) :
    row.length = width ∧ (∀ s ∈ row, s ∈ symbols) ∧ Block rest height width := by
  obtain ⟨hwidth, hwidths⟩ := List.forall_mem_cons.mp h.width
  obtain ⟨hmem, hmems⟩ := List.forall_mem_cons.mp h.mem
  exact ⟨hwidth, hmem, by simpa using h.height, hwidths, hmems⟩

section Grids

variable {labels row row' : List String} {label : String} {block block' : List (List String)}
  {widths : List ℕ} {w width : ℕ}

/-- Symbols make no column wider. -/
theorem widen_symbols (hwidths : ∀ w ∈ widths, 1 ≤ w) (hlength : row.length = widths.length)
    (hmem : ∀ s ∈ row, s ∈ symbols) : widen widths (row.map cellWidth) = widths := by
  induction row generalizing widths with
  | nil =>
    obtain rfl := List.length_eq_zero_iff.mp hlength.symm
    rfl
  | cons s rest ih =>
    obtain ⟨w, ws, rfl⟩ := List.exists_cons_of_length_eq_add_one hlength.symm
    obtain ⟨hw, hws⟩ := List.forall_mem_cons.mp hwidths
    obtain ⟨hs, hrest⟩ := List.forall_mem_cons.mp hmem
    rw [List.map_cons, widen, Nat.max_eq_left ((cellWidth_symbol_le hs).trans hw),
      ih hws (by simpa using hlength) hrest]

theorem foldl_widen_block (hwidths : ∀ w ∈ widths, 1 ≤ w)
    (h : Block block labels.length widths.length) :
    (List.zipWith List.cons labels block).foldl (fun ws row => widen ws (row.map cellWidth))
      (w :: widths) = (labels.map cellWidth).foldl max w :: widths := by
  induction labels generalizing block w with
  | nil => rfl
  | cons label labels ih =>
    obtain ⟨row, rest, rfl⟩ := List.exists_cons_of_length_eq_add_one h.height
    obtain ⟨hlength, hmem, hrest⟩ := h.of_cons
    rw [List.zipWith_cons_cons, List.foldl_cons, List.map_cons, widen,
      widen_symbols hwidths hlength hmem, ih hrest]
    rfl

/-- The columns of a grid are as wide as its labels. -/
theorem columnWidths_block {corner : String} {columns : List String}
    (hcolumns : ∀ c ∈ columns, 1 ≤ cellWidth c) (h : Block block labels.length columns.length) :
    columnWidths ((corner :: columns) :: List.zipWith List.cons labels block) =
      (labels.map cellWidth).foldl max (cellWidth corner) :: columns.map cellWidth := by
  have hwidths : ∀ w ∈ columns.map cellWidth, 1 ≤ w := by simpa using hcolumns
  rw [columnWidths, List.foldl_cons]
  exact foldl_widen_block hwidths (by simpa using h)

/-- A row of a grid is as high as its label. -/
theorem rowHeight_block (hmem : ∀ s ∈ row, s ∈ symbols) :
    rowHeight (label :: row) = (lines label).length := by
  have hone : ∀ n ∈ row.map fun cell => (lines cell).length, n ≤ (lines label).length := by
    intro n hn
    obtain ⟨s, hs, rfl⟩ := List.mem_map.mp hn
    rw [lines_symbol (hmem s hs)]
    exact one_le_length_lines label
  rw [rowHeight, List.map_cons, List.foldl_cons, Nat.zero_max, foldl_max_eq hone]

/-- Where the symbols stand in a line does not hang on them. -/
theorem cells_inj (hwidths : ∀ w ∈ widths, 1 ≤ w) (hlength : row.length = widths.length)
    (hlength' : row'.length = widths.length) (hmem : ∀ s ∈ row, s ∈ symbols)
    (hmem' : ∀ s ∈ row', s ∈ symbols)
    (h : ((widths.zip row).flatMap fun c => padded c.1 ((lines c.2)[0]?.getD []) ++ ['|']) =
      (widths.zip row').flatMap fun c => padded c.1 ((lines c.2)[0]?.getD []) ++ ['|']) :
    row = row' := by
  induction widths generalizing row row' with
  | nil => rw [List.length_eq_zero_iff.mp hlength, List.length_eq_zero_iff.mp hlength']
  | cons w ws ih =>
    obtain ⟨s, rest, rfl⟩ := List.exists_cons_of_length_eq_add_one hlength
    obtain ⟨s', rest', rfl⟩ := List.exists_cons_of_length_eq_add_one hlength'
    obtain ⟨hw, hws⟩ := List.forall_mem_cons.mp hwidths
    obtain ⟨hs, hrest⟩ := List.forall_mem_cons.mp hmem
    obtain ⟨hs', hrest'⟩ := List.forall_mem_cons.mp hmem'
    simp only [List.zip_cons_cons, List.flatMap_cons, lines_symbol hs, lines_symbol hs',
      List.getElem?_cons_zero, Option.getD_some, List.append_assoc] at h
    obtain ⟨hpadded, hmore⟩ := List.append_inj h
      (by rw [length_padded_symbol hw hs, length_padded_symbol hw hs'])
    rw [padded_symbol_inj hs hs' hpadded, ih hws (by simpa using hlength) (by simpa using hlength')
      hrest hrest' (List.append_cancel_left hmore)]

theorem rowLines_inj (hwidths : ∀ w ∈ widths, 1 ≤ w) (hlength : row.length = widths.length)
    (hlength' : row'.length = widths.length) (hmem : ∀ s ∈ row, s ∈ symbols)
    (hmem' : ∀ s ∈ row', s ∈ symbols)
    (h : rowLines (w :: widths) (label :: row) = rowLines (w :: widths) (label :: row')) :
    row = row' := by
  rw [rowLines, rowLines, rowHeight_block hmem, rowHeight_block hmem'] at h
  have hfirst := List.map_inj_left.mp h 0 (List.mem_range.mpr (one_le_length_lines label))
  rw [rowLine, rowLine, List.zip_cons_cons, List.zip_cons_cons, List.flatMap_cons,
    List.flatMap_cons] at hfirst
  exact cells_inj hwidths hlength hlength' hmem hmem'
    (List.append_cancel_left (List.cons.inj hfirst).2)

/-- Rows of the same height follow one another at the same places. -/
theorem block_inj (hwidths : ∀ w ∈ widths, 1 ≤ w) {last : List Char}
    (hblock : Block block labels.length widths.length)
    (hblock' : Block block' labels.length widths.length)
    (h : ((List.zipWith List.cons labels block).flatMap fun row =>
        rowLines (w :: widths) row ++ [last]) =
      (List.zipWith List.cons labels block').flatMap fun row =>
        rowLines (w :: widths) row ++ [last]) : block = block' := by
  induction labels generalizing block block' with
  | nil => rw [List.length_eq_zero_iff.mp hblock.height, List.length_eq_zero_iff.mp hblock'.height]
  | cons label labels ih =>
    obtain ⟨row, rest, rfl⟩ := List.exists_cons_of_length_eq_add_one hblock.height
    obtain ⟨row', rest', rfl⟩ := List.exists_cons_of_length_eq_add_one hblock'.height
    obtain ⟨hlength, hmem, hrest⟩ := hblock.of_cons
    obtain ⟨hlength', hmem', hrest'⟩ := hblock'.of_cons
    -- A label alone decides how many lines its row takes, so both are cut at the same one.
    have hheight : (rowLines (w :: widths) (label :: row)).length =
        (rowLines (w :: widths) (label :: row')).length := by
      simp only [rowLines, List.length_map, List.length_range, rowHeight_block hmem,
        rowHeight_block hmem']
    simp only [List.zipWith_cons_cons, List.flatMap_cons, List.append_assoc] at h
    obtain ⟨hrow, hmore⟩ := List.append_inj h hheight
    rw [rowLines_inj hwidths hlength hlength' hmem hmem' hrow,
      ih hrest hrest' (List.append_cancel_left hmore)]

/-- Grids with the same labels and other symbols are other texts. -/
theorem grid_block_inj {corner : String} {columns : List String}
    (hcolumns : ∀ c ∈ columns, 1 ≤ cellWidth c)
    (hblock : Block block labels.length columns.length)
    (hblock' : Block block' labels.length columns.length)
    (h : grid ((corner :: columns) :: List.zipWith List.cons labels block) =
      grid ((corner :: columns) :: List.zipWith List.cons labels block')) : block = block' := by
  have hwidths : ∀ w ∈ columns.map cellWidth, 1 ≤ w := by simpa using hcolumns
  have hlines := gridLines_inj h
  simp only [gridLines, columnWidths_block hcolumns hblock, columnWidths_block hcolumns hblock',
    List.flatMap_cons] at hlines
  have hbody := List.append_cancel_left (List.cons.inj hlines).2
  exact block_inj hwidths (by simpa using hblock) (by simpa using hblock') hbody

end Grids

end Text

/-! ### Grids of cells -/

section Cells

variable {γ κ : Type} {symbol : γ → String} {key : γ → κ} {sources destinations : List WorkloadId}
  {rows rows' : List (List (Option γ))}

/-- A place without a cell is left blank. -/
def cellSymbol (symbol : γ → String) (cell : Option γ) : String := (cell.map symbol).getD ""

/-- Cells are shown by symbols that are the same for the same keys only. -/
structure Marks (symbol : γ → String) (key : γ → κ) : Prop where
  mem : ∀ c, symbol c ∈ [".", "X", "?"]
  same_iff : ∀ c c', symbol c = symbol c' ↔ key c = key c'

theorem Marks.cellSymbol_mem (h : Marks symbol key) (x : Option γ) :
    cellSymbol symbol x ∈ Text.symbols := by
  cases x with
  | none => exact List.mem_cons_self
  | some c => exact List.mem_cons_of_mem _ (h.mem c)

theorem Marks.cellSymbol_eq_iff (h : Marks symbol key) {x y : Option γ} :
    cellSymbol symbol x = cellSymbol symbol y ↔ x.map key = y.map key := by
  have hne : ∀ c, symbol c ≠ "" := by
    intro c hc
    have hmem := h.mem c
    rw [hc] at hmem
    revert hmem
    decide
  cases x with
  | none =>
    cases y with
    | none => simp
    | some c => simpa [cellSymbol] using (hne c).symm
  | some c =>
    cases y with
    | none => simpa [cellSymbol] using hne c
    | some c' => simpa [cellSymbol] using h.same_iff c c'

theorem Marks.block (h : Marks symbol key) (height : rows.length = sources.length)
    (width : ∀ row ∈ rows, row.length = destinations.length) :
    Text.Block (rows.map fun cells => cells.map (cellSymbol symbol)) sources.length
      destinations.length := by
  refine ⟨by simpa using height, by simpa using width, ?_⟩
  intro row hrow s hs
  obtain ⟨cells, _, rfl⟩ := List.mem_map.mp hrow
  obtain ⟨x, _, rfl⟩ := List.mem_map.mp hs
  exact h.cellSymbol_mem x

/-- Every id has a slash and so fills a column. -/
theorem WorkloadId.one_le_cellWidth_text (id : WorkloadId) : 1 ≤ Text.cellWidth id.text := by
  have hslash : '/' ∈ id.text.toList := by simp [text]
  exact Text.one_le_cellWidth (by decide) (by decide) (by decide) hslash

theorem symbolGrid_inj {block block' : List (List String)}
    (hblock : Text.Block block sources.length destinations.length)
    (hblock' : Text.Block block' sources.length destinations.length)
    (h : symbolGrid sources destinations block = symbolGrid sources destinations block') :
    block = block' := by
  have hcolumns : ∀ c ∈ destinations.map (·.text), 1 ≤ Text.cellWidth c := by
    intro c hc
    obtain ⟨id, _, rfl⟩ := List.mem_map.mp hc
    exact id.one_le_cellWidth_text
  have hgrid : ∀ block, symbolGrid sources destinations block =
      Text.grid (("-" :: destinations.map (·.text)) ::
        List.zipWith List.cons (sources.map (·.text)) block) := by
    intro block
    rw [symbolGrid, List.zipWith_map_left]
  rw [hgrid, hgrid] at h
  exact Text.grid_block_inj hcolumns (by simpa using hblock) (by simpa using hblock') h

theorem Marks.map_eq_iff (h : Marks symbol key) (height : rows.length = sources.length)
    (width : ∀ row ∈ rows, row.length = destinations.length)
    (height' : rows'.length = sources.length)
    (width' : ∀ row ∈ rows', row.length = destinations.length) :
    (rows.map fun cells => cells.map (cellSymbol symbol)) =
        (rows'.map fun cells => cells.map (cellSymbol symbol)) ↔
      ∀ row col, (gridCell? rows row col).map key = (gridCell? rows' row col).map key := by
  have hplace : ∀ (grid : List (List (Option γ))) (row col : ℕ),
      ((grid.map fun cells => cells.map (cellSymbol symbol))[row]?.bind fun cells => cells[col]?) =
        (grid[row]?.bind fun cells => cells[col]?).map (cellSymbol symbol) := by
    intro grid row col
    rw [List.getElem?_map]
    cases grid[row]? <;> simp
  constructor
  · intro heq row col
    have hsame := hplace rows row col
    rw [heq, hplace] at hsame
    rw [gridCell?, gridCell?]
    cases hx : rows[row]?.bind fun cells => cells[col]? with
    | none =>
      rw [hx, Option.map_none, Option.map_eq_none_iff] at hsame
      rw [hsame]
    | some x =>
      rw [hx] at hsame
      obtain ⟨y, hy, hxy⟩ := Option.map_eq_some_iff.mp hsame
      rw [hy]
      exact (h.cellSymbol_eq_iff.mp hxy).symm
  · intro hcells
    refine List.ext_getElem (by simp [height, height']) fun i hi hi' => ?_
    rw [List.length_map] at hi hi'
    have hlength : rows[i].length = rows'[i].length := by
      rw [width _ (List.getElem_mem hi), width' _ (List.getElem_mem hi')]
    refine List.ext_getElem (by simp [hlength]) fun j hj hj' => ?_
    simp only [List.getElem_map, List.length_map] at hj hj' ⊢
    have hcell := hcells i j
    simp only [gridCell?, List.getElem?_eq_getElem hi, List.getElem?_eq_getElem hi',
      Option.bind_some, List.getElem?_eq_getElem hj, List.getElem?_eq_getElem hj',
      Option.join_some] at hcell
    exact h.cellSymbol_eq_iff.mpr hcell

/-- A grid of cells tells the key of each cell, and nothing else about the cells. -/
theorem Marks.symbolGrid_eq_iff (h : Marks symbol key) (height : rows.length = sources.length)
    (width : ∀ row ∈ rows, row.length = destinations.length)
    (height' : rows'.length = sources.length)
    (width' : ∀ row ∈ rows', row.length = destinations.length) :
    symbolGrid sources destinations (rows.map fun cells => cells.map (cellSymbol symbol)) =
        symbolGrid sources destinations (rows'.map fun cells => cells.map (cellSymbol symbol)) ↔
      ∀ row col, (gridCell? rows row col).map key = (gridCell? rows' row col).map key := by
  rw [← h.map_eq_iff height width height' width']
  constructor
  · intro hgrid
    exact symbolGrid_inj (h.block height width) (h.block height' width') hgrid
  · intro hblock
    rw [hblock]

end Cells

/-! ### Tables and comparisons -/

theorem Verdict.marks {γ : Type} (verdict : γ → Verdict) :
    Marks (fun c => (verdict c).symbol) verdict := by
  have hmem : ∀ v : Verdict, v.symbol ∈ [".", "X", "?"] := by
    intro v
    cases v <;> decide
  have hsame : ∀ v v' : Verdict, v.symbol = v'.symbol ↔ v = v' := by
    intro v v'
    cases v <;> cases v' <;> decide
  exact ⟨fun c => hmem (verdict c), fun c c' => hsame (verdict c) (verdict c')⟩

namespace Agreement

/-- What a comparison shows of a cell. -/
inductive Kind where
  | agree
  | mismatch
  | gap
  deriving DecidableEq

def kind : Agreement → Kind
  | .agree _ => .agree
  | .mismatch .. => .mismatch
  | .gap => .gap

theorem marks : Marks symbol kind := by
  constructor
  · intro a
    cases a <;> simp [symbol]
  · intro a a'
    cases a <;> cases a' <;> simp [symbol, kind]

end Agreement

theorem Table.renderWith_eq_iff {t u : Table} (hs : t.sources = u.sources)
    (hd : t.destinations = u.destinations) (verdict : Cell → Verdict) :
    t.renderWith verdict = u.renderWith verdict ↔
      ∀ row col, (t.cell? row col).map verdict = (u.cell? row col).map verdict := by
  rw [renderWith, renderWith, ← hs, ← hd]
  exact (Verdict.marks verdict).symbolGrid_eq_iff t.height t.width (hs ▸ u.height) (hd ▸ u.width)

theorem Comparison.render_eq_iff {e o e' o' : Table} {c c' : Comparison} (h : e.compare o = .ok c)
    (h' : e'.compare o' = .ok c') (hs : c.sources = c'.sources)
    (hd : c.destinations = c'.destinations) :
    c.render = c'.render ↔
      ∀ row col, (c.cell? row col).map Agreement.kind = (c'.cell? row col).map Agreement.kind := by
  obtain ⟨height, width⟩ := rectangular_of_compare h
  obtain ⟨height', width'⟩ := rectangular_of_compare h'
  rw [render, render, ← hs, ← hd]
  exact Agreement.marks.symbolGrid_eq_iff height width (hs ▸ height') (hd ▸ width')

/-- Tables of the same workloads are the same text just if they have the same verdicts at the same
places, so what is unknown is never taken for anything else. The grids of one direction tell its
verdicts, and those of comparisons where both sides agree, disagree or leave a gap. -/
theorem renderings_tell_cells :
    (∀ t u : Table, t.sources = u.sources → t.destinations = u.destinations →
      (t.render = u.render ↔ ∀ row col,
        (t.cell? row col).map (·.verdict) = (u.cell? row col).map (·.verdict)) ∧
      (t.renderIngress = u.renderIngress ↔ ∀ row col,
        (t.cell? row col).map (·.ingress) = (u.cell? row col).map (·.ingress)) ∧
      (t.renderEgress = u.renderEgress ↔ ∀ row col,
        (t.cell? row col).map (·.egress) = (u.cell? row col).map (·.egress)) ∧
      ∀ row col, (t.cell? row col).map (·.verdict) = some .unknown →
        (u.cell? row col).map (·.verdict) ≠ some .unknown → t.render ≠ u.render) ∧
    ∀ (e o e' o' : Table) (c c' : Comparison), e.compare o = .ok c → e'.compare o' = .ok c' →
      c.sources = c'.sources → c.destinations = c'.destinations →
      (c.render = c'.render ↔ ∀ row col,
        (c.cell? row col).map Agreement.kind = (c'.cell? row col).map Agreement.kind) := by
  refine ⟨fun t u hs hd => ?_, fun e o e' o' c c' => Comparison.render_eq_iff⟩
  have hrender := Table.renderWith_eq_iff hs hd (·.verdict)
  refine ⟨hrender, Table.renderWith_eq_iff hs hd Cell.ingress,
    Table.renderWith_eq_iff hs hd Cell.egress, ?_⟩
  intro row col ht hu heq
  exact hu ((hrender.mp heq row col).symm.trans ht)

namespace Sample

/-- A line with ids that are wide, that stand on two lines or that begin with a mark. -/
def drawn (first second : Option Verdict) (detail : String) : Table where
  probe := scenario.probe
  sources := [⟨"x", "\n界"⟩]
  destinations := [⟨"\u0301", ""⟩, ⟨"界", "a\nb"⟩]
  rows := [[first.map (.observed · detail), second.map (.observed · detail)]]
  height := rfl
  width := by simp

/-- A gap beside an agreement. -/
def halfSeen : Comparison where
  probe := scenario.probe
  sources := [⟨"x", "\n界"⟩]
  destinations := [⟨"\u0301", ""⟩, ⟨"界", "a\nb"⟩]
  rows := [[some .gap, some (.agree .allowed)]]

/-- Two agreements on other verdicts. -/
def wholeSeen : Comparison where
  probe := scenario.probe
  sources := [⟨"x", "\n界"⟩]
  destinations := [⟨"\u0301", ""⟩, ⟨"界", "a\nb"⟩]
  rows := [[some (.agree .denied), some (.agree .allowed)]]

/-- The details of cells do not show, but whether a verdict is unknown or missing does. -/
theorem renderings_drawn :
    (drawn none (some .denied) "first").render = (drawn none (some .denied) "second").render ∧
    (drawn none (some .unknown) "").render ≠ (drawn none none "").render ∧
    (drawn (some .unknown) none "").render ≠ (drawn (some .denied) none "").render ∧
    (drawn (some .denied) (some .allowed) "").compare (drawn (some .unknown) (some .allowed) "") =
      .ok halfSeen ∧
    (drawn (some .denied) (some .allowed) "").compare (drawn (some .denied) (some .allowed) "") =
      .ok wholeSeen ∧
    halfSeen.render ≠ wholeSeen.render := by
  obtain ⟨htables, hcomparisons⟩ := renderings_tell_cells
  have hhalf : (drawn (some .denied) (some .allowed) "").compare
      (drawn (some .unknown) (some .allowed) "") = .ok halfSeen := by decide
  have hwhole : (drawn (some .denied) (some .allowed) "").compare
      (drawn (some .denied) (some .allowed) "") = .ok wholeSeen := by decide
  obtain ⟨hsame, _⟩ := htables (drawn none (some .denied) "first")
    (drawn none (some .denied) "second") rfl rfl
  obtain ⟨_, _, _, hmissing⟩ := htables (drawn none (some .unknown) "") (drawn none none "") rfl rfl
  obtain ⟨_, _, _, hdenied⟩ :=
    htables (drawn (some .unknown) none "") (drawn (some .denied) none "") rfl rfl
  refine ⟨hsame.mpr ?_, hmissing 0 1 (by decide) (by decide), hdenied 0 0 (by decide) (by decide),
    hhalf, hwhole, fun heq => ?_⟩
  · rintro (_ | row) (_ | _ | col) <;> rfl
  · have hkind := (hcomparisons _ _ _ _ _ _ hhalf hwhole rfl rfl).mp heq 0 0
    revert hkind
    decide

end Sample

end PolicyReach
