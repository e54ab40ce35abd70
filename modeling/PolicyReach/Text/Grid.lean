import PolicyReach.Text.Columns
import PolicyReach.Text.Pieces

/-!
# Tables drawn in a terminal

Cells are padded with a blank on either side and stand left and at the top; a rule of dashes runs
above and below every row. A cell may have several lines.
-/
namespace PolicyReach.Text

def lines (cell : String) : List (List Char) := pieces '\n' cell.toList

/-- The columns of the widest line. -/
def cellWidth (cell : String) : Nat := ((lines cell).map columns).foldl max 0

def rowHeight (row : List String) : Nat := (row.map fun cell => (lines cell).length).foldl max 0

/-- The widths of two rows' columns together, the rows being as long as one another. -/
def widen : List Nat → List Nat → List Nat
  | w :: ws, v :: vs => max w v :: widen ws vs
  | [], vs => vs
  | ws, [] => ws

def columnWidths (rows : List (List String)) : List Nat :=
  rows.foldl (fun widths row => widen widths (row.map cellWidth)) []

def padded (width : Nat) (line : List Char) : List Char :=
  ' ' :: line ++ List.replicate (width - columns line + 1) ' '

def rule (widths : List Nat) : List Char :=
  '+' :: widths.flatMap fun w => List.replicate (w + 2) '-' ++ ['+']

/-- Line `i` of a row of cells. -/
def rowLine (widths : List Nat) (row : List String) (i : Nat) : List Char :=
  '|' :: (widths.zip row).flatMap fun c => padded c.1 ((lines c.2)[i]?.getD []) ++ ['|']

def rowLines (widths : List Nat) (row : List String) : List (List Char) :=
  (List.range (rowHeight row)).map (rowLine widths row)

def gridLines (rows : List (List String)) : List (List Char) :=
  let widths := columnWidths rows
  rule widths :: rows.flatMap fun row => rowLines widths row ++ [rule widths]

def grid (rows : List (List String)) : String :=
  String.intercalate "\n" ((gridLines rows).map String.ofList)

end PolicyReach.Text
