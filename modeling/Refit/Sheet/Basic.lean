import Refit.Error

/-!
# Sheets

A sheet is a sparse table of encoded cells, in which every cell is written once.  A row is a step of
a sequence; the columns hold its output, its operation, its target and its inputs.
-/

namespace Refit

structure Sheet where
  name : String
  /-- The cells by row and column, in that order. -/
  cells : List ((Nat × Nat) × String) := []
  deriving DecidableEq, Repr, Inhabited

namespace Sheet

def outputColumn : Nat := 0
def operationColumn : Nat := 1
def targetColumn : Nat := 2
def firstInputColumn : Nat := 3

/-- Whether one place comes before another, row by row. -/
def before (a b : Nat × Nat) : Bool := a.1 < b.1 || (a.1 == b.1 && a.2 < b.2)

/-- Writes a cell in its place, over one that is there. -/
def insertCell (key : Nat × Nat) (cell : String) :
    List ((Nat × Nat) × String) → List ((Nat × Nat) × String)
  | [] => [(key, cell)]
  | (other, held) :: rest =>
    if key = other then (key, cell) :: rest
    else if before key other then (key, cell) :: (other, held) :: rest
    else (other, held) :: insertCell key cell rest

def get? (s : Sheet) (row column : Nat) : Option String := s.cells.lookup (row, column)

/-- Writes a cell that is not there yet. -/
def put (s : Sheet) (row column : Nat) (cell : String) : Except Error Sheet :=
  match s.get? row column with
  | some held => .error (.occupiedCell row column s.name held)
  | none => .ok { s with cells := insertCell (row, column) cell s.cells }

/-- The cells in a sheet; of several with one place the last counts. -/
def ofCells (name : String) (cells : List ((Nat × Nat) × String)) : Sheet :=
  ⟨name, cells.foldl (fun done (key, cell) => insertCell key cell done) []⟩

/-- The number of the last row and one. -/
def rows (s : Sheet) : Nat := s.cells.foldl (fun n ((row, _), _) => max n (row + 1)) 0

def column (s : Sheet) (column : Nat) : List (Option String) :=
  (List.range s.rows).map fun row => s.get? row column

def size (s : Sheet) : Nat := s.cells.length

end Sheet

end Refit
