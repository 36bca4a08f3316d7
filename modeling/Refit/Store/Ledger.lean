import Refit.Fitting.Adapter
import Refit.Store.Scope

/-!
# Stores

A store takes the cells and the adapter reports of a trial.  The ledger keeps them in
memory: a map from addresses to cells in which every cell is written once.  Writing it again is
accepted when it is the same, and refused otherwise.
-/

namespace Refit

/-- A place that results are written to.  Its state after a refusal is part of the answer. -/
structure Archive (σ : Type) where
  enterCells : σ → List (CellAddress × String) → σ × Except Error Unit
  enterReport : σ → String → String → FittingReport → σ × Except Error Unit

structure Ledger where
  /-- The cells in the order of their addresses. -/
  cells : List (CellAddress × String) := []
  /-- The reports by execution and component. -/
  reports : List ((String × String) × FittingReport) := []

namespace Ledger

def get? (s : Ledger) (key : CellAddress) : Option String := s.cells.lookup key

def size (s : Ledger) : Nat := s.cells.length

/-- Writes cells one by one and stops at the first that is already there with another text. -/
def enterCells (s : Ledger) : List (CellAddress × String) → Ledger × Except Error Unit
  | [] => (s, .ok ())
  | (key, cell) :: rest =>
    match s.get? key with
    | some held =>
      if held = cell then s.enterCells rest
      else
        (s, .error (.cellStored key.sheet.scope.sheetId key.row key.column
          key.sheet.scope.candidateId))
    | none => enterCells { s with cells := insertByKey key cell s.cells } rest

/-- The sheets that have a cell, in the order of their keys. -/
def sheets (s : Ledger) : List SheetKey := (s.cells.map (·.1.sheet)).eraseReps

/-- The cells of one sheet. -/
def sheet (s : Ledger) (key : SheetKey) : Sheet :=
  .ofCells key.scope.sheetId
    ((s.cells.filter (·.1.sheet == key)).map fun (k, cell) => ((k.row, k.column), cell))

def enterReport (s : Ledger) (execution candidate : String) (report : FittingReport) :
    Ledger :=
  { s with reports :=
      ((execution, candidate), report) :: s.reports.filter (·.1 ≠ (execution, candidate)) }

def report? (s : Ledger) (execution candidate : String) : Option FittingReport :=
  s.reports.lookup (execution, candidate)

def store : Archive Ledger where
  enterCells := Ledger.enterCells
  enterReport s execution candidate report := (s.enterReport execution candidate report, .ok ())

end Ledger

end Refit
