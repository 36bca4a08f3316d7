import Refit.Sheet.Basic

/-!
# Addresses of stored cells

A stored cell is known by its sheet and its place on it; a sheet by the execution, interface,
action, sequence, component and adapter that it belongs to, and by its kind.
-/

namespace Refit

inductive SheetKind where
  /-- Names the operations of the interface. -/
  | actuation
  /-- Names the members that served them. -/
  | adapted
  deriving DecidableEq, Repr, Inhabited

namespace SheetKind

def rank : SheetKind → Nat
  | actuation => 0
  | adapted => 1

def word : SheetKind → String
  | actuation => "actuation"
  | adapted => "adapted"

def all : List SheetKind := [actuation, adapted]

end SheetKind

/-- What one sheet belongs to. -/
structure Scope where
  executionId : String
  abstractionId : String
  actionId : String
  sheetId : String
  candidateId : String
  adapterId : Nat
  deriving DecidableEq, Repr, Inhabited

instance : Ord Scope where
  compare a b :=
    (compare a.executionId b.executionId).then <|
    (compare a.abstractionId b.abstractionId).then <|
    (compare a.actionId b.actionId).then <|
    (compare a.sheetId b.sheetId).then <|
    (compare a.candidateId b.candidateId).then <|
    compare a.adapterId b.adapterId

/-- A sheet of a scope. -/
structure SheetKey where
  scope : Scope
  kind : SheetKind
  deriving DecidableEq, Repr, Inhabited

instance : Ord SheetKey where
  compare a b := (compare a.scope b.scope).then (compare a.kind.rank b.kind.rank)

structure CellAddress where
  sheet : SheetKey
  row : Nat
  column : Nat
  deriving DecidableEq, Repr, Inhabited

instance : Ord CellAddress where
  compare a b :=
    (compare a.sheet b.sheet).then <| (compare a.row b.row).then <| compare a.column b.column

namespace SheetKey

def cell (k : SheetKey) (row column : Nat) : CellAddress := ⟨k, row, column⟩

/-- The cells of a sheet with their addresses. -/
def addressed (k : SheetKey) (s : Sheet) : List (CellAddress × String) :=
  s.cells.map fun ((row, column), cell) => (k.cell row column, cell)

end SheetKey

/-- Puts an entry in its place by key, over one that is there. -/
def insertByKey [Ord κ] (key : κ) (value : β) : List (κ × β) → List (κ × β)
  | [] => [(key, value)]
  | (k, v) :: rest =>
    match compare key k with
    | .lt => (key, value) :: (k, v) :: rest
    | .eq => (key, value) :: rest
    | .gt => (k, v) :: insertByKey key value rest

end Refit
