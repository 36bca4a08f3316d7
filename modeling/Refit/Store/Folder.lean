import Refit.Json.Outline
import Refit.Json.Writer
import Refit.Store.Files
import Refit.Store.Ledger
import Refit.Wire.Reports

/-!
# A store in a folder

Every sheet is a JSON file of its own, at `execution/candidate/adapter/sheet.kind.json` below the
root, and every report another.  New cells are merged into the file; a cell that is there with
another text is refused.
-/

namespace Refit

/-- A sheet as its file holds it. -/
structure SheetDocument where
  key : SheetKey
  cells : List ((Nat × Nat) × String)

namespace SheetDocument

def writeCell (cell : (Nat × Nat) × String) : Json :=
  .record [("row", .nat cell.1.1), ("column", .nat cell.1.2), ("value", .text cell.2)]

def write (s : SheetDocument) : Json :=
  .record [("scope", Wire.writeScope s.key.scope), ("kind", .text s.key.kind.word),
    ("cells", .list (s.cells.map writeCell))]

def cellField (f : Wire.Filled) (key : String) (value : Json) : Wire.Read Wire.Filled :=
  (f.field? ["value"] ["row", "column"] key value).getD (.ok f)

def cellNames : List String := ["row", "column", "value"]

def cell : Json → Wire.Read ((Nat × Nat) × String) :=
  Wire.structure_ cellNames 3 ({} : Wire.Filled) cellField fun f => do
    some ((← f.number? "row", ← f.number? "column"), ← f.text? "value")

structure Draft where
  scope : Option Scope := none
  kind : Option SheetKind := none
  cells : Option (List ((Nat × Nat) × String)) := none

def field (d : Draft) (key : String) (value : Json) : Wire.Read Draft :=
  match key with
  | "scope" => (Wire.scope value).map fun s => { d with scope := some s }
  | "kind" => (Wire.sheetKind value).map fun k => { d with kind := some k }
  | "cells" => (Wire.list cell value).map fun cs => { d with cells := some cs }
  | _ => .ok d

def Draft.finish? (d : Draft) : Option SheetDocument := do
  some ⟨⟨← d.scope, ← d.kind⟩, ← d.cells⟩

def ofJson : Json → Wire.Read SheetDocument :=
  Wire.structure_ ["scope", "kind", "cells"] 3 ({} : Draft) field Draft.finish?

def outline : Json.Outline :=
  .record [("scope", .fields Wire.scopeNames), ("kind", .whole),
    ("cells", .list (.fields cellNames))]

/-- Reads the text of a file, in which fields of other names count for nothing. -/
def parse? (text : String) : Option SheetDocument :=
  match Json.parseOutlined? outline text with
  | some value =>
    match ofJson value with
    | .ok s => some s
    | .error _ => none
  | none => none

end SheetDocument

/-- A store in the folder `root` of a file system, by which name messages call it. -/
structure FolderStore where
  root : String
  files : FileSystem := {}

namespace FolderStore

/-- An id as one part of a path: slashes become two underscores and colons one. -/
def part (id : String) : String :=
  String.ofList (id.toList.flatMap fun c =>
    if c = '/' || c = '\\' then ['_', '_'] else if c = ':' then ['_'] else [c])

def candidateParts (execution candidate : String) : List String := [part execution, part candidate]

def sheetParts (key : SheetKey) : List String :=
  candidateParts key.scope.executionId key.scope.candidateId ++
    [Nat.repr key.scope.adapterId, part key.scope.sheetId ++ "." ++ key.kind.word ++ ".json"]

def reportParts (execution candidate : String) : List String :=
  candidateParts execution candidate ++ ["report.json"]

/-- The path as messages show it. -/
def shown (s : FolderStore) (parts : List String) : String :=
  "/".intercalate (s.root :: parts.filter (· ≠ ""))

/-- The cells that are stored for a sheet. -/
def storedCells (s : FolderStore) (key : SheetKey) :
    Except Error (List ((Nat × Nat) × String)) :=
  let path := sheetParts key
  if !s.files.contains path then .ok []
  else
    match s.files.read path with
    | .error e => .error e
    | .ok text =>
      match SheetDocument.parse? text with
      | some stored => .ok (Sheet.ofCells "" stored.cells).cells
      | none => .error (.unreadableSheet (s.shown path))

/-- A stored sheet; one that was never written is empty. -/
def sheet (s : FolderStore) (key : SheetKey) : Except Error Sheet :=
  (s.storedCells key).map fun cells => ⟨key.scope.sheetId, cells⟩

/-- Adds cells to those of a sheet; the first one that is there with another text is refused. -/
def merge (s : FolderStore) (key : SheetKey) (held : List ((Nat × Nat) × String)) :
    List ((Nat × Nat) × String) → Except Error (List ((Nat × Nat) × String))
  | [] => .ok held
  | (place, cell) :: rest =>
    match held.lookup place with
    | some other =>
      if other = cell then s.merge key held rest
      else
        .error (.cellStoredIn key.scope.sheetId place.1 place.2 (s.shown (sheetParts key)))
    | none => s.merge key (Sheet.insertCell place cell held) rest

/-- Writes the cells of one sheet. -/
def putSheet (s : FolderStore) (key : SheetKey) (cells : List ((Nat × Nat) × String)) :
    FolderStore × Except Error Unit :=
  match s.storedCells key with
  | .error e => (s, .error e)
  | .ok held =>
    match s.merge key held cells with
    | .error e => (s, .error e)
    | .ok merged =>
      let (files, result) :=
        s.files.writeBelow (sheetParts key)
          (SheetDocument.mk key merged).write.pretty
      ({ s with files }, result)

/-- Adds a cell to those of its sheet. -/
def group (key : SheetKey) (cell : (Nat × Nat) × String) :
    List (SheetKey × List ((Nat × Nat) × String)) → List (SheetKey × List ((Nat × Nat) × String))
  | [] => [(key, [cell])]
  | (k, cells) :: rest =>
    match compare key k with
    | .lt => (key, [cell]) :: (k, cells) :: rest
    | .eq => (k, cells ++ [cell]) :: rest
    | .gt => (k, cells) :: group key cell rest

/-- The cells by sheet, the sheets in the order of their keys. -/
def grouped (cells : List (CellAddress × String)) :
    List (SheetKey × List ((Nat × Nat) × String)) :=
  cells.foldl (fun done (key, cell) => group key.sheet ((key.row, key.column), cell) done) []

/-- Writes sheet after sheet and stops at the first that is refused. -/
def putSheets (s : FolderStore) :
    List (SheetKey × List ((Nat × Nat) × String)) → FolderStore × Except Error Unit
  | [] => (s, .ok ())
  | (key, cells) :: rest =>
    match s.putSheet key cells with
    | (s, .error e) => (s, .error e)
    | (s, .ok _) => s.putSheets rest

def enterCells (s : FolderStore) (cells : List (CellAddress × String)) :
    FolderStore × Except Error Unit :=
  s.putSheets (grouped cells)

def enterReport (s : FolderStore) (execution candidate : String) (report : FittingReport) :
    FolderStore × Except Error Unit :=
  let (files, result) :=
    s.files.writeBelow (reportParts execution candidate)
      (Wire.writeFittingReport report).pretty
  ({ s with files }, result)

/-- A stored report, if there is one. -/
def report? (s : FolderStore) (execution candidate : String) :
    Except Error (Option FittingReport) :=
  let path := reportParts execution candidate
  if !s.files.contains path then .ok none
  else
    match s.files.read path with
    | .error e => .error e
    | .ok text =>
      match (Json.parseOutlined? Wire.fittingReportOutline text).map Wire.fittingReport with
      | some (.ok report) => .ok (some report)
      | _ => .error .serialization

def store : Archive FolderStore := ⟨enterCells, enterReport⟩

end FolderStore

end Refit
