import Refit.Execution.Run
import Refit.Sheet.Basic

/-!
# Recording

A run is recorded on two sheets, which differ in one column: the first names the operations of the
interface, the second the members that served them.  Target and inputs are written before a step
runs, output and operation afterwards.
-/

namespace Refit

/-- The two sheets of a run. -/
structure Recording where
  actuation : Sheet
  adapted : Sheet
  deriving DecidableEq, Repr

namespace Recording

def empty (name : String) : Recording := ⟨⟨name, []⟩, ⟨name, []⟩⟩

/-- Writes a cell on one of the sheets, by the way in which it is put back. -/
def putOn (r : Recording) (s : Sheet) (back : Sheet → Recording) (row column : Nat)
    (cell : String) : Recording × Except Error Unit :=
  match s.put row column cell with
  | .ok s => (back s, .ok ())
  | .error e => (r, .error e)

def putAdapted (r : Recording) (row column : Nat) (cell : String) :
    Recording × Except Error Unit :=
  r.putOn r.adapted (fun s => { r with adapted := s }) row column cell

def putActuation (r : Recording) (row column : Nat) (cell : String) :
    Recording × Except Error Unit :=
  r.putOn r.actuation (fun s => { r with actuation := s }) row column cell

/-- Writes a cell on both sheets. -/
def enterBoth (r : Recording) (row column : Nat) (cell : String) : Recording × Except Error Unit :=
  match r.putAdapted row column cell with
  | (r, .error e) => (r, .error e)
  | (r, .ok _) => r.putActuation row column cell

/-- Writes cells on both sheets, side by side from a column on. -/
def putRow (r : Recording) (row column : Nat) : List String → Recording × Except Error Unit
  | [] => (r, .ok ())
  | cell :: rest =>
    match r.enterBoth row column cell with
    | (r, .error e) => (r, .error e)
    | (r, .ok _) => r.putRow row (column + 1) rest

/-- The cell for the target of a step. -/
def targetCell (e : CellText.Encoder) (s : RunStep) : String :=
  match s.step.kind, s.target with
  | .construct typeName, _ => CellText.ofText typeName
  | .call typeName _ none, _ => CellText.ofText typeName
  | .call _ _ (some _), some target => e.value target
  | _, _ => CellText.ofText CellText.missingMarker

/-- Target and inputs, before the step can change them. -/
def before (host : Host) (heap : Heap) (run : Run) (s : RunStep) (r : Recording) :
    Recording × Except Error Unit :=
  let e : CellText.Encoder := ⟨run.producers, host, heap⟩
  r.putRow s.step.position Sheet.targetColumn (targetCell e s :: s.inputs.map e.value)

/-- Output and operation. -/
def after (host : Host) (heap : Heap) (run : Run) (s : RunStep) (r : Recording) :
    Recording × Except Error Unit :=
  let row := s.step.position
  let e : CellText.Encoder := ⟨run.producers, host, heap⟩
  let (r, written) :=
    match s.output with
    | some output => r.enterBoth row Sheet.outputColumn (e.output output)
    | none => (r, .ok ())
  match written with
  | .error error => (r, .error error)
  | .ok _ =>
    match r.putActuation row Sheet.operationColumn (CellText.ofText s.nominal) with
    | (r, .error error) => (r, .error error)
    | (r, .ok _) =>
      r.putAdapted row Sheet.operationColumn (CellText.ofText (s.adapted.getD s.nominal))

end Recording

/-- Records what it sees. -/
def Observer.recorder (host : Host) : Observer Recording :=
  ⟨Recording.before host, Recording.after host⟩

end Refit
