import Refit.Execution.Script
import Refit.Execution.Sequence
import Refit.Sheet.Basic
import Refit.Wire.Candidates

/-!
# Hosts, sequences and sheets as JSON
-/

namespace Refit.Wire

/-- What the code of a member does, by the name in the field `do`. -/
def behaviour (f : Fields) : Reading Behaviour := do
  match ← needText f "do" with
  | "new" => pure .new
  | "new_unit" => pure .newUnit
  | "make" => do pure (.make (← needText f "makes"))
  | "push" => pure .push
  | "put" => pure .put
  | "pop" => pure .pop
  | "peek" => pure .peek
  | "size" => pure .size
  | "clear" => pure .clear
  | "items" => pure .items
  | "get" => pure .get
  | "contains" => pure .contains
  | "this" => pure .this
  | "const" =>
    match given? f "value" with
    | some v => do pure (.const (← value v))
    | none => pure (.const .null)
  | "args" => pure .args
  | "eval" => do pure (.eval (← needText f "text"))
  | "fault" => do
    let kind ← needText f "kind"
    match given? f "message" with
    | some v => do pure (.fail ⟨kind, some (← orMalformed "message" v.text?)⟩)
    | none => pure (.fail ⟨kind, none⟩)
  | "panic" => do pure (.breakDown (some (← textOr f "message" "")))
  | "panic_other" => pure (.breakDown none)
  | "panic_locked" => pure .breakDownLocked
  | "hang" => pure .hang
  | name => pure (.unknown name)

/-- The script of a member.  A constructor has the name of constructors, whatever it is called. -/
def memberScript (value : Json) : Reading MemberScript := do
  let f ← fields "members" value
  let typeName ← needText f "type"
  let name ← textOr f "name" Member.constructorName
  let params ← each typeAt (← listOf f "params")
  let fallback := if name = Member.constructorName then "constructor" else "method"
  let via ← textOr f "via" fallback
  let behaviour ← behaviour f
  match via with
  | "constructor" => pure ⟨typeName, Member.constructorName, params, .never, behaviour, false⟩
  | "static" => pure ⟨typeName, name, params, .never, behaviour, false⟩
  | "method" => pure ⟨typeName, name, params, .always, behaviour, false⟩
  | "context" | "register" => pure ⟨typeName, name, params, .asGiven, behaviour, false⟩
  | _ => throw (.malformed "via")

def pair (name : String) (value : Json) : Reading (Json × Json) :=
  match value with
  | .list [a, b] => pure (a, b)
  | _ => throw (.malformed name)

def snapshotScript (mode : Json) : SnapshotScript :=
  match mode with
  | .text "none" => .nothing
  | .text "items" => .items
  | value => .fixed value

/-- The host in a field; one without code when the field is missing. -/
def hostIn (f : Fields) : Reading HostScript := do
  match given? f "host" with
  | none => pure {}
  | some value => do
    let f ← fields "host" value
    let scripts ← each memberScript (← listOf f "members")
    let closed ← each (pair "seal") (← listOf f "seal")
    let views ← each (pair "snapshots") (← listOf f "snapshots")
    let host := scripts.foldl HostScript.register {}
    let host ← closed.foldlM (fun (h : HostScript) (typeName, name) => do
      pure (h.close (← orMalformed "seal" typeName.text?) (← orMalformed "seal" name.text?))) host
    views.foldlM (fun (h : HostScript) (typeName, mode) => do
      pure (h.view (← orMalformed "snapshots" typeName.text?) (snapshotScript mode))) host

def stepInput (v : Json) : Reading StepInput :=
  match v with
  | .record f =>
    match Json.field? "step" f with
    | some n => do pure (.ref (← orMalformed "step" (natural? n)))
    | none => do pure (.literal (← value v))
  | _ => throw (.malformed "in")

def stepKind (v : Json) : Reading (StepKind × List StepInput) := do
  let f ← fields "steps" v
  match given? f "eval", given? f "new" with
  | some text, _ => do pure (.eval (← orMalformed "eval" text.text?), [])
  | none, some typeName => do
    let typeName ← orMalformed "new" typeName.text?
    pure (.construct typeName, ← each stepInput (← listOf f "in"))
  | none, none => do
    let typeName ← needText f "type"
    let method ← needText f "call"
    let receiver ← nat? f "on"
    pure (.call typeName method receiver, ← each stepInput (← listOf f "in"))

/-- A sequence; one that is not to be checked is taken as it is. -/
def sequence (v : Json) : Reading Sequence := do
  let f ← fields "sequence" v
  let name ← textOr f "name" "seq"
  let kinds ← each stepKind (← listOf f "steps")
  if ← flagOr f "unchecked" false then pure (Sequence.ofKinds name kinds)
  else ofResult (Sequence.build name kinds)

def writeStepInput : StepInput → Json
  | .literal v => writeValue v
  | .ref n => .record [("step", .nat n)]

def writeStep (s : Step) : Json :=
  let kind :=
    match s.kind with
    | .construct _ => "construct"
    | .call .. => "call"
    | .eval _ => "eval"
  .record [("position", .nat s.position), ("kind", .text kind), ("operation", .text s.operation),
    ("type", Json.orNull .text s.typeName?), ("references", .list (s.references.map .nat)),
    ("inputs", .list (s.inputs.map writeStepInput))]

/-- Row, column and text of a cell. -/
def sheetCell (v : Json) : Reading ((Nat × Nat) × String) :=
  match v with
  | .list (row :: column :: .text cell :: _) => do
    pure ((← orMalformed "cells" (natural? row), ← orMalformed "cells" (natural? column)), cell)
  | _ => throw (.malformed "cells")

/-- A sheet into which the cells are put one after the other. -/
def sheet (v : Json) : Reading Sheet := do
  let f ← fields "sheet" v
  let name ← textOr f "name" ""
  let cells ← each sheetCell (← listOf f "cells")
  cells.foldlM (fun (s : Sheet) ((row, column), cell) => ofResult (s.put row column cell))
    ⟨name, []⟩

def writeSheet (s : Sheet) : Json :=
  .list (s.cells.map fun ((row, column), cell) => .list [.nat row, .nat column, .text cell])

end Refit.Wire
