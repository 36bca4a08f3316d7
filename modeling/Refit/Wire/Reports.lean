import Refit.Fitting.Adapter
import Refit.Json.Outline
import Refit.Store.Scope
import Refit.Trial.Report
import Refit.Wire.Shape

/-!
# Reports as JSON

Adapter reports, the outcome of trials, and the keys of stored cells, read and written.
-/

namespace Refit.Wire

/-- Text fields and number fields of a record in the making, by name. -/
structure Filled where
  texts : List (String × String) := []
  numbers : List (String × Nat) := []

def Filled.text? (f : Filled) (name : String) : Option String := f.texts.lookup name

def Filled.number? (f : Filled) (name : String) : Option Nat := f.numbers.lookup name

/-- Reads a field that is one of the named texts or numbers. -/
def Filled.field? (texts numbers : List String) (f : Filled) (key : String) (value : Json) :
    Option (Read Filled) :=
  if texts.contains key then
    some ((text value).map fun s => { f with texts := (key, s) :: f.texts })
  else if numbers.contains key then
    some ((natural value).map fun n => { f with numbers := (key, n) :: f.numbers })
  else none

structure OperationReportDraft where
  filled : Filled := {}
  positions : Option (List Nat) := none
  conversions : Option (List String) := none

def operationReportField (d : OperationReportDraft) (key : String) (value : Json) :
    Read OperationReportDraft :=
  match d.filled.field? ["operation", "member", "declaring", "return_conversion"] [] key value with
  | some read => read.map fun filled => { d with filled }
  | none =>
    match key with
    | "positions" => (list natural value).map fun ns => { d with positions := some ns }
    | "conversions" => (list text value).map fun ss => { d with conversions := some ss }
    | _ => .ok d

def OperationReportDraft.finish? (d : OperationReportDraft) : Option OperationReport := do
  some
    { operation := ← d.filled.text? "operation", member := ← d.filled.text? "member"
      declaring := ← d.filled.text? "declaring", positions := ← d.positions
      conversions := ← d.conversions, returnConversion := ← d.filled.text? "return_conversion" }

def operationReportNames : List String :=
  ["operation", "member", "declaring", "positions", "conversions", "return_conversion"]

def operationReport : Json → Read OperationReport :=
  structure_ operationReportNames 6 ({} : OperationReportDraft) operationReportField
    OperationReportDraft.finish?

def writeOperationReport (r : OperationReport) : Json :=
  .record [("operation", .text r.operation), ("member", .text r.member),
    ("declaring", .text r.declaring), ("positions", .list (r.positions.map .nat)),
    ("conversions", .texts r.conversions), ("return_conversion", .text r.returnConversion)]

structure AdapterReportDraft where
  filled : Filled := {}
  initializers : Option (List OperationReport) := none
  methods : Option (List OperationReport) := none

def adapterReportField (d : AdapterReportDraft) (key : String) (value : Json) :
    Read AdapterReportDraft :=
  match d.filled.field? ["candidate_id", "component"] ["adapter_id"] key value with
  | some read => read.map fun filled => { d with filled }
  | none =>
    match key with
    | "initializers" =>
      (list operationReport value).map fun rs => { d with initializers := some rs }
    | "methods" => (list operationReport value).map fun rs => { d with methods := some rs }
    | _ => .ok d

def AdapterReportDraft.finish? (d : AdapterReportDraft) : Option AdapterReport := do
  some
    { adapterId := ← d.filled.number? "adapter_id"
      candidateId := ← d.filled.text? "candidate_id", component := ← d.filled.text? "component"
      initializers := ← d.initializers, methods := ← d.methods }

def adapterReport : Json → Read AdapterReport :=
  structure_ ["adapter_id", "candidate_id", "component", "initializers", "methods"] 5
    ({} : AdapterReportDraft) adapterReportField AdapterReportDraft.finish?

def adapterReportOutline : Json.Outline :=
  let operations : Json.Outline := .list (.fields operationReportNames)
  .record [("adapter_id", .whole), ("candidate_id", .whole), ("component", .whole),
    ("initializers", operations), ("methods", operations)]

def writeAdapterReport (r : AdapterReport) : Json :=
  .record [("adapter_id", .nat r.adapterId), ("candidate_id", .text r.candidateId),
    ("component", .text r.component),
    ("initializers", .list (r.initializers.map writeOperationReport)),
    ("methods", .list (r.methods.map writeOperationReport))]

structure FittingReportDraft where
  interface : Option String := none
  adapters : Option (List AdapterReport) := none

def fittingReportField (d : FittingReportDraft) (key : String) (value : Json) :
    Read FittingReportDraft :=
  match key with
  | "interface" => (text value).map fun s => { d with interface := some s }
  | "adapters" => (list adapterReport value).map fun rs => { d with adapters := some rs }
  | _ => .ok d

def fittingReport : Json → Read FittingReport :=
  structure_ ["interface", "adapters"] 2 ({} : FittingReportDraft) fittingReportField fun d =>
    match d.interface, d.adapters with
    | some interface, some adapters => some ⟨interface, adapters⟩
    | _, _ => none

def fittingReportOutline : Json.Outline :=
  .record [("interface", .whole), ("adapters", .list adapterReportOutline)]

def writeFittingReport (r : FittingReport) : Json :=
  .record [("interface", .text r.interface),
    ("adapters", .list (r.adapters.map writeAdapterReport))]

/-- A value whose kind stands in the field `tag`, or in front of a list.  The kind decides how the
other fields are read; a list that goes on after them is refused. -/
def tagged (tag : String) (variant : String → Option (Json → Read α)) (value : Json) : Read α :=
  let read (kind : Json) (rest : Json) : Read α :=
    match kind with
    | .text word =>
      match variant word with
      | some reader => reader rest
      | none => .error .shape
    | _ => .error .shape
  match value with
  | .record fields =>
    match Json.field? tag fields with
    | some kind => read kind (.record (fields.filter (·.1 ≠ tag)))
    | none => .error .shape
  | .list (kind :: rest) => read kind (.list rest)
  | _ => .error .shape

/-- Nothing more than the kind. -/
def bare (a : α) : Json → Read α
  | .list [] | .record _ => .ok a
  | _ => .error .shape

/-- One more field than the kind. -/
def single (name : String) (read : Json → Read β) (make : β → α) : Json → Read α :=
  structure_ [name] 1 (none : Option β)
    (fun d key value => if key = name then (read value).map some else .ok d)
    (·.map make)

def verdict : Json → Read Verdict :=
  tagged "status" fun word =>
    match word with
    | "adapted" => some (single "adapters" natural .adapted)
    | "not_adaptable" => some (bare .notAdaptable)
    | "failed" => some (single "reason" text .failed)
    | _ => none

def writeVerdict : Verdict → Json
  | .adapted n => .record [("status", .text "adapted"), ("adapters", .nat n)]
  | .notAdaptable => .record [("status", .text "not_adaptable")]
  | .failed reason => .record [("status", .text "failed"), ("reason", .text reason)]

def runEnding : Json → Read RunEnding :=
  tagged "outcome" fun word =>
    match word with
    | "completed" => some (bare .completed)
    | "aborted" => some (single "reason" text .aborted)
    | _ => none

def writeRunEnding : RunEnding → Json
  | .completed => .record [("outcome", .text "completed")]
  | .aborted reason => .record [("outcome", .text "aborted"), ("reason", .text reason)]

structure SummaryDraft where
  filled : Filled := {}
  status : Option Verdict := none

def summaryField (d : SummaryDraft) (key : String) (value : Json) : Read SummaryDraft :=
  match d.filled.field? ["candidate_id", "component"] [] key value with
  | some read => read.map fun filled => { d with filled }
  | none =>
    if key = "status" then (verdict value).map fun s => { d with status := some s }
    else .ok d

def SummaryDraft.finish? (d : SummaryDraft) : Option ComponentSummary := do
  some ⟨← d.filled.text? "candidate_id", ← d.filled.text? "component", ← d.status⟩

def componentSummary : Json → Read ComponentSummary :=
  structure_ ["candidate_id", "component", "status"] 3 ({} : SummaryDraft) summaryField
    SummaryDraft.finish?

def writeComponentSummary (s : ComponentSummary) : Json :=
  .record [("candidate_id", .text s.candidateId), ("component", .text s.component),
    ("status", writeVerdict s.status)]

def sheetKind : Json → Read SheetKind := word SheetKind.all SheetKind.word

def scopeTexts : List String :=
  ["execution_id", "abstraction_id", "action_id", "sheet_id", "candidate_id"]

def scopeField (f : Filled) (key : String) (value : Json) : Read Filled :=
  (f.field? scopeTexts ["adapter_id"] key value).getD (.ok f)

def Filled.scope? (f : Filled) : Option Scope := do
  some
    { executionId := ← f.text? "execution_id", abstractionId := ← f.text? "abstraction_id"
      actionId := ← f.text? "action_id", sheetId := ← f.text? "sheet_id"
      candidateId := ← f.text? "candidate_id", adapterId := ← f.number? "adapter_id" }

def scopeNames : List String := scopeTexts ++ ["adapter_id"]

def scope : Json → Read Scope :=
  structure_ scopeNames 6 ({} : Filled) scopeField Filled.scope?

def scopeFields (s : Scope) : List (String × Json) :=
  [("execution_id", .text s.executionId), ("abstraction_id", .text s.abstractionId),
   ("action_id", .text s.actionId), ("sheet_id", .text s.sheetId),
   ("candidate_id", .text s.candidateId), ("adapter_id", .nat s.adapterId)]

def writeScope (s : Scope) : Json := .record (scopeFields s)

structure CellAddressDraft where
  filled : Filled := {}
  kind : Option SheetKind := none

def cellAddressField (d : CellAddressDraft) (key : String) (value : Json) : Read CellAddressDraft :=
  match d.filled.field? scopeTexts ["adapter_id", "row", "column"] key value with
  | some read => read.map fun filled => { d with filled }
  | none =>
    if key = "kind" then (sheetKind value).map fun k => { d with kind := some k } else .ok d

def CellAddressDraft.finish? (d : CellAddressDraft) : Option CellAddress := do
  some ⟨⟨← d.filled.scope?, ← d.kind⟩, ← d.filled.number? "row", ← d.filled.number? "column"⟩

def cellAddress : Json → Read CellAddress :=
  structure_ (scopeTexts ++ ["adapter_id", "kind", "row", "column"]) 9 ({} : CellAddressDraft)
    cellAddressField CellAddressDraft.finish?

def writeCellAddress (k : CellAddress) : Json :=
  .record (scopeFields k.sheet.scope ++
    [("kind", .text k.sheet.kind.word), ("row", .nat k.row), ("column", .nat k.column)])

end Refit.Wire
