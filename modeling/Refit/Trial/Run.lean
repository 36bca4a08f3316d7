import Refit.Fitting.Cache
import Refit.Store.Ledger
import Refit.Trial.Report

/-!
# Running a trial

Components are tried one after the other.  What goes wrong with one does not touch the others: an
adapter that cannot be bound is left out, one that is closed has its sequences recorded as aborted.
Only a refusal of the store ends the trial.
-/

namespace Refit

/-- What stays the same from one request to the next. -/
structure Trial where
  settings : Settings
  host : Host
  fitter : Fitter

/-- What requests change, besides the components, which become resolved. -/
structure TrialState (σ : Type) where
  cache : AdapterCache
  heap : Heap
  store : σ

namespace Trial

def make (settings : Settings) (host : Host) : Except Error Trial :=
  match settings.validate with
  | .error e => .error e
  | .ok _ => .ok ⟨settings, host, .ofSettings settings⟩

/-- The state before the first request. -/
def start (t : Trial) (heap : Heap) (store : σ) : TrialState σ :=
  ⟨.empty t.settings.cacheCapacity, heap, store⟩

/-- The scope of the sheets of one sequence on one adapter. -/
def scopeOf (request : TrialRequest) (a : Adapter) (sequence : String) : Scope :=
  ⟨request.executionId, request.interface.name, request.actionId, sequence, a.candidateId,
    a.adapterId⟩

/-- Runs one sequence on a bound adapter and stores its sheets. -/
def runSequence (t : Trial) (stores : Archive σ) (request : TrialRequest) (catalog : Catalog)
    (binding : Binding) (sequence : Sequence) (heap : Heap) (store : σ) :
    Heap × σ × Except Error RunRecord :=
  let adapter := binding.adapter
  let runner : Runner :=
    { interface := request.interface, binding, host := t.host, catalog
      deadline := t.settings.invocationTimeout }
  let done :=
    runner.execute (Observer.recorder t.host) sequence heap (Recording.empty sequence.name)
  let outcome : RunEnding :=
    match done.result with
    | .ok _ => .completed
    | .error e => .aborted e.message
  let recording := done.visitor
  let scope := scopeOf request adapter sequence.name
  match stores.enterCells store (SheetKey.addressed ⟨scope, .actuation⟩ recording.actuation) with
  | (store, .error e) => (done.heap, store, .error e)
  | (store, .ok _) =>
    match stores.enterCells store (SheetKey.addressed ⟨scope, .adapted⟩ recording.adapted) with
    | (store, .error e) => (done.heap, store, .error e)
    | (store, .ok _) =>
      (done.heap, store, .ok
        ⟨adapter.candidateId, adapter.adapterId, sequence.name, outcome, recording⟩)

/-- Runs sequences one after the other. -/
def runSequences (t : Trial) (stores : Archive σ) (request : TrialRequest) (catalog : Catalog)
    (binding : Binding) :
    List Sequence → Heap → σ → Heap × σ × Except Error (List RunRecord)
  | [], heap, store => (heap, store, .ok [])
  | sequence :: rest, heap, store =>
    match t.runSequence stores request catalog binding sequence heap store with
    | (heap, store, .error e) => (heap, store, .error e)
    | (heap, store, .ok record) =>
      match t.runSequences stores request catalog binding rest heap store with
      | (heap, store, .error e) => (heap, store, .error e)
      | (heap, store, .ok records) => (heap, store, .ok (record :: records))

/-- The records of sequences that an adapter with a closed member cannot run. -/
def abortedRecords (request : TrialRequest) (c : Component) (a : Adapter) (e : Error) :
    List RunRecord :=
  request.sequences.map fun sequence =>
    ⟨c.id, a.adapterId, sequence.name, .aborted e.message, .empty sequence.name⟩

/-- Tries the adapters of a component.  The answer holds the records and the reasons for which
adapters could not be bound. -/
def tryAdapters (t : Trial) (stores : Archive σ) (request : TrialRequest) (catalog : Catalog)
    (c : Component) :
    List Adapter → Heap → σ → Heap × σ × Except Error (List RunRecord × List String)
  | [], heap, store => (heap, store, .ok ([], []))
  | a :: rest, heap, store =>
    match Binding.bind t.host a with
    | .ok binding =>
      match t.runSequences stores request catalog binding request.sequences heap store with
      | (heap, store, .error e) => (heap, store, .error e)
      | (heap, store, .ok records) =>
        match t.tryAdapters stores request catalog c rest heap store with
        | (heap, store, .error e) => (heap, store, .error e)
        | (heap, store, .ok (more, failures)) => (heap, store, .ok (records ++ more, failures))
    | .error e =>
      match t.tryAdapters stores request catalog c rest heap store with
      | (heap, store, .error e) => (heap, store, .error e)
      | (heap, store, .ok (more, failures)) =>
        if e.stopsRun then (heap, store, .ok (abortedRecords request c a e ++ more, failures))
        else (heap, store, .ok (more, e.message :: failures))

/-- The status of a component with adapters, some of which could not be bound. -/
def statusAfter (adapters : List Adapter) (failures : List String) : Verdict :=
  if failures.length = adapters.length then .failed ("; ".intercalate failures)
  else .adapted (adapters.length - failures.length)

/-- Tries one component. -/
def tryComponent (t : Trial) (stores : Archive σ) (request : TrialRequest) (catalog : Catalog)
    (c : Component) (s : TrialState σ) :
    TrialState σ × Except Error (ComponentSummary × List RunRecord) :=
  let (adapters, cache) := s.cache.fetch t.fitter c request.interface catalog t.settings
  let s := { s with cache }
  if adapters.isEmpty then (s, .ok (⟨c.id, c.name, .notAdaptable⟩, []))
  else
    match stores.enterReport s.store request.executionId c.id (.of request.interface adapters) with
    | (store, .error e) => ({ s with store }, .error e)
    | (store, .ok _) =>
      match t.tryAdapters stores request catalog c adapters s.heap store with
      | (heap, store, .error e) => ({ s with heap, store }, .error e)
      | (heap, store, .ok (records, failures)) =>
        ({ s with heap, store }, .ok (⟨c.id, c.name, statusAfter adapters failures⟩, records))

/-- Tries components one after the other and adds what comes of them to a report. -/
def tryComponents (t : Trial) (stores : Archive σ) (request : TrialRequest)
    (catalog : Catalog) :
    List Component → TrialReport → TrialState σ → TrialState σ × Except Error TrialReport
  | [], report, s => (s, .ok report)
  | c :: rest, report, s =>
    match t.tryComponent stores request catalog c s with
    | (s, .error e) => (s, .error e)
    | (s, .ok (summary, records)) =>
      t.tryComponents stores request catalog rest
        { report with
          candidates := report.candidates ++ [summary], records := report.records ++ records } s

/-- Answers one request over components, which are resolved as far as they are not. -/
def run (t : Trial) (stores : Archive σ) (components : List Component)
    (request : TrialRequest) (s : TrialState σ) :
    List Component × TrialState σ × Except Error TrialReport :=
  let components := Resolution.resolveRest components
  let (s, result) :=
    t.tryComponents stores request ⟨components⟩ (components.filter request.selects)
      { executionId := request.executionId } s
  (components, s, result)

end Trial

end Refit
