import Refit.Proofs.Execution.Locality
import Refit.Proofs.Fitting.Soundness
import Refit.Proofs.Sheet.Counterparts
import Refit.Proofs.Sheet.Referents
import Refit.Proofs.Trial.Completeness

/-!
# Executions do not depend on one another

The executions of a trial share one heap.  Over a host whose code is local an execution of
a sequence without objects has to do with the objects that are made during it and with no
others, so whatever earlier executions left on the heap makes no difference to its record:
it is the one that the execution has on an empty heap with the counter where it stood.
-/

namespace Refit

/-- The execution by itself, on an empty heap with the counter where it stood. -/
def Execution.alone (x : Execution) : Execution :=
  { x with heap := ⟨x.heap.nextId, []⟩ }

namespace Batch

variable {b : Batch}

/-- An execution by itself takes the same course and leaves a fresh heap. -/
theorem outcomeOf_alone
    (hlocal : b.trial.host.Local) {x : Execution} (hobjects : x.sequence.ObjectFree)
    (hfresh : x.heap.Fresh) :
    Runner.Outcome.Twins x.heap.nextId x.heap.nextId (b.outcomeOf x) (b.outcomeOf x.alone) := by
  have hrespects : (b.runner x.binding).host.Respects x.heap.nextId x.heap.nextId :=
    hlocal.respects _
  have hnames : ∀ entry ∈ (b.runner x.binding).names, entry.2.Only fun _ => False := by
    simp [runner]
  have hempty : Heap.Fresh ⟨x.heap.nextId, []⟩ := fun _ _ => rfl
  exact @Runner.execute_twins (b.runner x.binding) x.heap ⟨x.heap.nextId, []⟩ x.sequence
    hrespects hnames hobjects hfresh hempty fun _ _ _ _ => unspelled_self _ _

theorem recordOf_alone
    (hlocal : b.trial.host.Local) {x : Execution} (hobjects : x.sequence.ObjectFree)
    (hfresh : x.heap.Fresh) : b.recordOf x = b.recordOf x.alone := by
  have htwins := outcomeOf_alone hlocal hobjects hfresh
  have hvisitor := htwins.visitor
  have hresult := htwins.result
  unfold recordOf
  rw [hvisitor, hresult]
  rcases (b.outcomeOf x).result with e | run
  · rfl
  · rfl

/-- What stands in the journal for adapters that were fetched stands there for an execution
on one that is bound, with the record that it has by itself, or for one that is closed. -/
def Independent (b : Batch) (fetched : List (Component × List Adapter)) : JournalEntry → Prop
  | .report _ _ => True
  | .ran x => Binding.bind b.trial.host x.binding.adapter = .ok x.binding ∧
      (∃ found ∈ fetched, x.binding.adapter ∈ found.2) ∧
      x.sequence ∈ b.request.sequences ∧ b.recordOf x = b.recordOf x.alone
  | .aborted record => ∃ found ∈ fetched, ∃ a ∈ found.2, ∃ e,
      Binding.bind b.trial.host a = .error e ∧ e.stopsRun = true ∧
        record ∈ Trial.abortedRecords b.request found.1 a e

variable {fetched : List (Component × List Adapter)} {found : Component × List Adapter}

theorem sequenceEntries_independent
    (hlocal : b.trial.host.Local) (hfound : found ∈ fetched) {a : Adapter} (ha : a ∈ found.2)
    {binding : Binding} (hbind : Binding.bind b.trial.host a = .ok binding)
    {sequence : Sequence} (hsequence : sequence ∈ b.request.sequences)
    (hobjects : sequence.ObjectFree) {heap : Heap} (hfresh : heap.Fresh) :
    (b.sequenceEntries binding sequence heap).2.Fresh ∧
      ∀ entry ∈ (b.sequenceEntries binding sequence heap).1, b.Independent fetched entry := by
  let x : Execution := ⟨binding, sequence, heap⟩
  have hx : x.sequence.ObjectFree := hobjects
  have htwins := outcomeOf_alone (x := x) hlocal hx hfresh
  refine ⟨htwins.mirrors.fresh, fun entry hentry => ?_⟩
  cases List.mem_singleton.mp hentry
  have hadapter : binding.adapter = a := (Binding.bind_eq_ok hbind).1
  refine ⟨?_, ⟨found, hfound, ?_⟩, hsequence, recordOf_alone (x := x) hlocal hx hfresh⟩
  · exact hadapter ▸ hbind
  · exact hadapter ▸ ha

theorem adapterEntries_independent
    (hlocal : b.trial.host.Local)
    (hobjects : ∀ sequence ∈ b.request.sequences, sequence.ObjectFree)
    (hfound : found ∈ fetched) {a : Adapter} (ha : a ∈ found.2) {heap : Heap}
    (hfresh : heap.Fresh) :
    (b.adapterEntries found.1 a heap).2.Fresh ∧
      ∀ entry ∈ (b.adapterEntries found.1 a heap).1, b.Independent fetched entry := by
  unfold adapterEntries
  cases hbind : Binding.bind b.trial.host a with
  | ok binding =>
      exact threaded_invariant (fun sequence hsequence heap hfresh =>
        sequenceEntries_independent hlocal hfound ha hbind hsequence
          (hobjects sequence hsequence) hfresh) hfresh
  | error e =>
      refine ⟨hfresh, fun entry hentry => ?_⟩
      simp only at hentry
      split at hentry
      · next hstops =>
        obtain ⟨record, hrecord, rfl⟩ := List.mem_map.mp hentry
        exact ⟨found, hfound, a, ha, e, hbind, hstops, hrecord⟩
      · cases hentry

theorem componentEntries_independent
    (hlocal : b.trial.host.Local)
    (hobjects : ∀ sequence ∈ b.request.sequences, sequence.ObjectFree)
    (hfound : found ∈ fetched) {heap : Heap} (hfresh : heap.Fresh) :
    (b.componentEntries found heap).2.Fresh ∧
      ∀ entry ∈ (b.componentEntries found heap).1, b.Independent fetched entry := by
  unfold componentEntries
  split
  · exact ⟨hfresh, by simp⟩
  · have hstep : ∀ a ∈ found.2, ∀ heap : Heap, heap.Fresh →
        (b.adapterEntries found.1 a heap).2.Fresh ∧
          ∀ entry ∈ (b.adapterEntries found.1 a heap).1, b.Independent fetched entry :=
      fun _ ha _ hfresh => adapterEntries_independent hlocal hobjects hfound ha hfresh
    obtain ⟨hafter, htried⟩ := threaded_invariant hstep hfresh
    exact ⟨hafter, List.forall_mem_cons.mpr ⟨trivial, htried⟩⟩

theorem journal_independent
    (hlocal : b.trial.host.Local)
    (hobjects : ∀ sequence ∈ b.request.sequences, sequence.ObjectFree)
    (components : List Component) (cache : AdapterCache) {heap : Heap} (hfresh : heap.Fresh) :
    (b.journal components cache heap).2.Fresh ∧
      ∀ entry ∈ (b.journal components cache heap).1,
        b.Independent (b.fetched components cache).1 entry :=
  threaded_invariant (fun _ hfound _ hfresh =>
    componentEntries_independent hlocal hobjects hfound hfresh) hfresh

end Batch

namespace Trial

variable {σ : Type}

/-- Over a host whose code is local every record of a trial with sequences without objects
is that of a closed adapter, on which nothing is run, or that of an execution in the journal
on a bound adapter; and then it is the record of the same execution by itself, on an empty
heap with the counter where it stood. -/
theorem run_independent
    {t : Trial} (hlocal : t.host.Local) {stores : Archive σ} {components : List Component}
    {request : TrialRequest} (hobjects : ∀ sequence ∈ request.sequences, sequence.ObjectFree)
    {s : TrialState σ} (hfresh : s.heap.Fresh) {report : TrialReport}
    (hreport : (t.run stores components request s).2.2 = .ok report) :
    let b := t.batch components request
    let fetched := (b.fetched (selected components request) s.cache).1
    ∀ record ∈ report.records,
      (∃ found ∈ fetched, ∃ a ∈ found.2, ∃ e,
        Binding.bind t.host a = .error e ∧ e.stopsRun = true ∧
          record ∈ abortedRecords request found.1 a e) ∨
      ∃ x, .ran x ∈ (b.journal (selected components request) s.cache s.heap).1 ∧
        Binding.bind t.host x.binding.adapter = .ok x.binding ∧
        (∃ found ∈ fetched, x.binding.adapter ∈ found.2) ∧
        x.sequence ∈ request.sequences ∧
        record = b.recordOf x ∧ b.recordOf x = b.recordOf x.alone := by
  intro b fetched record hrecord
  rw [records_of_run_eq_ok hreport] at hrecord
  obtain ⟨entry, hentry, hsame⟩ := List.mem_filterMap.mp hrecord
  have hindependent := (b.journal_independent hlocal hobjects
    (selected components request) s.cache hfresh).2 entry hentry
  cases entry with
  | report candidate report => cases hsame
  | ran x =>
      cases hsame
      obtain ⟨hbind, hfound, hsequence, halone⟩ := hindependent
      exact .inr ⟨x, hentry, hbind, hfound, hsequence, rfl, halone⟩
  | aborted record =>
      cases hsame
      exact .inl hindependent

end Trial

open Samples in
/-- Two sequences that each make a stand-in and call it: the second one finds that of the first
on the heap, and its record is the same as without. -/
theorem Trial.run_independent_echo :
    ∃ report, (echoTrial.run Ledger.store [util] echoRequest
        (echoTrial.start {} {})).2.2 = .ok report ∧
      report.records.map RunRecord.key = [("util", 0, "null"), ("util", 0, "self")] ∧
      ∀ record ∈ report.records, ∃ x : Execution,
        Binding.bind echoTrial.host echoAdapter = .ok x.binding ∧
          record = (echoTrial.batch [util] echoRequest).recordOf x.alone := by
  have hselected : selected [util] echoRequest = [resolvedUtil] := rfl
  have hids : ([util].map (·.id)).Nodup := by decide
  have hlines : ∀ c ∈ [util], '\n' ∉ c.id.toList := by decide
  have hsequences : (echoRequest.sequences.map (·.name)).Nodup := by decide
  have hfetched := echoTrial.fetched_selected hids hlines fun c hc c' hc' _ => by
    rw [hselected] at hc hc'
    rw [List.mem_singleton.mp hc, List.mem_singleton.mp hc']
  obtain ⟨-, store, hrun, -⟩ := echoTrial.run_of_fetched hids hsequences hfetched {}
  have hreport := congrArg (fun tried => tried.2.2) hrun
  have hlocal : echoTrial.host.Local :=
    HostScript.host_local (echoHost_constantsOnly (b := .args) nofun _)
  have hobjects : ∀ sequence ∈ echoRequest.sequences, sequence.ObjectFree := by
    simp [echoRequest, Sequence.ObjectFree, Sequence.ofKinds, Step.LiteralsOnly]
  have hindependent := run_independent hlocal hobjects (fun _ _ => rfl) hreport
  have hfound : ∀ found ∈ ((echoTrial.batch [util] echoRequest).fetched
      (selected [util] echoRequest) (.empty echoTrial.settings.cacheCapacity)).1,
        found = (resolvedUtil, [echoAdapter]) := by
    intro found hmem
    rw [hfetched, hselected, List.map_singleton, adaptersOf_util] at hmem
    exact List.mem_singleton.mp hmem
  refine ⟨_, hreport, ?_, fun record hrecord => ?_⟩
  · refine (Batch.keys_journal _ hfetched {}).trans ?_
    rw [hselected, List.flatMap_singleton, Batch.componentKeys, adaptersOf_util]
    rfl
  · rcases hindependent record hrecord with
      ⟨found, hmem, a, ha, e, hbind, -⟩ | ⟨x, -, hbind, ⟨found, hmem, ha⟩, -, hsame, halone⟩
    · cases hfound found hmem
      cases List.mem_singleton.mp ha
      cases hbind
    · cases hfound found hmem
      rw [List.mem_singleton.mp ha] at hbind
      exact ⟨x, hbind, hsame.trans halone⟩

end Refit
