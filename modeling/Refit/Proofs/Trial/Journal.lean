import Mathlib.Tactic
import Refit.Trial.Run

/-!
# The journal of a trial

What comes of a trial does not depend on what is kept of it: the adapters are fetched,
bound and run one after the other, and each execution begins in the heap that the one
before has left.  The journal lists what comes of it in this order, and the store is
handed its entries one by one.  The first entry that is refused ends the trial, so a
trial that gives a report gives exactly the records of its journal.
-/

namespace Refit

/-- One after the other, each from the state that the one before has left. -/
def threaded {α β σ : Type} (f : α → σ → List β × σ) : List α → σ → List β × σ
  | [], s => ([], s)
  | a :: rest, s =>
    let first := f a s
    let more := threaded f rest first.2
    (first.1 ++ more.1, more.2)

theorem threaded_cons
    {α β σ : Type} (f : α → σ → List β × σ) (a : α) (rest : List α) (s : σ) :
    threaded f (a :: rest) s =
      ((f a s).1 ++ (threaded f rest (f a s).2).1, (threaded f rest (f a s).2).2) :=
  rfl

/-- What every turn keeps of the state and shows of its entries holds of all. -/
theorem threaded_invariant
    {α β σ : Type} {f : α → σ → List β × σ} {Inv : σ → Prop} {P : β → Prop}
    {as : List α}
    (hstep : ∀ a ∈ as, ∀ s, Inv s → Inv (f a s).2 ∧ ∀ entry ∈ (f a s).1, P entry)
    {s : σ} (hinv : Inv s) :
    Inv (threaded f as s).2 ∧ ∀ entry ∈ (threaded f as s).1, P entry := by
  induction as generalizing s with
  | nil => exact ⟨hinv, by simp [threaded]⟩
  | cons a rest ih =>
      rw [threaded_cons]
      obtain ⟨hnext, hfirst⟩ := hstep a List.mem_cons_self s hinv
      obtain ⟨hlast, hmore⟩ := ih
        (fun a' ha' => hstep a' (List.mem_cons_of_mem _ ha')) hnext
      refine ⟨hlast, fun entry hentry => ?_⟩
      rcases List.mem_append.mp hentry with hin | hin
      · exact hfirst entry hin
      · exact hmore entry hin

theorem exists_of_mem_threaded
    {α β σ : Type} {f : α → σ → List β × σ} {as : List α} {s : σ} {entry : β}
    (hentry : entry ∈ (threaded f as s).1) : ∃ a ∈ as, ∃ s', entry ∈ (f a s').1 := by
  induction as generalizing s with
  | nil => cases hentry
  | cons a rest ih =>
      rw [threaded_cons] at hentry
      rcases List.mem_append.mp hentry with hfirst | hmore
      · exact ⟨a, List.mem_cons_self, s, hfirst⟩
      · obtain ⟨a', ha', s', hin⟩ := ih hmore
        exact ⟨a', List.mem_cons_of_mem _ ha', s', hin⟩

/-- A request to a trial over components that are resolved. -/
structure Batch where
  trial : Trial
  request : TrialRequest
  catalog : Catalog

/-- One sequence on one bound adapter, with the heap in which it begins. -/
structure Execution where
  binding : Binding
  sequence : Sequence
  heap : Heap

/-- What comes of a trial, piece by piece. -/
inductive JournalEntry where
  | report (candidate : String) (report : FittingReport)
  | ran (x : Execution)
  /-- The record of a sequence that could not be run. -/
  | aborted (record : RunRecord)

namespace Batch

variable {σ : Type} (b : Batch)

def runner (binding : Binding) : Runner where
  interface := b.request.interface
  binding
  host := b.trial.host
  catalog := b.catalog
  deadline := b.trial.settings.invocationTimeout

def outcomeOf (x : Execution) : Runner.Outcome Recording :=
  (b.runner x.binding).execute (Observer.recorder b.trial.host) x.sequence x.heap
    (Recording.empty x.sequence.name)

/-- What the report says of an execution. -/
def recordOf (x : Execution) : RunRecord where
  candidateId := x.binding.adapter.candidateId
  adapterId := x.binding.adapter.adapterId
  sequence := x.sequence.name
  outcome :=
    match (b.outcomeOf x).result with
    | .ok _ => .completed
    | .error e => .aborted e.message
  recording := (b.outcomeOf x).visitor

/-- The scope of the sheets of a record. -/
def scopeOf (record : RunRecord) : Scope :=
  ⟨b.request.executionId, b.request.interface.name, b.request.actionId, record.sequence,
    record.candidateId, record.adapterId⟩

section Entries

def record? : JournalEntry → Option RunRecord
  | .report _ _ => none
  | .ran x => some (b.recordOf x)
  | .aborted record => some record

def records (entries : List JournalEntry) : List RunRecord := entries.filterMap b.record?

theorem records_append (entries more : List JournalEntry) :
    b.records (entries ++ more) = b.records entries ++ b.records more :=
  List.filterMap_append

/-- Stores what an entry leaves to store; nothing was run for an aborted record. -/
def enter (stores : Archive σ) (store : σ) : JournalEntry → σ × Except Error Unit
  | .report candidate report =>
    stores.enterReport store b.request.executionId candidate report
  | .ran x =>
    let record := b.recordOf x
    match stores.enterCells store
        (SheetKey.addressed ⟨b.scopeOf record, .actuation⟩ record.recording.actuation) with
    | (store, .error e) => (store, .error e)
    | (store, .ok _) =>
      stores.enterCells store
        (SheetKey.addressed ⟨b.scopeOf record, .adapted⟩ record.recording.adapted)
  | .aborted _ => (store, .ok ())

/-- Stores entries up to the first that is refused. -/
def enterAll (stores : Archive σ) (store : σ) : List JournalEntry → σ × Except Error Unit
  | [] => (store, .ok ())
  | entry :: rest =>
    match b.enter stores store entry with
    | (store, .error e) => (store, .error e)
    | (store, .ok _) => enterAll stores store rest

theorem enterAll_append
    (stores : Archive σ) (store : σ) (entries more : List JournalEntry) :
    b.enterAll stores store (entries ++ more) =
      match b.enterAll stores store entries with
      | (store, .error e) => (store, .error e)
      | (store, .ok _) => b.enterAll stores store more := by
  induction entries generalizing store with
  | nil => rfl
  | cons entry rest ih =>
      rw [List.cons_append, enterAll, enterAll]
      rcases b.enter stores store entry with ⟨store', e | done⟩
      · rfl
      · exact ih store'

theorem enterAll_singleton (stores : Archive σ) (store : σ) (entry : JournalEntry) :
    b.enterAll stores store [entry] = b.enter stores store entry := by
  rw [enterAll]
  rcases b.enter stores store entry with ⟨store', e | done⟩
  · rfl
  · rfl

theorem enterAll_aborted (stores : Archive σ) (store : σ) (records : List RunRecord) :
    b.enterAll stores store (records.map .aborted) = (store, .ok ()) := by
  induction records with
  | nil => rfl
  | cons record rest ih => exact ih

theorem records_aborted (records : List RunRecord) :
    b.records (records.map .aborted) = records := by
  unfold Batch.records
  rw [List.filterMap_map]
  exact List.filterMap_some

end Entries

section Journal

def sequenceEntries (binding : Binding) (sequence : Sequence) (heap : Heap) :
    List JournalEntry × Heap :=
  ([.ran ⟨binding, sequence, heap⟩], (b.outcomeOf ⟨binding, sequence, heap⟩).heap)

def adapterEntries (c : Component) (a : Adapter) (heap : Heap) : List JournalEntry × Heap :=
  match Binding.bind b.trial.host a with
  | .ok binding => threaded (b.sequenceEntries binding) b.request.sequences heap
  | .error e =>
    (if e.stopsRun then (Trial.abortedRecords b.request c a e).map .aborted else [], heap)

def componentEntries (fetched : Component × List Adapter) (heap : Heap) :
    List JournalEntry × Heap :=
  if fetched.2.isEmpty then ([], heap)
  else
    let tried := threaded (b.adapterEntries fetched.1) fetched.2 heap
    (.report fetched.1.id (.of b.request.interface fetched.2) :: tried.1, tried.2)

def fetch (c : Component) (cache : AdapterCache) :
    List (Component × List Adapter) × AdapterCache :=
  let fetched :=
    cache.fetch b.trial.fitter c b.request.interface b.catalog b.trial.settings
  ([(c, fetched.1)], fetched.2)

/-- The components with their adapters, as the cache gives them. -/
def fetched (components : List Component) (cache : AdapterCache) :
    List (Component × List Adapter) × AdapterCache :=
  threaded b.fetch components cache

def journal (components : List Component) (cache : AdapterCache) (heap : Heap) :
    List JournalEntry × Heap :=
  threaded b.componentEntries (b.fetched components cache).1 heap

theorem fetched_cons (c : Component) (rest : List Component) (cache : AdapterCache) :
    b.fetched (c :: rest) cache =
      let first := cache.fetch b.trial.fitter c b.request.interface b.catalog b.trial.settings
      ((c, first.1) :: (b.fetched rest first.2).1, (b.fetched rest first.2).2) :=
  rfl

theorem journal_cons
    (c : Component) (rest : List Component) (cache : AdapterCache) (heap : Heap) :
    b.journal (c :: rest) cache heap =
      let first := cache.fetch b.trial.fitter c b.request.interface b.catalog b.trial.settings
      let entries := b.componentEntries (c, first.1) heap
      (entries.1 ++ (b.journal rest first.2 entries.2).1,
        (b.journal rest first.2 entries.2).2) :=
  rfl

/-- Why an adapter is left out. -/
def failure? (a : Adapter) : Option String :=
  match Binding.bind b.trial.host a with
  | .ok _ => none
  | .error e => if e.stopsRun then none else some e.message

def summary (fetched : Component × List Adapter) : ComponentSummary where
  candidateId := fetched.1.id
  component := fetched.1.name
  status :=
    if fetched.2.isEmpty then .notAdaptable
    else Trial.statusAfter fetched.2 (fetched.2.filterMap b.failure?)

end Journal

/-- A part of a trial ends as the store takes its entries: with the refusal of one of
them, or else with its own answer and heap. -/
def Answers {α : Type} (outcome : Heap × σ × Except Error α)
    (entered : σ × Except Error Unit) (heap : Heap) (answer : α) : Prop :=
  (∃ heap' store e, outcome = (heap', store, .error e) ∧ entered = (store, .error e)) ∨
    ∃ store, outcome = (heap, store, .ok answer) ∧ entered = (store, .ok ())

/-- One part of a trial and then the rest; the answers are joined. -/
def chained {α β γ : Type} (first : Heap × σ × Except Error α)
    (more : Heap → σ → Heap × σ × Except Error β) (join : α → β → γ) :
    Heap × σ × Except Error γ :=
  match first with
  | (heap, store, .error e) => (heap, store, .error e)
  | (heap, store, .ok answer) =>
    match more heap store with
    | (heap, store, .error e) => (heap, store, .error e)
    | (heap, store, .ok rest) => (heap, store, .ok (join answer rest))

section Answers

theorem Answers.chained
    {α β γ : Type} {stores : Archive σ} {store : σ} {entries more : List JournalEntry}
    {first : Heap × σ × Except Error α} {rest : Heap → σ → Heap × σ × Except Error β}
    {heap last : Heap} {answer : α} {answers : β}
    (hfirst : Answers first (b.enterAll stores store entries) heap answer)
    (hrest : ∀ store, Answers (rest heap store) (b.enterAll stores store more) last answers)
    (join : α → β → γ) :
    Answers (chained first rest join) (b.enterAll stores store (entries ++ more)) last
      (join answer answers) := by
  rw [enterAll_append]
  rcases hfirst with ⟨heap', store', e, rfl, henter⟩ | ⟨store', rfl, henter⟩
  · rw [henter]
    exact .inl ⟨_, _, _, rfl, rfl⟩
  rw [henter]
  unfold Batch.chained
  rcases hrest store' with ⟨heap', store'', e, hmore, hentered⟩ | ⟨store'', hmore, hentered⟩
  · simp only
    rw [hmore, hentered]
    exact .inl ⟨_, _, _, rfl, rfl⟩
  · simp only
    rw [hmore, hentered]
    exact .inr ⟨_, rfl, rfl⟩

theorem runSequence_answers
    (stores : Archive σ) (binding : Binding) (sequence : Sequence) (heap : Heap) (store : σ) :
    Answers (b.trial.runSequence stores b.request b.catalog binding sequence heap store)
      (b.enter stores store (.ran ⟨binding, sequence, heap⟩))
      (b.outcomeOf ⟨binding, sequence, heap⟩).heap
      (b.recordOf ⟨binding, sequence, heap⟩) := by
  let done := b.outcomeOf ⟨binding, sequence, heap⟩
  let record := b.recordOf ⟨binding, sequence, heap⟩
  let actuation := SheetKey.addressed ⟨b.scopeOf record, .actuation⟩ record.recording.actuation
  let adapted := SheetKey.addressed ⟨b.scopeOf record, .adapted⟩ record.recording.adapted
  have hrun : b.trial.runSequence stores b.request b.catalog binding sequence heap store =
      match stores.enterCells store actuation with
      | (store, .error e) => (done.heap, store, .error e)
      | (store, .ok _) =>
        match stores.enterCells store adapted with
        | (store, .error e) => (done.heap, store, .error e)
        | (store, .ok _) => (done.heap, store, .ok record) := rfl
  have henter : b.enter stores store (.ran ⟨binding, sequence, heap⟩) =
      match stores.enterCells store actuation with
      | (store, .error e) => (store, .error e)
      | (store, .ok _) => stores.enterCells store adapted := rfl
  rw [hrun, henter]
  rcases stores.enterCells store actuation with ⟨store', e | ⟨⟩⟩
  · exact .inl ⟨_, _, _, rfl, rfl⟩
  · simp only
    rcases stores.enterCells store' adapted with ⟨store'', e | ⟨⟩⟩
    · exact .inl ⟨_, _, _, rfl, rfl⟩
    · exact .inr ⟨_, rfl, rfl⟩

theorem runSequences_cons
    (stores : Archive σ) (binding : Binding) (sequence : Sequence) (rest : List Sequence)
    (heap : Heap) (store : σ) :
    b.trial.runSequences stores b.request b.catalog binding (sequence :: rest) heap store =
      chained (b.trial.runSequence stores b.request b.catalog binding sequence heap store)
        (b.trial.runSequences stores b.request b.catalog binding rest) (· :: ·) := by
  rw [Trial.runSequences]
  unfold chained
  rcases b.trial.runSequence stores b.request b.catalog binding sequence heap store with
    ⟨heap', store', e | record⟩
  · rfl
  simp only
  rcases b.trial.runSequences stores b.request b.catalog binding rest heap' store' with
    ⟨heap'', store'', e | records⟩
  · rfl
  · rfl

theorem runSequences_answers
    (stores : Archive σ) (binding : Binding) (sequences : List Sequence) (heap : Heap)
    (store : σ) :
    let entries := threaded (b.sequenceEntries binding) sequences heap
    Answers (b.trial.runSequences stores b.request b.catalog binding sequences heap store)
      (b.enterAll stores store entries.1) entries.2 (b.records entries.1) := by
  induction sequences generalizing heap store with
  | nil => exact .inr ⟨_, rfl, rfl⟩
  | cons sequence rest ih =>
      have hfirst := b.runSequence_answers stores binding sequence heap store
      rw [← enterAll_singleton] at hfirst
      rw [runSequences_cons, threaded_cons]
      simp only
      rw [records_append]
      exact hfirst.chained b (fun store => ih _ store) (· :: ·)

theorem tryAdapters_cons_of_bound
    (stores : Archive σ) (c : Component) {a : Adapter} {binding : Binding}
    (hbind : Binding.bind b.trial.host a = .ok binding) (rest : List Adapter)
    (heap : Heap) (store : σ) :
    b.trial.tryAdapters stores b.request b.catalog c (a :: rest) heap store =
      chained
        (b.trial.runSequences stores b.request b.catalog binding b.request.sequences heap store)
        (b.trial.tryAdapters stores b.request b.catalog c rest)
        fun records more => (records ++ more.1, more.2) := by
  rw [Trial.tryAdapters]
  unfold chained
  rw [hbind]
  simp only
  rcases b.trial.runSequences stores b.request b.catalog binding b.request.sequences heap
    store with ⟨heap', store', e | records⟩
  · rfl
  simp only
  rcases b.trial.tryAdapters stores b.request b.catalog c rest heap' store' with
    ⟨heap'', store'', e | more⟩
  · rfl
  · rfl

theorem tryAdapters_cons_of_unbound
    (stores : Archive σ) (c : Component) {a : Adapter} {e : Error}
    (hbind : Binding.bind b.trial.host a = .error e) (rest : List Adapter)
    (heap : Heap) (store : σ) :
    b.trial.tryAdapters stores b.request b.catalog c (a :: rest) heap store =
      chained (heap, store, .ok ()) (b.trial.tryAdapters stores b.request b.catalog c rest)
        fun _ more =>
          if e.stopsRun then (Trial.abortedRecords b.request c a e ++ more.1, more.2)
          else (more.1, e.message :: more.2) := by
  rw [Trial.tryAdapters]
  unfold chained
  rw [hbind]
  simp only
  rcases b.trial.tryAdapters stores b.request b.catalog c rest heap store with
    ⟨heap', store', e' | more⟩
  · rfl
  · simp only
    split_ifs
    · rfl
    · rfl

/-- The answer for the adapters of a component: the records of those that were tried,
and why others are left out. -/
theorem tryAdapters_answers
    (stores : Archive σ) (c : Component) (adapters : List Adapter) (heap : Heap) (store : σ) :
    let entries := threaded (b.adapterEntries c) adapters heap
    Answers (b.trial.tryAdapters stores b.request b.catalog c adapters heap store)
      (b.enterAll stores store entries.1) entries.2
      (b.records entries.1, adapters.filterMap b.failure?) := by
  induction adapters generalizing heap store with
  | nil => exact .inr ⟨_, rfl, rfl⟩
  | cons a rest ih =>
      rw [threaded_cons, List.filterMap_cons]
      simp only
      rw [records_append]
      cases hbind : Binding.bind b.trial.host a with
      | ok binding =>
          have hentries : b.adapterEntries c a heap =
              threaded (b.sequenceEntries binding) b.request.sequences heap := by
            unfold adapterEntries
            rw [hbind]
          have hfailure : b.failure? a = none := by
            unfold failure?
            rw [hbind]
          rw [hentries, hfailure, b.tryAdapters_cons_of_bound stores c hbind]
          exact (b.runSequences_answers stores binding b.request.sequences heap store).chained b
            (fun store => ih _ store) fun records more => (records ++ more.1, more.2)
      | error e =>
          have hentries : b.adapterEntries c a heap =
              (if e.stopsRun then (Trial.abortedRecords b.request c a e).map .aborted else [],
                heap) := by
            unfold adapterEntries
            rw [hbind]
          have hfailure : b.failure? a = if e.stopsRun then none else some e.message := by
            unfold failure?
            rw [hbind]
          rw [hentries, hfailure, b.tryAdapters_cons_of_unbound stores c hbind]
          split_ifs
          · have hfirst : Answers (heap, store, .ok ()) (b.enterAll stores store
                ((Trial.abortedRecords b.request c a e).map .aborted)) heap () :=
              .inr ⟨store, rfl, b.enterAll_aborted stores store _⟩
            rw [records_aborted]
            exact hfirst.chained b (fun store => ih _ store)
              fun _ more => (Trial.abortedRecords b.request c a e ++ more.1, more.2)
          · have hfirst : Answers (heap, store, .ok ()) (b.enterAll stores store []) heap () :=
              .inr ⟨store, rfl, rfl⟩
            exact hfirst.chained b (fun store => ih _ store)
              fun _ more => (more.1, e.message :: more.2)

/-- Trying a component ends as the store takes its report and its records. -/
theorem tryComponent_answers
    (stores : Archive σ) (c : Component) (s : TrialState σ) :
    let fetched :=
      s.cache.fetch b.trial.fitter c b.request.interface b.catalog b.trial.settings
    let entries := b.componentEntries (c, fetched.1) s.heap
    let tried := b.trial.tryComponent stores b.request b.catalog c s
    (∃ store e, b.enterAll stores s.store entries.1 = (store, .error e) ∧
        tried.1.store = store ∧ tried.2 = .error e) ∨
      ∃ store, b.enterAll stores s.store entries.1 = (store, .ok ()) ∧
        tried = (⟨fetched.2, entries.2, store⟩,
          .ok (b.summary (c, fetched.1), b.records entries.1)) := by
  unfold Trial.tryComponent componentEntries summary
  rcases s.cache.fetch b.trial.fitter c b.request.interface b.catalog b.trial.settings with
    ⟨adapters, cache⟩
  simp only
  by_cases hempty : adapters.isEmpty = true
  · simp only [if_pos hempty]
    exact .inr ⟨s.store, rfl, rfl⟩
  simp only [if_neg hempty]
  rw [enterAll, enter]
  rcases stores.enterReport s.store b.request.executionId c.id
    (.of b.request.interface adapters) with ⟨store, e | done⟩
  · exact .inl ⟨store, e, rfl, rfl, rfl⟩
  simp only
  rcases b.tryAdapters_answers stores c adapters s.heap store with
    ⟨heap, store', e, hrun, henter⟩ | ⟨store', hrun, henter⟩
  · rw [hrun, henter]
    exact .inl ⟨store', e, rfl, rfl, rfl⟩
  · rw [hrun, henter]
    exact .inr ⟨store', rfl, rfl⟩

/-- A trial of components ends as the store takes its journal: with the refusal of an
entry, or else with the summaries of all components and the records of the journal. -/
theorem tryComponents_answers
    (stores : Archive σ) (components : List Component) (report : TrialReport)
    (s : TrialState σ) :
    let fetched := b.fetched components s.cache
    let journal := b.journal components s.cache s.heap
    let tried := b.trial.tryComponents stores b.request b.catalog components report s
    (∃ store e, b.enterAll stores s.store journal.1 = (store, .error e) ∧
        tried.1.store = store ∧ tried.2 = .error e) ∨
      ∃ store, b.enterAll stores s.store journal.1 = (store, .ok ()) ∧
        tried = (⟨fetched.2, journal.2, store⟩, .ok { report with
          candidates := report.candidates ++ fetched.1.map b.summary
          records := report.records ++ b.records journal.1 }) := by
  induction components generalizing report s with
  | nil =>
      refine .inr ⟨s.store, rfl, ?_⟩
      simp [Trial.tryComponents, fetched, journal, threaded, records]
  | cons c rest ih =>
      have hfirst := b.tryComponent_answers stores c s
      rw [fetched_cons, journal_cons, Trial.tryComponents]
      rcases hfetch : s.cache.fetch b.trial.fitter c b.request.interface b.catalog
        b.trial.settings with ⟨adapters, cache⟩
      rw [hfetch] at hfirst
      simp only at hfirst ⊢
      rw [enterAll_append, records_append, List.map_cons]
      rcases hfirst with ⟨store, e, henter, hstore, hresult⟩ | ⟨store, henter, hrun⟩
      · rw [henter]
        left
        refine ⟨store, e, rfl, ?_⟩
        rcases htried : b.trial.tryComponent stores b.request b.catalog c s with
          ⟨s', e' | answer⟩
        · rw [htried] at hstore hresult
          cases hresult
          exact ⟨hstore, rfl⟩
        · rw [htried] at hresult
          cases hresult
      · rw [henter, hrun]
        let entries := b.componentEntries (c, adapters) s.heap
        have hrest := ih { report with
            candidates := report.candidates ++ [b.summary (c, adapters)]
            records := report.records ++ b.records entries.1 } ⟨cache, entries.2, store⟩
        simpa only [List.append_assoc, List.singleton_append] using hrest

end Answers

end Batch

namespace Trial

variable {σ : Type}

/-- The request over the components that a run of the trial is about. -/
def batch (t : Trial) (components : List Component) (request : TrialRequest) : Batch :=
  ⟨t, request, ⟨Resolution.resolveRest components⟩⟩

/-- The components that a request selects, resolved. -/
def selected (components : List Component) (request : TrialRequest) : List Component :=
  (Resolution.resolveRest components).filter request.selects

/-- A run of the trial ends as the store takes its journal. -/
theorem run_answers
    (t : Trial) (stores : Archive σ) (components : List Component) (request : TrialRequest)
    (s : TrialState σ) :
    let b := t.batch components request
    let fetched := b.fetched (selected components request) s.cache
    let journal := b.journal (selected components request) s.cache s.heap
    let tried := t.run stores components request s
    (∃ store e, b.enterAll stores s.store journal.1 = (store, .error e) ∧
        tried.2.1.store = store ∧ tried.2.2 = .error e) ∨
      ∃ store, b.enterAll stores s.store journal.1 = (store, .ok ()) ∧
        tried = (Resolution.resolveRest components, ⟨fetched.2, journal.2, store⟩,
          .ok ⟨request.executionId, fetched.1.map b.summary, b.records journal.1⟩) := by
  let b := t.batch components request
  rcases b.tryComponents_answers stores (selected components request)
    { executionId := request.executionId } s with
    ⟨store, e, henter, hstore, hresult⟩ | ⟨store, henter, htried⟩
  · exact .inl ⟨store, e, henter, hstore, hresult⟩
  · refine .inr ⟨store, henter, ?_⟩
    have hrun : t.run stores components request s =
        (Resolution.resolveRest components,
          b.trial.tryComponents stores b.request b.catalog (selected components request)
            { executionId := request.executionId } s) := rfl
    rw [hrun, htried]
    rfl

/-- A report holds the records of the journal and nothing else. -/
theorem records_of_run_eq_ok
    {t : Trial} {stores : Archive σ} {components : List Component} {request : TrialRequest}
    {s : TrialState σ} {report : TrialReport}
    (hreport : (t.run stores components request s).2.2 = .ok report) :
    let b := t.batch components request
    report.records =
      b.records (b.journal (selected components request) s.cache s.heap).1 := by
  rcases t.run_answers stores components request s with
    ⟨store, e, -, -, hresult⟩ | ⟨store, -, hrun⟩
  · rw [hresult] at hreport
    cases hreport
  · rw [hrun] at hreport
    cases hreport
    rfl

end Trial

end Refit
