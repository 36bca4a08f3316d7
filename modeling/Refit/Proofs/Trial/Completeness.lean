import Refit.Proofs.Fitting.Fingerprint
import Refit.Proofs.Fitting.Soundness
import Refit.Proofs.Trial.Storing

/-!
# A trial is complete

Over an empty cache and an empty ledger a trial comes to its end.  Its report has one
summary for each selected component, and one record for each sequence on each adapter
that was bound or is closed.  The ledger holds the sheets of these records and nothing
else: their scopes differ in the component, the adapter or the sequence.
-/

namespace Refit

/-- What sets a record apart in a report. -/
def RunRecord.key (record : RunRecord) : String × ℕ × String :=
  (record.candidateId, record.adapterId, record.sequence)

theorem threaded_flatMap
    {α β γ σ : Type} {f : α → σ → List β × σ} (g : List β → List γ) (view : α → List γ)
    (hnil : g [] = []) (happend : ∀ xs ys, g (xs ++ ys) = g xs ++ g ys) {as : List α}
    (hview : ∀ a ∈ as, ∀ s, g (f a s).1 = view a) (s : σ) :
    g (threaded f as s).1 = as.flatMap view := by
  induction as generalizing s with
  | nil => exact hnil
  | cons a rest ih =>
      rw [threaded_cons, List.flatMap_cons]
      simp only
      rw [happend, hview a List.mem_cons_self,
        ih fun a' ha' => hview a' (List.mem_cons_of_mem _ ha')]

namespace Batch

variable (b : Batch)

/-- What the cache is asked for a component. -/
def requestFor (c : Component) : Request :=
  ⟨c, b.request.interface, b.catalog, b.trial.settings⟩

/-- The adapters of a component. -/
def adaptersOf (c : Component) : List Adapter :=
  b.trial.fitter.adapters b.catalog c b.request.interface b.trial.settings.adapterLimit

/-- An adapter that was bound is run; one that is closed has its sequences aborted. -/
def tries (a : Adapter) : Bool :=
  match Binding.bind b.trial.host a with
  | .ok _ => true
  | .error e => e.stopsRun

section Fetching

theorem fetch_of_unknown
    {c : Component} {cache : AdapterCache}
    (hunknown : ∀ entry ∈ cache.entries, entry.1 ≠ (b.requestFor c).digest) :
    (b.fetch c cache).1 = [(c, b.adaptersOf c)] ∧
      ∀ entry ∈ (b.fetch c cache).2.entries,
        entry.1 = (b.requestFor c).digest ∨ entry ∈ cache.entries := by
  have hnone : cache.get? (b.requestFor c).digest = none := by
    unfold AdapterCache.get?
    rw [Option.map_eq_none_iff, List.find?_eq_none]
    intro entry hentry
    simpa using hunknown entry hentry
  unfold fetch AdapterCache.fetch
  change cache.get? (Fingerprint.digest c b.request.interface b.catalog
    b.trial.settings) = none at hnone
  simp only [hnone]
  refine ⟨rfl, fun entry hentry => ?_⟩
  rcases List.mem_cons.mp (List.mem_of_mem_take hentry) with rfl | hold
  · exact .inl rfl
  · exact .inr (List.mem_filter.mp hold).1

/-- Components with digests of their own are all fetched by the search. -/
theorem fetched_of_distinct
    {components : List Component} {cache : AdapterCache}
    (hunknown : ∀ c ∈ components, ∀ entry ∈ cache.entries,
      entry.1 ≠ (b.requestFor c).digest)
    (hdistinct : (components.map fun c => (b.requestFor c).digest).Nodup) :
    (b.fetched components cache).1 = components.map fun c => (c, b.adaptersOf c) := by
  induction components generalizing cache with
  | nil => rfl
  | cons c rest ih =>
      obtain ⟨hnew, hrest⟩ := List.nodup_cons.mp hdistinct
      obtain ⟨hfirst, hentries⟩ := b.fetch_of_unknown (hunknown c List.mem_cons_self)
      have hunknown' : ∀ c' ∈ rest, ∀ entry ∈ (b.fetch c cache).2.entries,
          entry.1 ≠ (b.requestFor c').digest := by
        intro c' hc' entry hentry
        rcases hentries entry hentry with hsame | hold
        · rw [hsame]
          intro hequal
          exact hnew (List.mem_map.mpr ⟨c', hc', hequal.symm⟩)
        · exact hunknown c' (List.mem_cons_of_mem _ hc') entry hold
      unfold fetched
      rw [threaded_cons, hfirst]
      have hmore := ih hunknown' hrest
      unfold fetched at hmore
      simp only
      rw [hmore]
      rfl

/-- Without line breaks in ids and without collisions, ids of their own mean digests of
their own. -/
theorem nodup_digests
    {components : List Component} (hids : (components.map (·.id)).Nodup)
    (hlines : ∀ c ∈ components, '\n' ∉ c.id.toList)
    (hcollide : ∀ c ∈ components, ∀ c' ∈ components,
      (b.requestFor c).digest = (b.requestFor c').digest →
        (b.requestFor c).text = (b.requestFor c').text) :
    (components.map fun c => (b.requestFor c).digest).Nodup := by
  have hfree : ∀ c ∈ components, FreeOf ['\n'] (b.requestFor c).component.id := by
    intro c hc newline hnewline
    rw [List.mem_singleton.mp hnewline]
    exact hlines c hc
  rw [List.nodup_iff_pairwise_ne, List.pairwise_map] at hids ⊢
  refine hids.imp_of_mem fun {c c'} hc hc' hne hdigest => hne ?_
  exact Request.id_eq_of_text_eq (hfree c hc) (hfree c' hc') (hcollide c hc c' hc' hdigest)

end Fetching

section Keys

def keys (entries : List JournalEntry) : List (String × ℕ × String) :=
  (b.records entries).map RunRecord.key

theorem keys_append (entries more : List JournalEntry) :
    b.keys (entries ++ more) = b.keys entries ++ b.keys more := by
  unfold keys
  rw [records_append, List.map_append]

/-- The records on one adapter: one for each sequence, or none. -/
def adapterKeys (c : Component) (a : Adapter) : List (String × ℕ × String) :=
  if b.tries a then b.request.sequences.map fun s => (c.id, a.adapterId, s.name) else []

theorem keys_adapterEntries
    {c : Component} {a : Adapter} (hcandidate : a.candidateId = c.id) (heap : Heap) :
    b.keys (b.adapterEntries c a heap).1 = b.adapterKeys c a := by
  unfold adapterEntries adapterKeys tries
  cases hbind : Binding.bind b.trial.host a with
  | ok binding =>
      obtain ⟨hadapter, -⟩ := Binding.bind_eq_ok hbind
      have hkeys : b.keys (threaded (b.sequenceEntries binding) b.request.sequences heap).1 =
          b.request.sequences.flatMap fun s => [(c.id, a.adapterId, s.name)] := by
        refine threaded_flatMap b.keys _ rfl b.keys_append (fun s _ heap => ?_) heap
        rw [← hcandidate, ← hadapter]
        rfl
      simp only [if_true]
      rw [hkeys, List.map_eq_flatMap]
  | error e =>
      by_cases hstops : e.stopsRun = true
      · simp only [hstops, if_true]
        unfold keys
        rw [records_aborted]
        unfold Trial.abortedRecords
        rw [List.map_map]
        rfl
      · simp only [hstops]
        rfl

/-- The records on one component, adapter by adapter. -/
def componentKeys (c : Component) : List (String × ℕ × String) :=
  (b.adaptersOf c).flatMap (b.adapterKeys c)

theorem keys_componentEntries (c : Component) (heap : Heap) :
    b.keys (b.componentEntries (c, b.adaptersOf c) heap).1 = b.componentKeys c := by
  have htried : b.keys (threaded (b.adapterEntries c) (b.adaptersOf c) heap).1 =
      b.componentKeys c :=
    threaded_flatMap b.keys _ rfl b.keys_append
      (fun _ ha heap => b.keys_adapterEntries (Fitter.candidateId_of_mem_adapters ha) heap) heap
  unfold componentEntries
  split_ifs with hempty
  · have hnone : b.adaptersOf c = [] := List.isEmpty_iff.mp hempty
    unfold componentKeys
    rw [hnone]
    rfl
  · exact htried

theorem mem_adapterKeys {c : Component} {a : Adapter} {key : String × ℕ × String}
    (hkey : key ∈ b.adapterKeys c a) : key.1 = c.id ∧ key.2.1 = a.adapterId := by
  unfold adapterKeys at hkey
  split_ifs at hkey
  · obtain ⟨_, -, rfl⟩ := List.mem_map.mp hkey
    exact ⟨rfl, rfl⟩
  · cases hkey

theorem nodup_adapterKeys
    (hsequences : (b.request.sequences.map (·.name)).Nodup) (c : Component) (a : Adapter) :
    (b.adapterKeys c a).Nodup := by
  unfold adapterKeys
  split_ifs
  · have hnames : b.request.sequences.map (fun s => (c.id, a.adapterId, s.name)) =
        (b.request.sequences.map (·.name)).map fun name => (c.id, a.adapterId, name) := by
      rw [List.map_map]
      rfl
    rw [hnames]
    exact hsequences.map fun name name' hsame => by simpa using hsame
  · exact List.nodup_nil

theorem nodup_componentKeys
    (hsequences : (b.request.sequences.map (·.name)).Nodup) (c : Component) :
    (b.componentKeys c).Nodup := by
  have hids := b.trial.fitter.nodup_adapterIds b.catalog c b.request.interface
    b.trial.settings.adapterLimit
  rw [List.nodup_iff_pairwise_ne, List.pairwise_map] at hids
  refine List.nodup_flatMap.mpr ⟨fun a _ => b.nodup_adapterKeys hsequences c a, ?_⟩
  refine hids.imp fun {a a'} hne key hkey hkey' => hne ?_
  exact (b.mem_adapterKeys hkey).2.symm.trans (b.mem_adapterKeys hkey').2

/-- Components, adapters and sequences of their own mean records of their own. -/
theorem nodup_keys
    (hsequences : (b.request.sequences.map (·.name)).Nodup) {components : List Component}
    (hids : (components.map (·.id)).Nodup) : (components.flatMap b.componentKeys).Nodup := by
  rw [List.nodup_iff_pairwise_ne, List.pairwise_map] at hids
  refine List.nodup_flatMap.mpr ⟨fun c _ => b.nodup_componentKeys hsequences c, ?_⟩
  refine hids.imp fun {c c'} hne key hkey hkey' => hne ?_
  obtain ⟨a, -, hin⟩ := List.mem_flatMap.mp hkey
  obtain ⟨a', -, hin'⟩ := List.mem_flatMap.mp hkey'
  exact (b.mem_adapterKeys hin).1.symm.trans (b.mem_adapterKeys hin').1

/-- No record is of a component without adapters. -/
theorem key_ne_of_no_adapters
    {components : List Component} (hids : (components.map (·.id)).Nodup) {c : Component}
    (hc : c ∈ components) (hnone : b.adaptersOf c = []) :
    ∀ key ∈ components.flatMap b.componentKeys, key.1 ≠ c.id := by
  intro key hkey hid
  obtain ⟨c', hc', hin⟩ := List.mem_flatMap.mp hkey
  obtain ⟨a, ha, hkey'⟩ := List.mem_flatMap.mp hin
  have hsame : c'.id = c.id := (b.mem_adapterKeys hkey').1.symm.trans hid
  cases List.inj_on_of_nodup_map hids hc' hc hsame
  rw [hnone] at ha
  cases ha

theorem nodup_scopes {records : List RunRecord} (hkeys : (records.map RunRecord.key).Nodup) :
    (records.map b.scopeOf).Nodup := by
  rw [List.nodup_iff_pairwise_ne, List.pairwise_map] at hkeys ⊢
  refine hkeys.imp fun {record record'} hne hscope => hne ?_
  unfold scopeOf at hscope
  simp only [Scope.mk.injEq, true_and] at hscope
  unfold RunRecord.key
  rw [hscope.1, hscope.2.1, hscope.2.2]

end Keys

section Reports

theorem reports_append (entries more : List JournalEntry) :
    reports (entries ++ more) = reports entries ++ reports more :=
  List.filterMap_append

/-- The report on a component, unless it has no adapters. -/
def reportsOn (c : Component) : List (String × FittingReport) :=
  if (b.adaptersOf c).isEmpty then []
  else [(c.id, .of b.request.interface (b.adaptersOf c))]

theorem reports_adapterEntries (c : Component) (a : Adapter) (heap : Heap) :
    reports (b.adapterEntries c a heap).1 = [] := by
  unfold adapterEntries
  split
  · next binding _ =>
    have hreports : reports (threaded (b.sequenceEntries binding) b.request.sequences heap).1 =
        b.request.sequences.flatMap fun _ => [] :=
      threaded_flatMap reports (fun _ => []) rfl reports_append (fun _ _ _ => rfl) heap
    rw [hreports, List.flatMap_eq_nil_iff]
    exact fun _ _ => rfl
  · split_ifs
    · unfold reports
      rw [List.filterMap_map, List.filterMap_eq_nil_iff]
      exact fun _ _ => rfl
    · rfl

theorem reports_componentEntries (c : Component) (heap : Heap) :
    reports (b.componentEntries (c, b.adaptersOf c) heap).1 = b.reportsOn c := by
  have htried : reports (threaded (b.adapterEntries c) (b.adaptersOf c) heap).1 = [] := by
    have hreports : reports (threaded (b.adapterEntries c) (b.adaptersOf c) heap).1 =
        (b.adaptersOf c).flatMap fun _ => [] :=
      threaded_flatMap reports _ rfl reports_append
        (fun a _ heap => b.reports_adapterEntries c a heap) heap
    rw [hreports, List.flatMap_eq_nil_iff]
    exact fun _ _ => rfl
  unfold componentEntries reportsOn
  split_ifs with hempty
  · rfl
  · exact congrArg (List.cons (c.id, FittingReport.of b.request.interface (b.adaptersOf c)))
      htried

theorem nodup_reports
    {components : List Component} (hids : (components.map (·.id)).Nodup) :
    ((components.flatMap b.reportsOn).map Prod.fst).Nodup := by
  have hsublist : ((components.flatMap b.reportsOn).map Prod.fst).Sublist
      (components.map (·.id)) := by
    induction components with
    | nil => exact List.Sublist.refl _
    | cons c rest ih =>
        have hrest := ih (List.nodup_cons.mp hids).2
        rw [List.flatMap_cons, List.map_append, List.map_cons]
        unfold reportsOn at hrest ⊢
        split_ifs
        · exact hrest.cons _
        · exact hrest.cons_cons _
  exact hids.sublist hsublist

theorem lookup_reports
    {components : List Component} (hids : (components.map (·.id)).Nodup) {c : Component}
    (hc : c ∈ components) :
    (components.flatMap b.reportsOn).lookup c.id =
      if (b.adaptersOf c).isEmpty then none
      else some (.of b.request.interface (b.adaptersOf c)) := by
  split_ifs with hempty
  · rw [lookup_eq_none_iff_keys]
    intro hkey
    obtain ⟨entry, hentry, hid⟩ := List.mem_map.mp hkey
    obtain ⟨c', hc', hin⟩ := List.mem_flatMap.mp hentry
    unfold reportsOn at hin
    split_ifs at hin with hempty'
    · cases hin
    · cases List.mem_singleton.mp hin
      cases List.inj_on_of_nodup_map hids hc' hc hid
      exact hempty' hempty
  · rw [← mem_iff_lookup (b.nodup_reports hids)]
    refine List.mem_flatMap.mpr ⟨c, hc, ?_⟩
    unfold reportsOn
    rw [if_neg hempty]
    exact List.mem_singleton_self _

end Reports

section Journal

theorem adapterEntries_unrecorded
    (c : Component) (a : Adapter) (heap : Heap) : Unrecorded (b.adapterEntries c a heap).1 := by
  intro record hrecord
  unfold adapterEntries at hrecord
  split at hrecord
  · obtain ⟨sequence, -, heap', hran⟩ := exists_of_mem_threaded hrecord
    cases List.mem_singleton.mp hran
  · split_ifs at hrecord
    · obtain ⟨_, haborted, hsame⟩ := List.mem_map.mp hrecord
      cases hsame
      obtain ⟨sequence, -, rfl⟩ := List.mem_map.mp haborted
      rfl
    · cases hrecord

theorem journal_unrecorded (components : List Component) (cache : AdapterCache) (heap : Heap) :
    Unrecorded (b.journal components cache heap).1 := by
  intro record hrecord
  obtain ⟨fetched, -, heap', hin⟩ := exists_of_mem_threaded hrecord
  unfold componentEntries at hin
  split_ifs at hin
  · cases hin
  · rcases List.mem_cons.mp hin with hreport | htried
    · cases hreport
    · obtain ⟨a, -, heap'', haborted⟩ := exists_of_mem_threaded htried
      exact b.adapterEntries_unrecorded fetched.1 a heap'' record haborted

theorem filed_of_mem_records
    {entries : List JournalEntry} (hunrecorded : Unrecorded entries) {record : RunRecord}
    (hrecord : record ∈ b.records entries) : record.Filed := by
  obtain ⟨entry, hentry, hsome⟩ := List.mem_filterMap.mp hrecord
  cases entry with
  | report candidate report => cases hsome
  | ran x =>
      cases hsome
      exact b.recordOf_filed x
  | aborted other =>
      cases hsome
      unfold RunRecord.Filed
      rw [hunrecorded record hentry]
      exact ⟨⟨rfl, .nil⟩, ⟨rfl, .nil⟩⟩

variable {components : List Component} {cache : AdapterCache}

theorem keys_journal
    (hfetched : (b.fetched components cache).1 =
      components.map fun c => (c, b.adaptersOf c)) (heap : Heap) :
    b.keys (b.journal components cache heap).1 = components.flatMap b.componentKeys := by
  unfold journal
  rw [hfetched]
  have hkeys : ∀ fetched ∈ components.map fun c => (c, b.adaptersOf c), ∀ heap,
      b.keys (b.componentEntries fetched heap).1 = b.componentKeys fetched.1 := by
    intro fetched hfetched heap
    obtain ⟨c, -, rfl⟩ := List.mem_map.mp hfetched
    exact b.keys_componentEntries c heap
  rw [threaded_flatMap b.keys _ rfl b.keys_append hkeys heap, List.flatMap_map]

theorem reports_journal
    (hfetched : (b.fetched components cache).1 =
      components.map fun c => (c, b.adaptersOf c)) (heap : Heap) :
    reports (b.journal components cache heap).1 = components.flatMap b.reportsOn := by
  unfold journal
  rw [hfetched]
  have hreports : ∀ fetched ∈ components.map fun c => (c, b.adaptersOf c), ∀ heap,
      reports (b.componentEntries fetched heap).1 = b.reportsOn fetched.1 := by
    intro fetched hfetched heap
    obtain ⟨c, -, rfl⟩ := List.mem_map.mp hfetched
    exact b.reports_componentEntries c heap
  rw [threaded_flatMap reports _ rfl reports_append hreports heap, List.flatMap_map]

end Journal

/-- A component is not adaptable exactly if it has no adapters. -/
theorem status_eq_notAdaptable_iff (fetched : Component × List Adapter) :
    (b.summary fetched).status = .notAdaptable ↔ fetched.2 = [] := by
  unfold summary Trial.statusAfter
  simp only
  rw [← List.isEmpty_iff]
  split_ifs with hempty
  · simp [hempty]
  · simp [hempty]
  · simp [hempty]

end Batch

namespace Trial

theorem map_id_selected (components : List Component) (request : TrialRequest) :
    ((selected components request).map (·.id)).Sublist (components.map (·.id)) := by
  have hids : (Resolution.resolveRest components).map (·.id) = components.map (·.id) := by
    unfold Resolution.resolveRest
    rw [List.map_map]
    refine List.map_congr_left fun c _ => ?_
    simp only [Function.comp_apply]
    split_ifs
    · rfl
    · rfl
  rw [← hids]
  exact List.filter_sublist.map _

/-- An empty cache gives every component its own adapters. -/
theorem fetched_selected
    (t : Trial) {components : List Component} {request : TrialRequest}
    (hids : (components.map (·.id)).Nodup) (hlines : ∀ c ∈ components, '\n' ∉ c.id.toList)
    (hcollide : ∀ c ∈ selected components request, ∀ c' ∈ selected components request,
      ((t.batch components request).requestFor c).digest =
          ((t.batch components request).requestFor c').digest →
        ((t.batch components request).requestFor c).text =
          ((t.batch components request).requestFor c').text) :
    let b := t.batch components request
    (b.fetched (selected components request) (.empty t.settings.cacheCapacity)).1 =
      (selected components request).map fun c => (c, b.adaptersOf c) := by
  intro b
  have hselected : ((selected components request).map (·.id)).Nodup :=
    hids.sublist (map_id_selected components request)
  have hselectedLines : ∀ c ∈ selected components request, '\n' ∉ c.id.toList := by
    intro c hc
    have hid := (map_id_selected components request).subset (List.mem_map_of_mem hc)
    obtain ⟨c', hc', hsame⟩ := List.mem_map.mp hid
    rw [← hsame]
    exact hlines c' hc'
  exact b.fetched_of_distinct (fun _ _ _ hentry => by cases hentry)
    (b.nodup_digests hselected hselectedLines hcollide)

/-- An empty ledger takes all that a trial on distinct components has to enter. -/
theorem run_of_fetched
    (t : Trial) {components : List Component} {request : TrialRequest}
    (hids : (components.map (·.id)).Nodup)
    (hsequences : (request.sequences.map (·.name)).Nodup)
    (hfetched : ((t.batch components request).fetched (selected components request)
      (.empty t.settings.cacheCapacity)).1 =
        (selected components request).map fun c =>
          (c, (t.batch components request).adaptersOf c))
    (heap : Heap) :
    let b := t.batch components request
    let fetched := b.fetched (selected components request) (.empty t.settings.cacheCapacity)
    let journal := b.journal (selected components request) (.empty t.settings.cacheCapacity) heap
    ((b.records journal.1).map b.scopeOf).Nodup ∧
      ∃ store, t.run Ledger.store components request (t.start heap {}) =
          (Resolution.resolveRest components, ⟨fetched.2, journal.2, store⟩,
            .ok ⟨request.executionId, fetched.1.map b.summary, b.records journal.1⟩) ∧
        b.Holds store (b.records journal.1) ∧
        ∀ candidate, store.report? request.executionId candidate =
          (Batch.reports journal.1).lookup candidate := by
  intro b fetched journal
  have hselected : ((selected components request).map (·.id)).Nodup :=
    hids.sublist (map_id_selected components request)
  have hkeys : (b.records journal.1).map RunRecord.key =
      (selected components request).flatMap b.componentKeys := b.keys_journal hfetched heap
  have hreports : Batch.reports journal.1 =
      (selected components request).flatMap b.reportsOn := b.reports_journal hfetched heap
  have hscopes : ((b.records journal.1).map b.scopeOf).Nodup :=
    b.nodup_scopes (hkeys ▸ b.nodup_keys hsequences hselected)
  obtain ⟨store, henter, hholds, hreport⟩ := Batch.enterAll_of_fresh b.holds_empty
    (b.journal_unrecorded _ _ _) hscopes (hreports ▸ b.nodup_reports hselected)
  refine ⟨hscopes, ?_⟩
  rcases t.run_answers Ledger.store components request (t.start heap {}) with
    ⟨store', e, hrefused, -, -⟩ | ⟨store', htaken, hrun⟩
  · cases henter.symm.trans hrefused
  · cases henter.symm.trans htaken
    exact ⟨store, hrun, hholds, fun candidate => (hreport candidate).trans Option.or_none⟩

/-- Over an empty cache and an empty ledger a trial is complete: it ends with a report
that has every selected component and, adapter by adapter, a record of every sequence on
each adapter that was bound or is closed.  A component without adapters has no record and
no stored report, the report of any other is stored.  The sheets of the records are got
back from the ledger, which holds no other cell. -/
theorem run_complete
    (t : Trial) {components : List Component} {request : TrialRequest}
    (hids : (components.map (·.id)).Nodup)
    (hlines : ∀ c ∈ components, '\n' ∉ c.id.toList)
    (hsequences : (request.sequences.map (·.name)).Nodup)
    (hcollide : ∀ c ∈ selected components request, ∀ c' ∈ selected components request,
      ((t.batch components request).requestFor c).digest =
          ((t.batch components request).requestFor c').digest →
        ((t.batch components request).requestFor c).text =
          ((t.batch components request).requestFor c').text)
    (heap : Heap) :
    let b := t.batch components request
    ∃ s report, t.run Ledger.store components request (t.start heap {}) =
        (Resolution.resolveRest components, s, .ok report) ∧
      report.candidates =
        (selected components request).map (fun c => b.summary (c, b.adaptersOf c)) ∧
      report.records.map RunRecord.key =
        (selected components request).flatMap (fun c => (b.adaptersOf c).flatMap fun a =>
          if b.tries a then request.sequences.map fun s => (c.id, a.adapterId, s.name)
          else []) ∧
      (∀ c ∈ selected components request,
        (b.summary (c, b.adaptersOf c)).status = .notAdaptable →
          report.recordsFor c.id = [] ∧
            s.store.report? request.executionId c.id = none) ∧
      (∀ c ∈ selected components request,
        (b.summary (c, b.adaptersOf c)).status ≠ .notAdaptable →
          s.store.report? request.executionId c.id =
            some (.of request.interface (b.adaptersOf c))) ∧
      (∀ record ∈ report.records, ∀ kind,
        s.store.sheet ⟨b.scopeOf record, kind⟩ = record.recording.sheet kind) ∧
      ∀ address cell, s.store.get? address = some cell →
        ∃ record ∈ report.records, address.sheet.scope = b.scopeOf record ∧
          (record.recording.sheet address.sheet.kind).get? address.row address.column =
            some cell := by
  intro b
  have hselected : ((selected components request).map (·.id)).Nodup :=
    hids.sublist (map_id_selected components request)
  have hfetched := t.fetched_selected hids hlines hcollide
  let journal := b.journal (selected components request) (.empty t.settings.cacheCapacity) heap
  have hkeys : (b.records journal.1).map RunRecord.key =
      (selected components request).flatMap b.componentKeys := b.keys_journal hfetched heap
  have hreports : Batch.reports journal.1 =
      (selected components request).flatMap b.reportsOn := b.reports_journal hfetched heap
  have hunrecorded : Batch.Unrecorded journal.1 := b.journal_unrecorded _ _ _
  obtain ⟨hscopes, store, hrun, hholds, hreport⟩ := t.run_of_fetched hids hsequences hfetched heap
  have hstored : ∀ c ∈ selected components request,
      store.report? request.executionId c.id =
        if (b.adaptersOf c).isEmpty then none
        else some (.of request.interface (b.adaptersOf c)) := by
    intro c hc
    refine (hreport c.id).trans ?_
    rw [hreports, b.lookup_reports hselected hc]
    rfl
  refine ⟨_, _, hrun, ?_, hkeys, fun c hc hnone => ?_, fun c hc hsome => ?_,
    fun record hrecord kind => ?_, fun address cell hcell => ?_⟩
  · exact (congrArg (List.map b.summary) hfetched).trans List.map_map
  · have hnone : b.adaptersOf c = [] := (b.status_eq_notAdaptable_iff _).mp hnone
    refine ⟨List.filter_eq_nil_iff.mpr fun record hrecord => ?_, ?_⟩
    · have hkey : record.key ∈ (selected components request).flatMap b.componentKeys :=
        hkeys ▸ List.mem_map_of_mem hrecord
      have hne := b.key_ne_of_no_adapters hselected hc hnone record.key hkey
      simpa [RunRecord.key] using hne
    · refine (hstored c hc).trans ?_
      rw [hnone]
      rfl
  · have hsome : ¬ (b.adaptersOf c).isEmpty = true := fun hempty =>
      hsome ((b.status_eq_notAdaptable_iff _).mpr (List.isEmpty_iff.mp hempty))
    exact (hstored c hc).trans (if_neg hsome)
  · exact hholds.sheet_eq hscopes hrecord (b.filed_of_mem_records hunrecorded hrecord) kind
  · exact (hholds.cell address cell).mp hcell

end Trial

namespace Samples

def echoTrial : Trial where
  settings := { generation := .exhaustive }
  host := (echoHost .args).host
  fitter := exhaustiveFitter

/-- Both sequences make a stand-in and call it, the second one with the stand-in itself. -/
def echoRequest : TrialRequest where
  executionId := "run"
  actionId := "calls"
  interface := echoing
  sequences :=
    [Sequence.ofKinds "null"
      [(.construct "Echo", []), (.call "Echo" "echo" (some 0), [.literal .null])],
     Sequence.ofKinds "self"
      [(.construct "Echo", []), (.call "Echo" "echo" (some 0), [.ref 0])]]

def resolvedUtil : Component :=
  { util with hierarchy := some (Resolution.resolve [util] util) }

theorem adaptersOf_util :
    (echoTrial.batch [util] echoRequest).adaptersOf resolvedUtil = [echoAdapter] :=
  adapters_single nofun rfl rfl

def helperEcho : Member := { echo with declaring := "demo.Helper" }

def helper : Component := { name := "demo.Helper", id := "helper", members := [helperEcho] }

def helperAdapter : Adapter :=
  { echoAdapter with
    candidateId := "helper", component := "demo.Helper"
    methods := [{ echoCandidate with member := helperEcho }] }

def pairHost : HostScript :=
  { members :=
      [⟨"demo.Util", "echo", [.object], .never, .args, false⟩,
       ⟨"demo.Helper", "echo", [.object], .never, .args, false⟩] }

def pairTrial : Trial := { echoTrial with host := pairHost.host }

/-- One of the two components, resolved among both. -/
def resolvedOfPair (c : Component) : Component :=
  { c with hierarchy := some (Resolution.resolve [util, helper] c) }

theorem adaptersOf_pair_util :
    (pairTrial.batch [util, helper] echoRequest).adaptersOf (resolvedOfPair util) =
      [echoAdapter] :=
  adapters_single nofun rfl rfl

theorem adaptersOf_pair_helper :
    (pairTrial.batch [util, helper] echoRequest).adaptersOf (resolvedOfPair helper) =
      [helperAdapter] :=
  adapters_single nofun rfl rfl

theorem nodup_digests_pair :
    ([resolvedOfPair util, resolvedOfPair helper].map fun c =>
      ((pairTrial.batch [util, helper] echoRequest).requestFor c).digest).Nodup := by
  decide +kernel

end Samples

open Samples in
/-- Two components with one adapter each, on which two sequences are run. -/
theorem Trial.run_complete_echo :
    Trial.make { generation := .exhaustive } pairHost.host = .ok pairTrial ∧
      ∃ s report, pairTrial.run Ledger.store [util, helper] echoRequest
          (pairTrial.start {} {}) =
            ([resolvedOfPair util, resolvedOfPair helper], s, .ok report) ∧
        report.records.map RunRecord.key =
          [("util", 0, "null"), ("util", 0, "self"),
           ("helper", 0, "null"), ("helper", 0, "self")] := by
  have hselected : selected [util, helper] echoRequest =
      [resolvedOfPair util, resolvedOfPair helper] := rfl
  have hids : ([util, helper].map (·.id)).Nodup := by decide
  have hlines : ∀ c ∈ [util, helper], '\n' ∉ c.id.toList := by decide
  have hsequences : (echoRequest.sequences.map (·.name)).Nodup := by decide
  have hcollide : ∀ c ∈ selected [util, helper] echoRequest,
      ∀ c' ∈ selected [util, helper] echoRequest,
        ((pairTrial.batch [util, helper] echoRequest).requestFor c).digest =
            ((pairTrial.batch [util, helper] echoRequest).requestFor c').digest →
          ((pairTrial.batch [util, helper] echoRequest).requestFor c).text =
            ((pairTrial.batch [util, helper] echoRequest).requestFor c').text := by
    intro c hc c' hc' hdigest
    rw [hselected] at hc hc'
    rw [List.inj_on_of_nodup_map nodup_digests_pair hc hc' hdigest]
  obtain ⟨s, report, hrun, -, hkeys, -⟩ :=
    run_complete pairTrial hids hlines hsequences hcollide {}
  refine ⟨rfl, s, report, hrun, ?_⟩
  rw [hkeys, hselected, List.flatMap_cons, List.flatMap_singleton, adaptersOf_pair_util,
    adaptersOf_pair_helper]
  rfl

end Refit
