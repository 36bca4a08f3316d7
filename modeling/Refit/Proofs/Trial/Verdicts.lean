import Refit.Proofs.Trial.Completeness

/-!
# What a verdict counts

The verdict on a component with adapters counts those that the trial keeps: adapters that
were bound, and adapters with a closed member, whose sequences are recorded as aborted.
An adapter that cannot be bound for any other reason is left out, and a component all of
whose adapters are left out has failed.
-/

namespace Refit

namespace Batch

variable (b : Batch)

def bound (a : Adapter) : Bool := (Binding.bind b.trial.host a).isOk

/-- The host keeps a member of the adapter closed. -/
def closed (a : Adapter) : Bool :=
  match Binding.bind b.trial.host a with
  | .ok _ => false
  | .error e => e.stopsRun

/-- A member of the adapter cannot be had, and not because it is closed. -/
def LeftOut (a : Adapter) : Prop :=
  ∃ e, Binding.bind b.trial.host a = .error e ∧ e.stopsRun = false

theorem isSome_failure?_iff (a : Adapter) : (b.failure? a).isSome = true ↔ b.LeftOut a := by
  unfold failure? LeftOut
  cases Binding.bind b.trial.host a with
  | ok binding => simp
  | error e => cases he : e.stopsRun <;> simp [he]

theorem length_failures (adapters : List Adapter) :
    (adapters.filterMap b.failure?).length +
        (adapters.countP b.bound + adapters.countP b.closed) = adapters.length := by
  induction adapters with
  | nil => rfl
  | cons a rest ih =>
      -- An adapter is counted once, as bound, as closed or as left out.
      have hone : (b.failure? a).toList.length +
          ((if b.bound a then 1 else 0) + (if b.closed a then 1 else 0)) = 1 := by
        unfold failure? bound closed
        cases Binding.bind b.trial.host a with
        | ok binding => rfl
        | error e => cases he : e.stopsRun <;> simp [he, Except.isOk, Except.toBool]
      have hfailures : ((a :: rest).filterMap b.failure?).length =
          (b.failure? a).toList.length + (rest.filterMap b.failure?).length := by
        rw [List.filterMap_cons]
        cases b.failure? a with
        | none => simp
        | some message => simp [Nat.add_comm]
      rw [hfailures, List.countP_cons, List.countP_cons, List.length_cons]
      omega

theorem failures_of_all_iff (adapters : List Adapter) :
    (adapters.filterMap b.failure?).length = adapters.length ↔
      ∀ a ∈ adapters, b.LeftOut a := by
  rw [List.length_filterMap_eq_countP, List.countP_eq_length]
  simp only [b.isSome_failure?_iff]

section Verdicts

variable {found : Component × List Adapter} (hsome : found.2 ≠ [])

include hsome

theorem status_summary :
    (b.summary found).status =
      Trial.statusAfter found.2 (found.2.filterMap b.failure?) := by
  unfold summary
  have hempty : ¬ found.2.isEmpty = true := by
    rw [List.isEmpty_iff]
    exact hsome
  simp only [if_neg hempty]

theorem status_failed_iff :
    (∃ reason, (b.summary found).status = .failed reason) ↔ ∀ a ∈ found.2, b.LeftOut a := by
  rw [b.status_summary hsome, ← b.failures_of_all_iff]
  unfold Trial.statusAfter
  split_ifs with hall
  · simp [hall]
  · simp [hall]

theorem status_adapted_iff (k : ℕ) :
    (b.summary found).status = .adapted k ↔
      1 ≤ k ∧ found.2.countP b.bound + found.2.countP b.closed = k := by
  have hlength := b.length_failures found.2
  rw [b.status_summary hsome]
  unfold Trial.statusAfter
  split_ifs with hall
  · constructor
    · intro hstatus
      cases hstatus
    · rintro ⟨hpos, hcount⟩
      omega
  · rw [Verdict.adapted.injEq]
    omega

end Verdicts

end Batch

namespace Trial

variable {σ : Type}

theorem map_fst_fetched (b : Batch) (components : List Component) (cache : AdapterCache) :
    (b.fetched components cache).1.map Prod.fst = components := by
  induction components generalizing cache with
  | nil => rfl
  | cons c rest ih =>
      rw [Batch.fetched_cons, List.map_cons, ih]

/-- A report has a summary of every selected component, in their order.  One with adapters
has failed exactly if all of them are left out, and is adapted with as many as were bound
or are closed. -/
theorem verdicts_count_kept
    (t : Trial) (stores : Archive σ) {components : List Component} {request : TrialRequest}
    {s : TrialState σ} {report : TrialReport}
    (hreport : (t.run stores components request s).2.2 = .ok report) :
    let b := t.batch components request
    let fetched := (b.fetched (selected components request) s.cache).1
    fetched.map Prod.fst = selected components request ∧
      List.Forall₂ (fun found summary =>
        summary.candidateId = found.1.id ∧ summary.component = found.1.name ∧
          (found.2 ≠ [] →
            ((∃ reason, summary.status = .failed reason) ↔ ∀ a ∈ found.2, b.LeftOut a) ∧
            ∀ k, summary.status = .adapted k ↔
              1 ≤ k ∧ found.2.countP b.bound + found.2.countP b.closed = k))
        fetched report.candidates := by
  intro b fetched
  have hcandidates : report.candidates = fetched.map b.summary := by
    rcases t.run_answers stores components request s with
      ⟨store, e, -, -, hresult⟩ | ⟨store, -, hrun⟩
    · rw [hresult] at hreport
      cases hreport
    · rw [hrun] at hreport
      cases hreport
      rfl
  refine ⟨map_fst_fetched b _ _, ?_⟩
  rw [hcandidates, List.forall₂_map_right_iff, List.forall₂_same]
  intro found _
  exact ⟨rfl, rfl, fun hsome => ⟨b.status_failed_iff hsome, b.status_adapted_iff hsome⟩⟩

end Trial

namespace Samples

def echoTrialOn (h : HostScript) : Trial := { echoTrial with host := h.host }

def closedEchoHost : HostScript := (echoHost .args).close "demo.Util" "echo"

theorem selected_util : Trial.selected [util] echoRequest = [resolvedUtil] := rfl

section Runs

variable (h : HostScript)

theorem adaptersOf_echoTrialOn :
    ((echoTrialOn h).batch [util] echoRequest).adaptersOf resolvedUtil = [echoAdapter] :=
  adaptersOf_util

theorem fetched_echoTrialOn :
    (((echoTrialOn h).batch [util] echoRequest).fetched (Trial.selected [util] echoRequest)
        (.empty (echoTrialOn h).settings.cacheCapacity)).1 =
      [(resolvedUtil, [echoAdapter])] := by
  have hdistinct : ([resolvedUtil].map fun c =>
      (((echoTrialOn h).batch [util] echoRequest).requestFor c).digest).Nodup :=
    List.nodup_singleton _
  rw [selected_util, Batch.fetched_of_distinct _ (fun _ _ _ hentry => by cases hentry) hdistinct,
    List.map_singleton, adaptersOf_echoTrialOn]

theorem run_echoTrialOn :
    ∃ report, ((echoTrialOn h).run Ledger.store [util] echoRequest
        ((echoTrialOn h).start {} {})).2.2 = .ok report ∧
      report.candidates =
        [((echoTrialOn h).batch [util] echoRequest).summary (resolvedUtil, [echoAdapter])] := by
  have hids : ([util].map (·.id)).Nodup := by decide
  have hsequences : (echoRequest.sequences.map (·.name)).Nodup := by decide
  have hfetched := fetched_echoTrialOn h
  obtain ⟨-, store, hrun, -⟩ := (echoTrialOn h).run_of_fetched hids hsequences
    (by rw [hfetched, selected_util, List.map_singleton, adaptersOf_echoTrialOn]) {}
  refine ⟨_, congrArg (fun ran => ran.2.2) hrun, ?_⟩
  simp only [hfetched, List.map_singleton]

end Runs

end Samples

open Samples in
/-- Without code the one adapter is left out. -/
theorem Trial.verdicts_count_kept_echo :
    ∃ report, ((echoTrialOn {}).run Ledger.store [util] echoRequest
        ((echoTrialOn {}).start {} {})).2.2 = .ok report ∧
      ∃ summary reason, report.candidates = [summary] ∧ summary.status = .failed reason := by
  obtain ⟨report, hreport, -⟩ := run_echoTrialOn {}
  have hverdicts := (verdicts_count_kept _ _ hreport).2
  have hfetched := fetched_echoTrialOn {}
  have hleft : ((echoTrialOn {}).batch [util] echoRequest).LeftOut echoAdapter :=
    ⟨.unavailable "demo.Util", rfl, rfl⟩
  change List.Forall₂ _ (((echoTrialOn {}).batch [util] echoRequest).fetched
    (Trial.selected [util] echoRequest) (.empty (echoTrialOn {}).settings.cacheCapacity)).1 _
    at hverdicts
  rw [hfetched] at hverdicts
  obtain ⟨summary, rest, hsummary, hrest, hcandidates⟩ :=
    List.forall₂_cons_left_iff.mp hverdicts
  rw [List.forall₂_nil_left_iff] at hrest
  obtain ⟨-, -, hstatus⟩ := hsummary
  obtain ⟨reason, hfailed⟩ := (hstatus (by decide)).1.mpr (by simpa using hleft)
  exact ⟨report, hreport, summary, reason, hrest ▸ hcandidates, hfailed⟩

open Samples in
/-- The one adapter is closed, not bound, and the component is adapted with it. -/
theorem Trial.closed_adapter_counted :
    (((echoTrialOn closedEchoHost).batch [util] echoRequest).fetched
        (Trial.selected [util] echoRequest)
        (.empty (echoTrialOn closedEchoHost).settings.cacheCapacity)).1 =
      [(resolvedUtil, [echoAdapter])] ∧
    Binding.bind closedEchoHost.host echoAdapter = .error (.notAccessible echo.text) ∧
      ∃ report, ((echoTrialOn closedEchoHost).run Ledger.store [util] echoRequest
          ((echoTrialOn closedEchoHost).start {} {})).2.2 = .ok report ∧
        report.candidates.map (·.status) = [.adapted 1] := by
  obtain ⟨report, hreport, hcandidates⟩ := run_echoTrialOn closedEchoHost
  refine ⟨fetched_echoTrialOn _, rfl, report, hreport, ?_⟩
  rw [hcandidates]
  rfl

end Refit
