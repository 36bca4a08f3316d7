import Refit.Proofs.Execution.Producers

/-!
# What an observer sees

The sights of a run are what it shows to its observer, in order.  The producers are
as they should be at each of them, and the steps that a sight shows as run are the
first ones of those that the last sight shows.
-/

namespace Refit

/-- What a run shows to an observer at once. -/
structure Sight where
  heap : Heap
  run : Run
  step : RunStep

/-- Keeps all that is seen in front of what another observer does. -/
def Observer.recalling {σ : Type} (v : Observer σ) : Observer (List Sight × σ) where
  before heap run step := fun (sights, s) =>
    let (s, result) := v.before heap run step s
    ((sights ++ [⟨heap, run, step⟩], s), result)
  after heap run step := fun (sights, s) =>
    let (s, result) := v.after heap run step s
    ((sights ++ [⟨heap, run, step⟩], s), result)

namespace Observer

variable {σ : Type} {v : Observer σ} {heap : Heap} {run : Run} {step : RunStep}
  {state shown : σ} {result : Except Error Unit}

theorem recalling_before
    (hbefore : v.before heap run step state = (shown, result)) (sights : List Sight) :
    v.recalling.before heap run step (sights, state) =
      ((sights ++ [⟨heap, run, step⟩], shown), result) := by
  simp only [recalling, hbefore]

theorem recalling_after
    (hafter : v.after heap run step state = (shown, result)) (sights : List Sight) :
    v.recalling.after heap run step (sights, state) =
      ((sights ++ [⟨heap, run, step⟩], shown), result) := by
  simp only [recalling, hafter]

end Observer

namespace Sight

/-- The objects that are written at the top of a cell: the target and the inputs of
a step before it runs, its output afterwards. -/
def Shows (sight : Sight) (i : Instance) : Prop :=
  match sight.step.output with
  | none => sight.step.target = some (.object i) ∨ .object i ∈ sight.step.inputs
  | some output => output = .ok (.object i)

/-- The step at hand is about to run or was the last one to run. -/
def Placed (sight : Sight) : Prop :=
  sight.run.steps.length =
    if sight.step.output.isSome then sight.step.step.position + 1
    else sight.step.step.position

/-- The run is tracked in the world at the time, and what is written has been made. -/
structure Tracked (sight : Sight) : Prop where
  placed : sight.Placed
  tracked : ∃ w : World, w.heap = sight.heap ∧ sight.run.Tracked w ∧
    ∀ i, sight.Shows i → w.Made i

end Sight

namespace Runner

variable {σ : Type}

/-- All that a run shows to an observer, up to where it ends or is stopped. -/
def sights (p : Runner) (v : Observer σ) (sequence : Sequence) (heap : Heap)
    (state : σ) : List Sight :=
  (p.execute v.recalling sequence heap ([], state)).visitor.1

section Cons

variable {p : Runner} {v : Observer σ} {run : Run} {s : Step} {rest : List Step}
  {heap after : Heap} {state seen shown : σ} {error : Error} {result : StepResult}

theorem executeFrom_of_refused
    (hbefore : v.before heap run (p.preparedAt ⟨run, s, heap⟩) state =
      (seen, .error error)) :
    p.executeFrom v run (s :: rest) heap state = ⟨heap, seen, .error error⟩ := by
  rw [preparedAt] at hbefore
  rw [executeFrom]
  simp only [Moment.receiver, Moment.inputs] at hbefore
  simp only [hbefore]

theorem executeFrom_of_stopped
    (hbefore : v.before heap run (p.preparedAt ⟨run, s, heap⟩) state = (seen, .ok ()))
    (hperform : p.performAt ⟨run, s, heap⟩ = (.error error, after)) :
    p.executeFrom v run (s :: rest) heap state = ⟨after, seen, .error error⟩ := by
  rw [preparedAt] at hbefore
  rw [performAt] at hperform
  rw [executeFrom]
  simp only [Moment.receiver, Moment.inputs] at hbefore hperform
  simp only [hbefore, hperform]

theorem executeFrom_of_refused_after
    (hbefore : v.before heap run (p.preparedAt ⟨run, s, heap⟩) state = (seen, .ok ()))
    (hperform : p.performAt ⟨run, s, heap⟩ = (.ok result, after))
    (hafter : v.after after
      (extended run after (p.preparedAt ⟨run, s, heap⟩) result).1
      (extended run after (p.preparedAt ⟨run, s, heap⟩) result).2 seen =
        (shown, .error error)) :
    p.executeFrom v run (s :: rest) heap state = ⟨after, shown, .error error⟩ := by
  rw [preparedAt] at hbefore hafter
  rw [performAt] at hperform
  rw [executeFrom]
  simp only [Moment.receiver, Moment.inputs] at hbefore hperform hafter
  simp only [hbefore, hperform, hafter]

theorem executeFrom_of_passed
    (hbefore : v.before heap run (p.preparedAt ⟨run, s, heap⟩) state = (seen, .ok ()))
    (hperform : p.performAt ⟨run, s, heap⟩ = (.ok result, after))
    (hafter : v.after after
      (extended run after (p.preparedAt ⟨run, s, heap⟩) result).1
      (extended run after (p.preparedAt ⟨run, s, heap⟩) result).2 seen =
        (shown, .ok ())) :
    p.executeFrom v run (s :: rest) heap state =
      p.executeFrom v (extended run after (p.preparedAt ⟨run, s, heap⟩) result).1 rest
        after shown := by
  rw [preparedAt] at hbefore hafter ⊢
  rw [performAt] at hperform
  rw [executeFrom]
  simp only [Moment.receiver, Moment.inputs] at hbefore hperform hafter ⊢
  simp only [hbefore, hperform, hafter]

end Cons

/-- What no look at a run breaks holds of the observer in the end. -/
theorem executeFrom_visitor_invariant
    (p : Runner) {v : Observer σ} {Inv : σ → Prop}
    (hbefore : ∀ heap run step state, step.output = none → Inv state →
      Inv (v.before heap run step state).1)
    (hafter : ∀ heap run step state, Inv state → Inv (v.after heap run step state).1)
    (run : Run) (steps : List Step) (heap : Heap) {state : σ} (hstate : Inv state) :
    Inv (p.executeFrom v run steps heap state).visitor := by
  induction steps generalizing run heap state with
  | nil => exact hstate
  | cons s rest ih =>
      have hseen := hbefore heap run (p.preparedAt ⟨run, s, heap⟩) state rfl hstate
      rcases hb : v.before heap run (p.preparedAt ⟨run, s, heap⟩) state with
        ⟨seen, error | ⟨⟩⟩
      · rw [hb] at hseen
        rw [executeFrom_of_refused hb]
        exact hseen
      rw [hb] at hseen
      rcases hperform : p.performAt ⟨run, s, heap⟩ with ⟨error | result, after⟩
      · rw [executeFrom_of_stopped hb hperform]
        exact hseen
      let done := extended run after (p.preparedAt ⟨run, s, heap⟩) result
      have hshown := hafter after done.1 done.2 seen hseen
      rcases ha : v.after after done.1 done.2 seen with ⟨shown, error | ⟨⟩⟩
      · rw [ha] at hshown
        rw [executeFrom_of_refused_after hb hperform ha]
        exact hshown
      · rw [ha] at hshown
        rw [executeFrom_of_passed hb hperform ha]
        exact ih done.1 after hshown

section Recalling

variable (p : Runner) (v : Observer σ) (run : Run) (s : Step) (rest : List Step)
  (heap : Heap) (state : σ)

def sightBefore : Sight := ⟨heap, run, p.preparedAt ⟨run, s, heap⟩⟩

def sightAfter (after : Heap) (result : StepResult) : Sight where
  heap := after
  run := (extended run after (p.preparedAt ⟨run, s, heap⟩) result).1
  step := (extended run after (p.preparedAt ⟨run, s, heap⟩) result).2

/-- A step is stopped, or it is performed and the observer stops the run or lets it
go on.  What is seen up to there is kept. -/
theorem executeFrom_recalling_cons :
    (∃ after shown error,
      p.executeFrom v run (s :: rest) heap state = ⟨after, shown, .error error⟩ ∧
      ∀ sights, p.executeFrom v.recalling run (s :: rest) heap (sights, state) =
        ⟨after, (sights ++ [sightBefore p run s heap], shown), .error error⟩) ∨
    ∃ result after shown, p.performAt ⟨run, s, heap⟩ = (.ok result, after) ∧
      ((∃ error,
        p.executeFrom v run (s :: rest) heap state = ⟨after, shown, .error error⟩ ∧
        ∀ sights, p.executeFrom v.recalling run (s :: rest) heap (sights, state) =
          ⟨after, (sights ++ [sightBefore p run s heap,
            sightAfter p run s heap after result], shown), .error error⟩) ∨
      p.executeFrom v run (s :: rest) heap state =
        p.executeFrom v (sightAfter p run s heap after result).run rest after shown ∧
      ∀ sights, p.executeFrom v.recalling run (s :: rest) heap (sights, state) =
        p.executeFrom v.recalling (sightAfter p run s heap after result).run rest after
          (sights ++ [sightBefore p run s heap, sightAfter p run s heap after result],
            shown)) := by
  rcases hbefore : v.before heap run (p.preparedAt ⟨run, s, heap⟩) state with
    ⟨seen, error | ⟨⟩⟩
  · exact .inl ⟨heap, seen, error, executeFrom_of_refused hbefore, fun sights =>
      executeFrom_of_refused (Observer.recalling_before hbefore sights)⟩
  rcases hperform : p.performAt ⟨run, s, heap⟩ with ⟨error | result, after⟩
  · exact .inl ⟨after, seen, error, executeFrom_of_stopped hbefore hperform, fun sights =>
      executeFrom_of_stopped (Observer.recalling_before hbefore sights) hperform⟩
  have happend : ∀ sights : List Sight, sights ++ [sightBefore p run s heap] ++
      [sightAfter p run s heap after result] =
        sights ++ [sightBefore p run s heap, sightAfter p run s heap after result] :=
    fun sights => List.append_assoc _ _ _
  rcases hafter : v.after after (sightAfter p run s heap after result).run
      (sightAfter p run s heap after result).step seen with ⟨shown, error | ⟨⟩⟩
  · refine .inr ⟨result, after, shown, rfl, .inl ⟨error,
      executeFrom_of_refused_after hbefore hperform hafter, fun sights => ?_⟩⟩
    rw [← happend]
    exact executeFrom_of_refused_after (Observer.recalling_before hbefore sights) hperform
      (Observer.recalling_after hafter _)
  · refine .inr ⟨result, after, shown, rfl, .inr
      ⟨executeFrom_of_passed hbefore hperform hafter, fun sights => ?_⟩⟩
    rw [← happend]
    exact executeFrom_of_passed (Observer.recalling_before hbefore sights) hperform
      (Observer.recalling_after hafter _)

/-- To keep what is seen changes nothing else. -/
theorem executeFrom_recalling (steps : List Step) (sights : List Sight) :
    ∃ more, p.executeFrom v.recalling run steps heap (sights, state) =
      ⟨(p.executeFrom v run steps heap state).heap,
        (sights ++ more, (p.executeFrom v run steps heap state).visitor),
        (p.executeFrom v run steps heap state).result⟩ := by
  induction steps generalizing run heap sights state with
  | nil => exact ⟨[], by rw [executeFrom, executeFrom, List.append_nil]⟩
  | cons s rest ih =>
      obtain ⟨after, shown, error, hplain, hrecalled⟩ |
        ⟨result, after, shown, -, ⟨error, hplain, hrecalled⟩ | ⟨hplain, hrecalled⟩⟩ :=
          executeFrom_recalling_cons p v run s rest heap state
      · rw [hplain, hrecalled]
        exact ⟨_, rfl⟩
      · rw [hplain, hrecalled]
        exact ⟨_, rfl⟩
      · obtain ⟨more, hmore⟩ := ih (sightAfter p run s heap after result).run after shown
          (sights ++ [sightBefore p run s heap, sightAfter p run s heap after result])
        rw [hplain, hrecalled, hmore, List.append_assoc]
        exact ⟨_, rfl⟩

theorem execute_recalling (sequence : Sequence) :
    p.execute v.recalling sequence heap ([], state) =
      ⟨(p.execute v sequence heap state).heap,
        (p.sights v sequence heap state, (p.execute v sequence heap state).visitor),
        (p.execute v sequence heap state).result⟩ := by
  obtain ⟨more, hmore⟩ := executeFrom_recalling p v
    ⟨sequence.name, p.binding.adapter.adapterId, p.binding.adapter.candidateId, [], []⟩
    heap state sequence.steps []
  have hsights : p.sights v sequence heap state = more :=
    congrArg (fun o => o.visitor.1) hmore
  rw [hsights]
  exact hmore

end Recalling

section Tracking

variable {p : Runner} {w w' : World} {run : Run} {s : Step} {result : StepResult}

theorem tracked_sightBefore
    (htracked : run.Tracked w) (hliterals : s.LiteralsOnly w.Made)
    (hposition : s.position = run.steps.length) :
    (sightBefore p run s w.heap).Tracked := by
  refine ⟨hposition.symm, w, rfl, htracked, ?_⟩
  rintro i (htarget | hinput)
  · simp only [sightBefore, preparedAt, prepared, Moment.receiver] at htarget
    split at htarget
    · next hreceiver =>
      subst htarget
      exact Value.only_object.mp (receiverOf_only htracked.made hreceiver _ rfl)
    · cases htarget
  · simp only [sightBefore, preparedAt, prepared, Moment.inputs] at hinput
    split at hinput
    · next hinputs =>
      exact Value.only_object.mp (inputsOf_only htracked.made hliterals hinputs _ hinput)
    · cases hinput

theorem tracked_sightAfter
    (htracked : run.Tracked w) (hlater : w.Later w') (hsound : result.Sound w w')
    (hposition : s.position = run.steps.length) :
    (sightAfter p run s w.heap w'.heap result).Tracked := by
  refine ⟨?_, w', rfl, tracked_extended htracked hlater hsound hposition, fun i hi => ?_⟩
  · simp [Sight.Placed, sightAfter, extended, preparedAt, prepared, hposition]
  · exact Value.only_object.mp (hsound.output _ hi)

/-- All that is seen from here on is tracked, and the steps that it shows as run are
the first ones of this run. -/
structure Outcome.Within (o : Outcome (List Sight × σ)) (sights : List Sight)
    (last : Run) : Prop where
  seen : ∀ sight ∈ o.visitor.1,
    sight ∈ sights ∨ sight.Tracked ∧ sight.run.steps <+: last.steps
  final : ∀ final, o.result = .ok final →
    final.steps = last.steps ∧ final.ProducersSound o.heap

theorem Outcome.within_of_error
    {heap : Heap} {state : σ} {error : Error} {sights more : List Sight} {last : Run}
    (hmore : ∀ sight ∈ more, sight.Tracked ∧ sight.run.steps <+: last.steps) :
    Outcome.Within ⟨heap, (sights ++ more, state), .error error⟩ sights last where
  seen sight hsight := (List.mem_append.mp hsight).imp_right (hmore sight)
  final _ := nofun

theorem Outcome.Within.of_append
    {o : Outcome (List Sight × σ)} {sights more : List Sight} {last : Run}
    (h : o.Within (sights ++ more) last)
    (hmore : ∀ sight ∈ more, sight.Tracked ∧ sight.run.steps <+: last.steps) :
    o.Within sights last where
  seen sight hsight := by
    rcases h.seen sight hsight with hold | htracked
    · exact (List.mem_append.mp hold).imp_right (hmore sight)
    · exact .inr htracked
  final := h.final

theorem executeFrom_tracked
    (hhonest : p.host.Honest w) (v : Observer σ) (hclosed : w.Closed)
    (hnames : ∀ entry ∈ p.names, entry.2.Only w.Made) {steps : List Step}
    (hliterals : ∀ s ∈ steps, s.LiteralsOnly w.Made) (htracked : run.Tracked w)
    (hpositions : steps.map (·.position) = List.range' run.steps.length steps.length)
    (sights : List Sight) (state : σ) :
    ∃ last : Run, run.steps <+: last.steps ∧
      last.steps.length ≤ run.steps.length + steps.length ∧
      (p.executeFrom v.recalling run steps w.heap (sights, state)).Within sights last := by
  induction steps generalizing w run sights state with
  | nil =>
      refine ⟨run, List.prefix_rfl, le_rfl, fun sight hsight => .inl hsight, ?_⟩
      intro final hfinal
      cases hfinal
      exact ⟨rfl, htracked.sound⟩
  | cons s rest ih =>
      rw [List.length_cons, List.map_cons, List.range'_succ, List.cons.injEq] at hpositions
      obtain ⟨hposition, hrest⟩ := hpositions
      have hbefore := tracked_sightBefore (p := p) htracked
        (hliterals s List.mem_cons_self) hposition
      have hyields :=
        performAt_yields hhonest hclosed hnames htracked.made (hliterals s List.mem_cons_self)
      obtain ⟨after, shown, error, -, hrecalled⟩ | ⟨result, after, shown, hperform, hgoes⟩ :=
          executeFrom_recalling_cons p v run s rest w.heap state
      · rw [hrecalled]
        refine ⟨run, List.prefix_rfl, by simp, Outcome.within_of_error fun sight hsight => ?_⟩
        rw [List.mem_singleton.mp hsight]
        exact ⟨hbefore, List.prefix_rfl⟩
      rw [hperform] at hyields
      obtain ⟨w', rfl, hlater, hclosed', hsound⟩ := hyields
      have hsound := hsound result rfl
      have hafter := tracked_sightAfter (p := p) htracked hlater hsound hposition
      let run' := (sightAfter p run s w.heap w'.heap result).run
      have hbegins : run.steps <+: run'.steps := steps_prefix_extended _ _ _ _
      have hlength : run'.steps.length = run.steps.length + 1 := by
        simp [run', sightAfter, extended]
      have htracked' : run'.Tracked w' := tracked_extended htracked hlater hsound hposition
      have hpassed : ∀ last : Run, run'.steps <+: last.steps →
          ∀ sight ∈ [sightBefore p run s w.heap, sightAfter p run s w.heap w'.heap result],
            sight.Tracked ∧ sight.run.steps <+: last.steps := by
        intro last hlast
        simp only [List.forall_mem_cons]
        exact ⟨⟨hbefore, hbegins.trans hlast⟩, ⟨hafter, hlast⟩, by simp⟩
      rcases hgoes with ⟨error, -, hrecalled⟩ | ⟨-, hrecalled⟩
      · rw [hrecalled]
        refine ⟨run', hbegins, ?_, Outcome.within_of_error (hpassed run' List.prefix_rfl)⟩
        rw [hlength, List.length_cons]
        omega
      · rw [hrecalled]
        obtain ⟨last, hlast, hbound, hwithin⟩ := ih (hhonest.later hlater) hclosed'
          (fun entry hentry => hlater.only (hnames entry hentry))
          (fun s hs v hv => hlater.only (hliterals s (List.mem_cons_of_mem _ hs) v hv))
          htracked' (by rw [hlength]; exact hrest)
          (sights ++ [_, _]) shown
        refine ⟨last, hbegins.trans hlast, ?_, hwithin.of_append (hpassed last hlast)⟩
        rw [hlength] at hbound
        rw [List.length_cons]
        omega

end Tracking

end Runner

end Refit
