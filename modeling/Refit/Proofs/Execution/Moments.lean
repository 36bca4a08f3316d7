import Mathlib.Tactic
import Refit.Execution.Run

/-!
# The moments of a run

A run is followed from step to step.  A moment is what the runner has in hand
when a step is about to be performed: the run so far, the step and the heap.  A
property of the heap that no step breaks holds at every moment, and every
recorded step was performed at one.
-/

namespace Refit

structure Moment where
  run : Run
  step : Step
  heap : Heap

namespace Moment

def receiver (m : Moment) : Except Fault (Option Value) :=
  Runner.receiverOf m.run m.step

def inputs (m : Moment) : Except Fault (List Value) :=
  Runner.inputsOf m.run m.step.inputs

end Moment

namespace Runner

variable {σ : Type}

def preparedAt (p : Runner) (m : Moment) : RunStep :=
  p.prepared m.step m.receiver m.inputs

def performAt (p : Runner) (m : Moment) : Except Error StepResult × Heap :=
  p.perform m.run m.step m.receiver m.inputs m.heap

/-- The run goes on from here and comes to a moment. -/
inductive Reaches (p : Runner) (v : Observer σ) :
    Run → List Step → Heap → σ → Moment → Prop
  | here {run s rest heap state seen}
      (hbefore : v.before heap run (p.preparedAt ⟨run, s, heap⟩) state =
        (seen, .ok ())) :
      Reaches p v run (s :: rest) heap state ⟨run, s, heap⟩
  | later {run s rest heap state seen result after state' m}
      (hbefore : v.before heap run (p.preparedAt ⟨run, s, heap⟩) state =
        (seen, .ok ()))
      (hperform : p.performAt ⟨run, s, heap⟩ = (.ok result, after))
      (hafter :
        v.after after
          (extended run after (p.preparedAt ⟨run, s, heap⟩) result).1
          (extended run after (p.preparedAt ⟨run, s, heap⟩) result).2 seen =
            (state', .ok ()))
      (hrest : Reaches p v
        (extended run after (p.preparedAt ⟨run, s, heap⟩) result).1 rest after
          state' m) :
      Reaches p v run (s :: rest) heap state m

/-- The moments of the run of a sequence. -/
def Visits (p : Runner) (v : Observer σ) (sequence : Sequence) (heap : Heap)
    (state : σ) (m : Moment) : Prop :=
  p.Reaches v
    ⟨sequence.name, p.binding.adapter.adapterId,
      p.binding.adapter.candidateId, [], []⟩
    sequence.steps heap state m

/-- What no step breaks holds at every moment. -/
theorem Reaches.invariant
    {p : Runner} {v : Observer σ} (Inv : Run → Heap → Prop)
    {run : Run} {steps : List Step} {heap : Heap} {state : σ} {m : Moment}
    (hreach : p.Reaches v run steps heap state m)
    (hstep : ∀ m result after, m.step ∈ steps → Inv m.run m.heap →
      p.performAt m = (.ok result, after) →
        Inv (extended m.run after (p.preparedAt m) result).1 after)
    (hinv : Inv run heap) : Inv m.run m.heap := by
  induction hreach with
  | here => exact hinv
  | later _ hperform _ _ ih =>
      apply ih
      · intro m result after hmem
        exact hstep m result after (List.mem_cons_of_mem _ hmem)
      · exact hstep _ _ _ List.mem_cons_self hinv hperform

theorem Reaches.heap_invariant
    {p : Runner} {v : Observer σ} {Inv : Heap → Prop}
    (hstep : ∀ m result after, Inv m.heap →
      p.performAt m = (.ok result, after) → Inv after)
    {run : Run} {steps : List Step} {heap : Heap} {state : σ} {m : Moment}
    (hreach : p.Reaches v run steps heap state m) (hinv : Inv heap) :
    Inv m.heap :=
  hreach.invariant (fun _ heap => Inv heap)
    (fun m result after _ => hstep m result after) hinv

theorem executeFrom_cons
    {p : Runner} {v : Observer σ} {run final : Run} {s : Step}
    {rest : List Step} {heap : Heap} {state : σ}
    (hresult : (p.executeFrom v run (s :: rest) heap state).result = .ok final) :
    ∃ seen result after state',
      v.before heap run (p.preparedAt ⟨run, s, heap⟩) state = (seen, .ok ()) ∧
      p.performAt ⟨run, s, heap⟩ = (.ok result, after) ∧
      v.after after
        (extended run after (p.preparedAt ⟨run, s, heap⟩) result).1
        (extended run after (p.preparedAt ⟨run, s, heap⟩) result).2 seen =
          (state', .ok ()) ∧
      p.executeFrom v run (s :: rest) heap state =
        p.executeFrom v
          (extended run after (p.preparedAt ⟨run, s, heap⟩) result).1 rest after
            state' := by
  unfold executeFrom at hresult
  simp only at hresult
  split at hresult
  · cases hresult
  next seen _ hbefore =>
  split at hresult
  · cases hresult
  next result after hperform =>
  split at hresult
  · cases hresult
  next state' _ hafter =>
  refine ⟨seen, result, after, state', hbefore, hperform, hafter, ?_⟩
  rw [executeFrom]
  simp only [hbefore, hperform, hafter]
  rfl

theorem executeFrom_invariant
    {p : Runner} {v : Observer σ} (Inv : Run → Heap → Prop)
    {run final : Run} {steps : List Step} {heap : Heap} {state : σ}
    (hresult : (p.executeFrom v run steps heap state).result = .ok final)
    (hstep : ∀ m result after, m.step ∈ steps → Inv m.run m.heap →
      p.performAt m = (.ok result, after) →
        Inv (extended m.run after (p.preparedAt m) result).1 after)
    (hinv : Inv run heap) : Inv final (p.executeFrom v run steps heap state).heap := by
  induction steps generalizing run heap state with
  | nil =>
      simp only [executeFrom, Except.ok.injEq] at hresult ⊢
      rwa [← hresult]
  | cons s rest ih =>
      obtain ⟨seen, result, after, state', -, hperform, -, hgoes⟩ := executeFrom_cons hresult
      rw [hgoes] at hresult ⊢
      apply ih hresult
      · intro m result after hmem
        exact hstep m result after (List.mem_cons_of_mem _ hmem)
      · exact hstep _ _ _ List.mem_cons_self hinv hperform

theorem executeFrom_steps_prefix
    {p : Runner} {v : Observer σ} {run final : Run} {steps : List Step}
    {heap : Heap} {state : σ}
    (hresult : (p.executeFrom v run steps heap state).result = .ok final) :
    run.steps <+: final.steps := by
  induction steps generalizing run heap state with
  | nil =>
      simp only [executeFrom, Except.ok.injEq] at hresult
      rw [hresult]
  | cons s rest ih =>
      obtain ⟨seen, result, after, state', -, -, -, hgoes⟩ :=
        executeFrom_cons hresult
      exact (List.prefix_append _ _).trans (ih (hgoes ▸ hresult))

/-- A run that ends well has recorded every step that it came to. -/
theorem exists_recorded_of_reaches
    {p : Runner} {v : Observer σ} {run final : Run} {steps : List Step}
    {heap : Heap} {state : σ} {m : Moment} (hreach : p.Reaches v run steps heap state m)
    (hresult : (p.executeFrom v run steps heap state).result = .ok final)
    {result : StepResult} (hperform : (p.performAt m).1 = .ok result) :
    ∃ done ∈ final.steps, done.output = some result.output := by
  induction hreach with
  | @here run s rest heap state _ _ =>
      obtain ⟨seen, result', after, state', -, hperform', -, hgoes⟩ :=
        executeFrom_cons hresult
      rw [hperform'] at hperform
      cases hperform
      have hbegins := executeFrom_steps_prefix (hgoes ▸ hresult)
      refine ⟨(extended run after (p.preparedAt ⟨run, s, heap⟩) result).2,
        hbegins.subset ?_, rfl⟩
      exact List.mem_append_right _ List.mem_cons_self
  | later hbefore hperformed hafter _ ih =>
      obtain ⟨seen, result', after, state', hbefore', hperformed', hafter', hgoes⟩ :=
        executeFrom_cons hresult
      rw [hbefore] at hbefore'
      cases hbefore'
      rw [hperformed] at hperformed'
      cases hperformed'
      rw [hafter] at hafter'
      cases hafter'
      exact ih (hgoes ▸ hresult) hperform

/-- A recorded step was performed at a moment of the run, after the steps recorded
before it. -/
theorem exists_moment_of_recorded
    {p : Runner} {v : Observer σ} {run final : Run} {steps : List Step}
    {heap : Heap} {state : σ}
    (hresult : (p.executeFrom v run steps heap state).result = .ok final)
    {place : ℕ} {done : RunStep} (hplace : run.steps.length ≤ place)
    (hdone : final.steps[place]? = some done) :
    ∃ m result after, p.Reaches v run steps heap state m ∧
      m.run.steps = final.steps.take place ∧
      p.performAt m = (.ok result, after) ∧
      done = { p.preparedAt m with
        output := some result.output, adapted := result.adapted
        standIn := result.standIn } := by
  induction steps generalizing run heap state with
  | nil =>
      simp only [executeFrom, Except.ok.injEq] at hresult
      subst hresult
      rw [List.getElem?_eq_none_iff.mpr hplace] at hdone
      cases hdone
  | cons s rest ih =>
      obtain ⟨seen, result, after, state', hbefore, hperform, hafter, hgoes⟩ :=
        executeFrom_cons hresult
      rw [hgoes] at hresult
      rcases hplace.eq_or_lt with hhere | hlater
      · -- The rest of the run only adds to what is recorded.
        obtain ⟨more, hmore⟩ := executeFrom_steps_prefix hresult
        rw [← hmore, ← hhere] at hdone ⊢
        refine ⟨⟨run, s, heap⟩, result, after, .here hbefore, ?_, hperform, ?_⟩
        · simp [extended]
        · simpa [extended] using hdone.symm
      · obtain ⟨m, result', after', hreach, hbegins, hperform', hrecord⟩ :=
          ih hresult (by simpa [extended] using hlater)
        exact ⟨m, result', after', .later hbefore hperform hafter hreach, hbegins,
          hperform', hrecord⟩

theorem inputsOf_congr
    {run run' : Run} {inputs : List StepInput}
    (hsame : ∀ row, .ref row ∈ inputs → run'.outputAt? row = run.outputAt? row) :
    inputsOf run' inputs = inputsOf run inputs := by
  induction inputs with
  | nil => rfl
  | cons input rest ih =>
      have hrest := ih fun row hrow => hsame row (List.mem_cons_of_mem _ hrow)
      cases input with
      | literal v => rw [inputsOf, inputsOf, hrest]
      | ref row =>
          rw [inputsOf, inputsOf, hrest]
          unfold earlierOutput
          rw [hsame row List.mem_cons_self]

theorem length_inputsOf
    {run : Run} {inputs : List StepInput} {values : List Value}
    (hvalues : inputsOf run inputs = .ok values) :
    values.length = inputs.length := by
  induction inputs generalizing values with
  | nil =>
      cases hvalues
      rfl
  | cons input inputs ih =>
      cases input with
      | literal v =>
          simp only [inputsOf] at hvalues
          cases hrest : inputsOf run inputs with
          | error fault =>
              rw [hrest] at hvalues
              cases hvalues
          | ok rest =>
              rw [hrest] at hvalues
              cases hvalues
              simp [ih hrest]
      | ref position =>
          simp only [inputsOf] at hvalues
          split at hvalues
          · cases hvalues
          cases hrest : inputsOf run inputs with
          | error fault =>
              rw [hrest] at hvalues
              cases hvalues
          | ok rest =>
              rw [hrest] at hvalues
              cases hvalues
              simp [ih hrest]

end Runner

end Refit
