import Refit.Proofs.Execution.Faults
import Refit.Proofs.Sheet.Paired
import Refit.Proofs.Sheet.Referents

/-!
# The shape of recorded sheets

The rows of a recorded run are the steps that were begun.  The row of a step that
came to its end has an output, an operation, a target and its inputs, where all of
them are known; the row of a step that stopped the run has no more than target and
inputs.  No cell is written twice, so the recorder refuses nothing, and only a closed
member stops a run that is recorded.
-/

namespace Refit

namespace Sequence

/-- The steps stand in their places and refer to steps that come before them. -/
structure Ordered (sequence : Sequence) : Prop where
  position : ∀ row (s : Step), sequence.steps[row]? = some s → s.position = row
  references : ∀ row (s : Step), sequence.steps[row]? = some s →
    ∀ earlier ∈ s.references, earlier < row

theorem references_lt_of_forwardReference?
    {steps : List Step} (hnone : forwardReference? steps = none) :
    ∀ s ∈ steps, ∀ row ∈ s.references, row < s.position := by
  induction steps with
  | nil => simp
  | cons first rest ih =>
      unfold forwardReference? at hnone
      split at hnone
      · cases hnone
      next hfind =>
      intro s hs row hrow
      rcases List.mem_cons.mp hs with rfl | hrest
      · have hnot := List.find?_eq_none.mp hfind row hrow
        simpa using hnot
      · exact ih hnone s hrest row hrow

theorem ordered_of_build
    {name : String} {kinds : List (StepKind × List StepInput)} {sequence : Sequence}
    (hbuild : build name kinds = .ok sequence) : sequence.Ordered := by
  have hposition : ∀ row (s : Step), sequence.steps[row]? = some s → s.position = row := by
    intro row s hs
    have hrow : (sequence.steps.map (·.position))[row]? = some s.position := by
      rw [List.getElem?_map, hs, Option.map_some]
    rw [positions_of_build hbuild] at hrow
    obtain ⟨hlt, hvalue⟩ := List.getElem?_eq_some_iff.mp hrow
    simpa using hvalue.symm
  refine ⟨hposition, fun row s hs earlier hearlier => ?_⟩
  unfold build at hbuild
  simp only at hbuild
  split at hbuild
  · cases hbuild
  next hnone =>
  cases hbuild
  have hlt := references_lt_of_forwardReference? hnone s (List.mem_of_getElem? hs)
    earlier hearlier
  rwa [hposition row s hs] at hlt

end Sequence

namespace Runner

/-- Only a member that stays closed stops a step. -/
theorem performAt_error
    {p : Runner} {m : Moment} {error : Error} {after : Heap}
    (hperform : p.performAt m = (.error error, after)) : error.kind = .integrity := by
  have hcall : ∀ (m : Member) receiver inputs heap,
      p.callAsIs m receiver inputs heap = (.error error, after) →
        error.kind = .integrity := by
    intro m receiver inputs heap hcall
    unfold callAsIs at hcall
    split at hcall
    · split_ifs at hcall with hstops
      · cases hcall
        exact eq_of_beq hstops
      · cases hcall
    · cases hcall
  unfold performAt perform at hperform
  split at hperform
  · cases hperform
  · cases hperform
  next receiver inputs _ _ =>
  unfold runStep at hperform
  split at hperform
  · split_ifs at hperform
    · cases hperform
    · unfold constructComponent at hperform
      split at hperform
      · cases hperform
      · exact hcall _ _ _ _ hperform
  · split_ifs at hperform
    · cases hperform
    · unfold callComponent at hperform
      simp only at hperform
      split at hperform
      · split at hperform
        · cases hperform
        · exact hcall _ _ _ _ hperform
      · split at hperform
        · cases hperform
        · exact hcall _ _ _ _ hperform
      · cases hperform
      · cases hperform
  · cases hperform

end Runner

namespace Run

/-- The number of inputs of a step if they are all known, or none. -/
def inputCount (run : Run) (s : Step) : ℕ :=
  match Runner.inputsOf run s.inputs with
  | .ok _ => s.inputs.length
  | .error _ => 0

/-- A place in the row of a step that has been run. -/
def Fills (run : Run) (sequence : Sequence) (row column : ℕ) : Prop :=
  row < run.steps.length ∧ ∃ s, sequence.steps[row]? = some s ∧
    column < Sheet.firstInputColumn + run.inputCount s

variable {run run' : Run} {sequence : Sequence} {s : Step} {row column : ℕ}

theorem inputCount_of_begins
    (hbegins : run.steps <+: run'.steps)
    (hknown : ∀ earlier ∈ s.references, earlier < run.steps.length) :
    run'.inputCount s = run.inputCount s := by
  have hinputs : Runner.inputsOf run' s.inputs = Runner.inputsOf run s.inputs := by
    refine Runner.inputsOf_congr fun row hrow => outputAt?_of_begins hbegins ?_
    refine hknown row (List.mem_append_right _ ?_)
    exact List.mem_filterMap.mpr ⟨_, hrow, rfl⟩
  unfold inputCount
  rw [hinputs]

theorem length_inputs_preparedAt (p : Runner) (m : Moment) :
    (p.preparedAt m).inputs.length = m.run.inputCount m.step := by
  unfold Runner.preparedAt Runner.prepared Moment.inputs inputCount
  simp only
  cases hinputs : Runner.inputsOf m.run m.step.inputs with
  | error fault => rfl
  | ok values => exact Runner.length_inputsOf hinputs

/-- One more step fills one more row. -/
theorem fills_extended
    (hordered : sequence.Ordered) (hs : sequence.steps[run.steps.length]? = some s)
    (heap : Heap) (prepared : RunStep) (result : StepResult) :
    (Runner.extended run heap prepared result).1.Fills sequence row column ↔
      run.Fills sequence row column ∨
        row = run.steps.length ∧ column < Sheet.firstInputColumn + run.inputCount s := by
  have hlength : (Runner.extended run heap prepared result).1.steps.length =
      run.steps.length + 1 := by
    simp [Runner.extended]
  have hcount : ∀ row' (s' : Step), sequence.steps[row']? = some s' → row' ≤ run.steps.length →
      (Runner.extended run heap prepared result).1.inputCount s' = run.inputCount s' := by
    intro row' s' hs' hrow'
    refine inputCount_of_begins (Runner.steps_prefix_extended run heap prepared result) ?_
    intro earlier hearlier
    exact (hordered.references row' s' hs' earlier hearlier).trans_le hrow'
  unfold Fills
  rw [hlength]
  constructor
  · rintro ⟨hlt, s', hs', hcolumn⟩
    rw [hcount row s' hs' (by omega)] at hcolumn
    rcases Nat.lt_succ_iff_lt_or_eq.mp hlt with hbefore | rfl
    · exact .inl ⟨hbefore, s', hs', hcolumn⟩
    · rw [hs] at hs'
      cases hs'
      exact .inr ⟨rfl, hcolumn⟩
  · rintro (⟨hlt, s', hs', hcolumn⟩ | ⟨rfl, hcolumn⟩)
    · exact ⟨by omega, s', hs', by rwa [hcount row s' hs' hlt.le]⟩
    · exact ⟨by omega, s, hs, by rwa [hcount _ s hs le_rfl]⟩

end Run

namespace Recording

variable {r : Recording} {row column : ℕ}

/-- Where output and operation are missing, both are taken. -/
theorem Paired.after_of_free
    (h : r.Paired) (host : Host) (heap : Heap) (run : Run) (s : RunStep)
    {output : Except Fault Value} (houtput : s.output = some output)
    (hfree : ∀ column, column < Sheet.targetColumn →
      ¬ r.Holds s.step.position column) :
    ∃ r', Recording.after host heap run s r = (r', .ok ()) ∧ r'.Paired ∧
      ∀ row column, r'.Holds row column ↔ r.Holds row column ∨
        row = s.step.position ∧ column < Sheet.targetColumn := by
  let cell := CellText.Encoder.output ⟨run.producers, host, heap⟩ output
  let first := r.adding s.step.position Sheet.outputColumn cell cell
  have hfirst : r.enterBoth s.step.position Sheet.outputColumn cell = (first, .ok ()) := by
    obtain ⟨hheld, -⟩ | ⟨-, htaken⟩ := h.enterBoth_cases s.step.position
      Sheet.outputColumn cell
    · exact absurd hheld (hfree _ (by decide))
    · exact htaken
  have hpaired : first.Paired := h.adding fun _ => rfl
  have hfree' : ¬ first.Holds s.step.position Sheet.operationColumn := by
    rw [holds_adding]
    rintro (⟨-, hcolumn⟩ | hheld)
    · exact absurd hcolumn (by decide)
    · exact hfree _ (by decide) hheld
  let actuation := CellText.ofText s.nominal
  let adapted := CellText.ofText (s.adapted.getD s.nominal)
  obtain ⟨hheld, -⟩ | ⟨-, htaken⟩ := hpaired.enterOperation_cases s.step.position
    actuation adapted
  · exact absurd hheld hfree'
  have hlast : (first.adding s.step.position Sheet.operationColumn actuation adapted).Paired :=
    hpaired.adding fun hne => (hne rfl).elim
  refine ⟨_, ?_, hlast, fun row column => ?_⟩
  · rw [after_eq, houtput]
    simp only
    rw [hfirst]
    exact htaken
  · rw [holds_adding, holds_adding]
    have hcolumn : column < Sheet.targetColumn ↔
        column = Sheet.operationColumn ∨ column = Sheet.outputColumn := by
      unfold Sheet.targetColumn Sheet.operationColumn Sheet.outputColumn
      omega
    rw [hcolumn]
    tauto

end Recording

namespace Runner

variable {p : Runner} {host : Host} {sequence : Sequence} {run : Run} {heap : Heap}
  {r : Recording}

/-- Between two steps of a run the rows of the steps that have been run are complete. -/
structure Recorded (sequence : Sequence) (run : Run) (r : Recording) : Prop where
  paired : r.Paired
  holds : ∀ row column, r.Holds row column ↔ run.Fills sequence row column

/-- Where a step stops the run, its target and its inputs are written. -/
structure RecordedStop (sequence : Sequence) (m : Moment) (r : Recording) : Prop where
  paired : r.Paired
  holds : ∀ row column, r.Holds row column ↔ m.run.Fills sequence row column ∨
    row = m.run.steps.length ∧ Sheet.targetColumn ≤ column ∧
      column < Sheet.firstInputColumn + m.run.inputCount m.step

section Step

variable {s : Step}

theorem Recorded.before
    (h : Recorded sequence run r) (hordered : sequence.Ordered)
    (hs : sequence.steps[run.steps.length]? = some s) (p : Runner) (host : Host)
    (heap : Heap) :
    ∃ r', Recording.before host heap run (p.preparedAt ⟨run, s, heap⟩) r = (r', .ok ()) ∧
      RecordedStop sequence ⟨run, s, heap⟩ r' := by
  have hrow : (p.preparedAt ⟨run, s, heap⟩).step.position = run.steps.length :=
    hordered.position _ s hs
  have hfree : ∀ later, Sheet.targetColumn ≤ later → ¬ r.Holds run.steps.length later := by
    intro later _ hheld
    exact absurd ((h.holds _ _).mp hheld).1 (lt_irrefl _)
  have hcount := Run.length_inputs_preparedAt p ⟨run, s, heap⟩
  obtain ⟨r', hput, hpaired, hholds⟩ := h.paired.putRow_of_free
    (Recording.targetCell ⟨run.producers, host, heap⟩ (p.preparedAt ⟨run, s, heap⟩) ::
      (p.preparedAt ⟨run, s, heap⟩).inputs.map
        (CellText.Encoder.value ⟨run.producers, host, heap⟩)) hfree
  refine ⟨r', ?_, hpaired, fun row column => ?_⟩
  · unfold Recording.before
    rw [hrow]
    exact hput
  · rw [hholds, h.holds, List.length_cons, List.length_map, hcount]
    have hwidth : Sheet.targetColumn + (run.inputCount s + 1) =
        Sheet.firstInputColumn + run.inputCount s := by
      unfold Sheet.targetColumn Sheet.firstInputColumn
      omega
    rw [hwidth]

theorem RecordedStop.after
    (h : RecordedStop sequence ⟨run, s, heap⟩ r) (hordered : sequence.Ordered)
    (hs : sequence.steps[run.steps.length]? = some s) (p : Runner) (host : Host)
    (later : Heap) (result : StepResult) :
    ∃ r', Recording.after host later
        (extended run later (p.preparedAt ⟨run, s, heap⟩) result).1
        (extended run later (p.preparedAt ⟨run, s, heap⟩) result).2 r = (r', .ok ()) ∧
      Recorded sequence (extended run later (p.preparedAt ⟨run, s, heap⟩) result).1 r' := by
  have hrow : (extended run later (p.preparedAt ⟨run, s, heap⟩) result).2.step.position =
      run.steps.length := hordered.position _ s hs
  have hfree : ∀ column, column < Sheet.targetColumn →
      ¬ r.Holds run.steps.length column := by
    intro column hcolumn hheld
    rcases (h.holds _ _).mp hheld with ⟨hlt, -⟩ | ⟨-, hle, -⟩
    · exact absurd hlt (lt_irrefl _)
    · omega
  obtain ⟨r', hafter, hpaired, hholds⟩ := h.paired.after_of_free host later
    (extended run later (p.preparedAt ⟨run, s, heap⟩) result).1
    (extended run later (p.preparedAt ⟨run, s, heap⟩) result).2 rfl (by rwa [hrow])
  refine ⟨r', hafter, hpaired, fun row column => ?_⟩
  rw [hholds, h.holds, hrow, Run.fills_extended hordered hs]
  have hwidth : Sheet.targetColumn ≤ Sheet.firstInputColumn := by decide
  constructor
  · rintro ((hold | ⟨rfl, -, hlt⟩) | ⟨rfl, hlt⟩)
    · exact .inl hold
    · exact .inr ⟨rfl, hlt⟩
    · exact .inr ⟨rfl, by omega⟩
  · rintro (hold | ⟨rfl, hlt⟩)
    · exact .inl (.inl hold)
    · rcases lt_or_ge column Sheet.targetColumn with hfirst | hinput
      · exact .inr ⟨rfl, hfirst⟩
      · exact .inl (.inr ⟨rfl, hinput, hlt⟩)

end Step

/-- The recorded run of the steps that are left completes all rows, or it comes to a
step that stops it. -/
theorem executeFrom_recorded
    (hordered : sequence.Ordered) (steps : List Step)
    (hsteps : sequence.steps.drop run.steps.length = steps)
    (hrecorded : Recorded sequence run r) (p : Runner) (host : Host) (heap : Heap) :
    let done := p.executeFrom (Observer.recorder host) run steps heap r
    (∃ final, done.result = .ok final ∧ sequence.steps.length ≤ final.steps.length ∧
        Recorded sequence final done.visitor) ∨
      ∃ error m, done.result = .error error ∧
        p.Reaches (Observer.recorder host) run steps heap r m ∧
        sequence.steps[m.run.steps.length]? = some m.step ∧
        (p.performAt m).1 = .error error ∧ RecordedStop sequence m done.visitor := by
  induction steps generalizing run heap r with
  | nil =>
      exact .inl ⟨run, rfl, List.drop_eq_nil_iff.mp hsteps, hrecorded⟩
  | cons s rest ih =>
      have hs : sequence.steps[run.steps.length]? = some s := by
        rw [← List.head?_drop, hsteps, List.head?_cons]
      obtain ⟨seen, hbefore, hbegun⟩ := hrecorded.before hordered hs p host heap
      rcases hperform : p.performAt ⟨run, s, heap⟩ with ⟨error | result, after⟩
      · right
        have hstop : p.executeFrom (Observer.recorder host) run (s :: rest) heap r =
            ⟨after, seen, .error error⟩ := executeFrom_of_stopped hbefore hperform
        rw [hstop]
        exact ⟨error, ⟨run, s, heap⟩, rfl, .here hbefore, hs, by rw [hperform], hbegun⟩
      · let next := extended run after (p.preparedAt ⟨run, s, heap⟩) result
        obtain ⟨shown, hafter, hfilled⟩ := hbegun.after hordered hs p host after result
        have hpassed : p.executeFrom (Observer.recorder host) run (s :: rest) heap r =
            p.executeFrom (Observer.recorder host) next.1 rest after shown :=
          executeFrom_of_passed hbefore hperform hafter
        have hrest : sequence.steps.drop next.1.steps.length = rest := by
          have hlength : next.1.steps.length = run.steps.length + 1 := by
            simp [next, extended]
          rw [hlength, ← List.drop_drop, hsteps, List.drop_one, List.tail_cons]
        rw [hpassed]
        rcases ih hrest hfilled after with hdone | ⟨error, m, hresult, hreach, hstop⟩
        · exact .inl hdone
        · exact .inr ⟨error, m, hresult, .later hbefore hperform hafter hreach, hstop⟩

/-- The sheets of a recorded run hold a place exactly where a row was begun: complete
rows, and target and inputs of a step that stopped the run.  The recorder refuses
nothing.  The sheets go together, also where the looks at a run come in any order. -/
theorem recorded_shape
    (p : Runner) (host : Host) {name : String}
    {kinds : List (StepKind × List StepInput)} {sequence : Sequence}
    (hbuild : Sequence.build name kinds = .ok sequence) (heap : Heap) :
    let recorder := Observer.recorder host
    let fresh := Recording.empty sequence.name
    let done := p.execute recorder sequence heap fresh
    (∀ final, done.result = .ok final → ∀ row column, done.visitor.Holds row column ↔
      ∃ s, sequence.steps[row]? = some s ∧
        column < Sheet.firstInputColumn + final.inputCount s) ∧
    (∀ error, done.result = .error error → error.kind = .integrity ∧
      ∃ m, p.Visits recorder sequence heap fresh m ∧
        sequence.steps[m.run.steps.length]? = some m.step ∧
        (p.performAt m).1 = .error error ∧
        ∀ row column, done.visitor.Holds row column ↔
          (row < m.run.steps.length ∧ ∃ s, sequence.steps[row]? = some s ∧
            column < Sheet.firstInputColumn + m.run.inputCount s) ∨
          row = m.run.steps.length ∧ Sheet.targetColumn ≤ column ∧
            column < Sheet.firstInputColumn + m.run.inputCount m.step) ∧
    done.visitor.Paired ∧
    ∀ seen : List Recording.Look, (fresh.looks host seen).Paired := by
  intro recorder fresh done
  have hordered := Sequence.ordered_of_build hbuild
  let start : Run :=
    ⟨sequence.name, p.binding.adapter.adapterId, p.binding.adapter.candidateId, [], []⟩
  have hstart : Recorded sequence start fresh := by
    refine ⟨Recording.paired_empty _, fun row column => ?_⟩
    constructor
    · intro hheld
      exact absurd hheld (Recording.not_holds_empty _)
    · rintro ⟨hlt, -⟩
      exact absurd hlt (Nat.not_lt_zero _)
  have hlooks : ∀ seen : List Recording.Look, (fresh.looks host seen).Paired :=
    fun seen => (Recording.paired_empty _).looks host seen
  rcases executeFrom_recorded hordered sequence.steps rfl hstart p host heap with
    ⟨final, hresult, hlength, hrecorded⟩ | ⟨error, m, hresult, hreach, hs, hperform, hstop⟩
  · change done.result = .ok final at hresult
    refine ⟨fun final' hfinal row column => ?_, fun error herror => ?_, hrecorded.paired,
      hlooks⟩
    · rw [hresult] at hfinal
      cases hfinal
      refine (hrecorded.holds row column).trans ⟨And.right, fun hfills => ⟨?_, hfills⟩⟩
      obtain ⟨s, hs, -⟩ := hfills
      exact (List.getElem?_eq_some_iff.mp hs).1.trans_le hlength
    · rw [hresult] at herror
      cases herror
  · change done.result = .error error at hresult
    refine ⟨fun final hfinal => ?_, fun error' herror => ?_, hstop.paired, hlooks⟩
    · rw [hresult] at hfinal
      cases hfinal
    · rw [hresult] at herror
      cases herror
      exact ⟨performAt_error (Prod.ext hperform rfl), m, hreach, hs, hperform, hstop.holds⟩

end Runner

namespace Samples

/-- The second step asks for a method that there is not, and the third refers to it. -/
def faultingKinds : List (StepKind × List StepInput) :=
  [(.construct "Echo", []),
   (.call "Echo" "lost" (some 0), [.ref 0]),
   (.call "Echo" "echo" none, [.ref 1])]

def faultingRecord : Runner.Outcome Recording :=
  (echoRunner .args).execute (Observer.recorder (echoRunner .args).host)
    (Sequence.ofKinds "faulting" faultingKinds) {} (Recording.empty "faulting")

end Samples

open Samples in
/-- The input of the second step is written, that of the third is not known. -/
theorem Runner.recorded_shape_faulting :
    Sequence.build "faulting" faultingKinds =
        .ok (Sequence.ofKinds "faulting" faultingKinds) ∧
      faultingRecord.visitor.Holds 1 Sheet.firstInputColumn ∧
      ¬ faultingRecord.visitor.Holds 2 Sheet.firstInputColumn := by
  have hbuild : Sequence.build "faulting" faultingKinds =
      .ok (Sequence.ofKinds "faulting" faultingKinds) := rfl
  have hresult : ∃ final, faultingRecord.result = .ok final ∧
      (∀ s, (Sequence.ofKinds "faulting" faultingKinds).steps[1]? = some s →
        final.inputCount s = 1) ∧
      ∀ s, (Sequence.ofKinds "faulting" faultingKinds).steps[2]? = some s →
        final.inputCount s = 0 := by
    refine ⟨_, rfl, ?_, ?_⟩
    · rintro s ⟨⟩
      rfl
    · rintro s ⟨⟩
      rfl
  obtain ⟨final, hfinal, hsecond, hthird⟩ := hresult
  have hholds := (recorded_shape (echoRunner .args) (echoRunner .args).host hbuild {}).1
    final hfinal
  refine ⟨hbuild, (hholds _ _).mpr ⟨_, rfl, ?_⟩, fun hheld => ?_⟩
  · rw [hsecond _ rfl]
    decide
  · obtain ⟨s, hs, hcolumn⟩ := (hholds _ _).mp hheld
    rw [hthird s hs] at hcolumn
    exact absurd hcolumn (lt_irrefl _)

end Refit
