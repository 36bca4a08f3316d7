import Refit.Proofs.Execution.Counterparts
import Refit.Proofs.Execution.Sights
import Refit.Sheet.Recorder

/-!
# Recordings of counterparts

On a sheet a stand-in is written by the step that made it, and any other object as its host
shows it, so counterparts are written alike.  A run and its counterpart are recorded alike
to the end as long as no output of a step spells an object.
-/

namespace Refit

variable {n m : ℕ}

section Cells

open Runner CellText

variable {host : Host} {h h' : Heap} {producers : List (ℕ × ℕ)}

/-- How cells are written while the run is at it. -/
structure EncoderTwins (n m : ℕ) (e e' : Encoder) : Prop where
  host : e'.host = e.host
  respects : e.host.Respects n m
  mirrors : Heap.Mirrors n m e.heap e'.heap
  begun : ∀ entry ∈ e.producers, n ≤ entry.1
  producers : e'.producers = renumberKeys n m e.producers

namespace EncoderTwins

variable {e e' : Encoder}

theorem object (htwins : EncoderTwins n m e e') {i : Instance} (hi : e.heap.Since n i) :
    e'.object (i.renumber n m) = e.object i := by
  unfold Encoder.object
  rw [htwins.producers, lookup_renumberKeys htwins.begun hi.1, htwins.host,
    htwins.respects.snapshot _ _ htwins.mirrors i hi]
  rfl

mutual

theorem json (htwins : EncoderTwins n m e e') (top : Bool) :
    ∀ v : Value, v.Only (e.heap.Since n) → e'.json top (v.renumber n m) = e.json top v
  | .object _, hi => htwins.object (Value.only_object.mp hi)
  | .list values, hvalues =>
      congrArg Json.list (EncoderTwins.jsons htwins values (Value.only_list.mp hvalues))
  | .array values, hvalues =>
      congrArg Json.list (EncoderTwins.jsons htwins values (Value.only_array.mp hvalues))
  | .null, _ | .void, _ | .bool _, _ | .char _, _ | .byte _, _ | .short _, _ | .int _, _
  | .long _, _ | .float _, _ | .double _, _ | .text _, _ => rfl

theorem jsons (htwins : EncoderTwins n m e e') :
    ∀ values : List Value, (∀ v ∈ values, v.Only (e.heap.Since n)) →
      e'.jsons (Value.renumberAll n m values) = e.jsons values
  | [], _ => rfl
  | v :: rest, hvalues =>
      congrArg₂ List.cons (EncoderTwins.json htwins false v (hvalues v List.mem_cons_self))
        (EncoderTwins.jsons htwins rest fun w hw => hvalues w (List.mem_cons_of_mem _ hw))

end

theorem value (htwins : EncoderTwins n m e e') {v : Value} (hv : v.Only (e.heap.Since n)) :
    e'.value (v.renumber n m) = e.value v :=
  congrArg Json.compact (htwins.json true v hv)

theorem output
    (htwins : EncoderTwins n m e e') {r : Except Fault Value}
    (hr : ResultOnly (e.heap.Since n) r) : e'.output (renumberResult n m r) = e.output r := by
  cases r with
  | error f => rfl
  | ok v => exact htwins.value (hr v rfl)

end EncoderTwins

end Cells

section Steps

variable {host : Host} {h h' : Heap} {run : Run} {s : RunStep}

theorem encoderTwins
    (hrespects : host.Respects n m) (hmirrors : Heap.Mirrors n m h h')
    (hbegun : ∀ entry ∈ run.producers, n ≤ entry.1) :
    EncoderTwins n m ⟨run.producers, host, h⟩ ⟨(run.renumber n m).producers, host, h'⟩ :=
  ⟨rfl, hrespects, hmirrors, hbegun, rfl⟩

theorem Recording.before_renumber
    (hrespects : host.Respects n m) (hmirrors : Heap.Mirrors n m h h')
    (hbegun : ∀ entry ∈ run.producers, n ≤ entry.1)
    (htarget : ∀ v ∈ s.target, v.Only (h.Since n))
    (hinputs : ∀ v ∈ s.inputs, v.Only (h.Since n)) (r : Recording) :
    Recording.before host h' (run.renumber n m) (s.renumber n m) r =
      Recording.before host h run s r := by
  have htwins := encoderTwins hrespects hmirrors hbegun
  have hcell : targetCell ⟨(run.renumber n m).producers, host, h'⟩ (s.renumber n m) =
      targetCell ⟨run.producers, host, h⟩ s := by
    unfold targetCell RunStep.renumber
    simp only
    rcases s.step.kind with typeName | ⟨typeName, method, _ | position⟩ | text
    · rfl
    · rfl
    · cases htarget' : s.target with
      | none => rfl
      | some v => exact htwins.value (htarget v htarget')
    · rfl
  have hcells : (s.renumber n m).inputs.map
      (CellText.Encoder.value ⟨(run.renumber n m).producers, host, h'⟩) =
        s.inputs.map (CellText.Encoder.value ⟨run.producers, host, h⟩) := by
    unfold RunStep.renumber
    simp only
    rw [List.map_map]
    exact List.map_congr_left fun v hv => htwins.value (hinputs v hv)
  unfold before
  simp only
  rw [hcell, hcells]
  rfl

theorem Recording.after_renumber
    (hrespects : host.Respects n m) (hmirrors : Heap.Mirrors n m h h')
    (hbegun : ∀ entry ∈ run.producers, n ≤ entry.1)
    (houtput : ∀ output ∈ s.output, ResultOnly (h.Since n) output) (r : Recording) :
    Recording.after host h' (run.renumber n m) (s.renumber n m) r =
      Recording.after host h run s r := by
  have htwins := encoderTwins hrespects hmirrors hbegun
  unfold after RunStep.renumber
  simp only
  cases houtput' : s.output with
  | none => rfl
  | some output =>
      have hcell := htwins.output (houtput output houtput')
      simp only [Option.map_some, hcell]

end Steps

namespace Runner

variable {p : Runner} {h h' : Heap} {run : Run}

/-- No output of a step that is come to spells an object. -/
def UnspelledFrom (p : Runner) (n m : ℕ) (run : Run) (steps : List Step) (heap : Heap)
    (r : Recording) : Prop :=
  ∀ moment, p.Reaches (Observer.recorder p.host) run steps heap r moment →
    ∀ result, (p.performAt moment).1 = .ok result → Unspelled n m result.output

/-- What two recorded runs leave: the same recording, the same ending and mirrored heaps. -/
structure Outcome.Twins (n m : ℕ) (o o' : Outcome Recording) : Prop where
  mirrors : Heap.Mirrors n m o.heap o'.heap
  visitor : o'.visitor = o.visitor
  result : o'.result = o.result.map (Run.renumber n m)

theorem before_preparedAt
    {s : Step} (hrespects : p.host.Respects n m) (hmirrors : Heap.Mirrors n m h h')
    (hbegun : Begun n run h) (hliterals : s.LiteralsOnly fun _ => False) (r : Recording) :
    (Observer.recorder p.host).before h' (run.renumber n m)
        (p.preparedAt ⟨run.renumber n m, s, h'⟩) r =
      (Observer.recorder p.host).before h run (p.preparedAt ⟨run, s, h⟩) r := by
  rw [preparedAt_renumber p run hliterals h h']
  refine Recording.before_renumber hrespects hmirrors hbegun.producers ?_ ?_ r
  · intro v hv
    simp only [preparedAt, prepared, Moment.receiver] at hv
    split at hv
    · next hreceiver => exact receiverOf_only hbegun.only hreceiver v hv
    · cases hv
  · intro v hv
    simp only [preparedAt, prepared, Moment.inputs] at hv
    split at hv
    · next hinputs =>
      exact inputsOf_only hbegun.only
        (fun v hv => (hliterals v hv).mono fun _ hfalse => hfalse.elim) hinputs v hv
    · cases hv

/-- What the observer sees of a step that is done, in both runs. -/
theorem sightAfter_renumber
    {s : Step} {before before' : Heap} (hmirrors : Heap.Mirrors n m h h')
    (hbegun : ∀ entry ∈ run.producers, n ≤ entry.1) (hliterals : s.LiteralsOnly fun _ => False)
    {result : StepResult} (honly : ResultOnly (h.Since n) result.output)
    (hstandIn : ∀ i ∈ result.standIn, h.Since n i) :
    let now := sightAfter p run s before h result
    let now' := sightAfter p (run.renumber n m) s before' h' (result.renumber n m)
    now'.run = now.run.renumber n m ∧ now'.step = now.step.renumber n m := by
  have hextended := extended_renumber hmirrors hbegun honly hstandIn
    (p.preparedAt ⟨run, s, before⟩)
  rw [← preparedAt_renumber p run hliterals before before', Prod.ext_iff] at hextended
  exact hextended

theorem executeFrom_twins
    (hrespects : p.host.Respects n m) (hmirrors : Heap.Mirrors n m h h')
    (hnames : ∀ entry ∈ p.names, entry.2.Only fun _ => False) (hbegun : Begun n run h)
    {steps : List Step} (hliterals : ∀ s ∈ steps, s.LiteralsOnly fun _ => False)
    {r : Recording} (hquiet : p.UnspelledFrom n m run steps h r) :
    Outcome.Twins n m (p.executeFrom (Observer.recorder p.host) run steps h r)
      (p.executeFrom (Observer.recorder p.host) (run.renumber n m) steps h' r) := by
  induction steps generalizing run h h' r with
  | nil => exact ⟨hmirrors, rfl, rfl⟩
  | cons s rest ih =>
      have hs := hliterals s List.mem_cons_self
      have hbefore := before_preparedAt hrespects hmirrors hbegun hs r
      rcases hseen : (Observer.recorder p.host).before h run (p.preparedAt ⟨run, s, h⟩) r with
        ⟨seen, error | ⟨⟩⟩
      · rw [executeFrom_of_refused hseen, executeFrom_of_refused (hbefore.trans hseen)]
        exact ⟨hmirrors, rfl, rfl⟩
      have htwins := performAt_twins hrespects hmirrors hnames hbegun hs
        (hquiet _ (.here hseen))
      rcases hperform : p.performAt ⟨run, s, h⟩ with ⟨first, after⟩
      rcases hperform' : p.performAt ⟨run.renumber n m, s, h'⟩ with ⟨second, after'⟩
      rw [hperform, hperform'] at htwins
      obtain ⟨hlater, hmirrors', ⟨e, hfirst, hsecond⟩ |
        ⟨result, result', hfirst, hsecond, honly, hstandIn, hsame⟩⟩ := htwins
      · cases hfirst
        cases hsecond
        rw [executeFrom_of_stopped hseen hperform,
          executeFrom_of_stopped (hbefore.trans hseen) hperform']
        exact ⟨hmirrors', rfl, rfl⟩
      cases hfirst
      cases hsecond
      subst hsame
      have hmirrors' : Heap.Mirrors n m after after' := hmirrors'
      have honly : ResultOnly (after.Since n) result.output := honly
      let now := sightAfter p run s h after result
      let now' := sightAfter p (run.renumber n m) s h' after' (result.renumber n m)
      obtain ⟨hrun, hdone⟩ : now'.run = now.run.renumber n m ∧
          now'.step = now.step.renumber n m :=
        sightAfter_renumber hmirrors' hbegun.producers hs honly hstandIn
      have hbegun' : Begun n now.run after := begun_extended hbegun hlater honly hstandIn _
      have hafter : (Observer.recorder p.host).after after' now'.run now'.step seen =
          (Observer.recorder p.host).after after now.run now.step seen := by
        have houtput : ∀ output ∈ now.step.output, ResultOnly (after.Since n) output := by
          intro output houtput
          cases houtput
          exact honly
        rw [hrun, hdone]
        exact Recording.after_renumber hrespects hmirrors' hbegun'.producers houtput seen
      rcases hshown : (Observer.recorder p.host).after after now.run now.step seen with
        ⟨shown, error | ⟨⟩⟩
      · rw [executeFrom_of_refused_after hseen hperform hshown,
          executeFrom_of_refused_after (hbefore.trans hseen) hperform' (hafter.trans hshown)]
        exact ⟨hmirrors', rfl, rfl⟩
      · rw [executeFrom_of_passed hseen hperform hshown,
          executeFrom_of_passed (hbefore.trans hseen) hperform' (hafter.trans hshown)]
        have hrest := ih hmirrors' hbegun'
          (fun t ht => hliterals t (List.mem_cons_of_mem _ ht))
          fun moment hreach => hquiet moment (.later hseen hperform hshown hreach)
        rw [← hrun] at hrest
        exact hrest

/-- Runs of a sequence on fresh heaps. -/
theorem execute_twins
    {sequence : Sequence} (hrespects : p.host.Respects h.nextId h'.nextId)
    (hnames : ∀ entry ∈ p.names, entry.2.Only fun _ => False)
    (hobjects : sequence.ObjectFree) (hfresh : h.Fresh) (hfresh' : h'.Fresh)
    (hquiet : ∀ moment,
      p.Visits (Observer.recorder p.host) sequence h (Recording.empty sequence.name) moment →
        ∀ result, (p.performAt moment).1 = .ok result →
          Unspelled h.nextId h'.nextId result.output) :
    Outcome.Twins h.nextId h'.nextId
      (p.execute (Observer.recorder p.host) sequence h (Recording.empty sequence.name))
      (p.execute (Observer.recorder p.host) sequence h' (Recording.empty sequence.name)) := by
  have hbegun : Begun h.nextId ⟨sequence.name, p.binding.adapter.adapterId,
      p.binding.adapter.candidateId, [], []⟩ h := by
    refine ⟨fun row v hv => ?_, by simp⟩
    cases hv
  exact executeFrom_twins hrespects (Heap.mirrors_of_fresh hfresh hfresh') hnames hbegun hobjects
    hquiet

end Runner

end Refit
