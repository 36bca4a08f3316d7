import Refit.Proofs.Sheet.Shape
import Refit.Proofs.Text.Pieces

/-!
# How faults spread

Steps refer to steps before them, which have been recorded with an output by then.  So a
step is either skipped for the first faulted step among its references, and then nothing
happens but that its own fault is recorded, or it runs on the outputs that it refers to.
-/

namespace Refit

namespace Sequence

theorem getElem?_ofKinds (name : String) (kinds : List (StepKind × List StepInput)) (row : ℕ) :
    (ofKinds name kinds).steps[row]? =
      kinds[row]?.map fun entry => ⟨row, entry.1, entry.2⟩ := by
  unfold ofKinds
  simp only [List.getElem?_map, List.getElem?_zipIdx, Option.map_map, Nat.zero_add]
  rfl

theorem forwardReference?_eq_none_iff {steps : List Step} :
    forwardReference? steps = none ↔ ∀ s ∈ steps, ∀ row ∈ s.references, row < s.position := by
  constructor
  · exact references_lt_of_forwardReference?
  intro hbefore
  induction steps with
  | nil => rfl
  | cons first rest ih =>
      rw [List.forall_mem_cons] at hbefore
      have hfind : first.references.find? (first.position ≤ ·) = none := by
        rw [List.find?_eq_none]
        intro row hrow
        simpa using hbefore.1 row hrow
      unfold forwardReference?
      rw [hfind]
      exact ih hbefore.2

/-- A sequence is built exactly if all references go to steps before. -/
theorem exists_build_iff {name : String} {kinds : List (StepKind × List StepInput)} :
    (∃ sequence, build name kinds = .ok sequence) ↔
      ∀ position kind inputs, kinds[position]? = some (kind, inputs) →
        ∀ row ∈ (Step.mk position kind inputs).references, row < position := by
  have hsteps : (∃ sequence, build name kinds = .ok sequence) ↔
      forwardReference? (ofKinds name kinds).steps = none := by
    unfold build
    simp only
    split
    · next hforward =>
      rw [hforward]
      constructor <;> nofun
    · next hnone =>
      rw [hnone]
      exact ⟨fun _ => rfl, fun _ => ⟨_, rfl⟩⟩
  rw [hsteps, forwardReference?_eq_none_iff]
  constructor
  · intro hbefore position kind inputs hkind
    apply hbefore
    apply List.mem_of_getElem? (i := position)
    rw [getElem?_ofKinds, hkind]
    rfl
  · intro hbefore s hs
    rcases List.getElem?_of_mem hs with ⟨position, hposition⟩
    rw [getElem?_ofKinds] at hposition
    rcases Option.map_eq_some_iff.mp hposition with ⟨⟨kind, inputs⟩, hkind, rfl⟩
    exact hbefore position kind inputs hkind

end Sequence

namespace Run

/-- Of all faulted steps that the step refers to, its receiver before its inputs, this is
the first. -/
structure Blocks (run : Run) (s : Step) (row : ℕ) (f : Fault) : Prop where
  faulted : run.outputAt? row = some (.error f)
  first : ∃ before after, s.references = before ++ row :: after ∧
    ∀ earlier ∈ before, ∀ g, run.outputAt? earlier ≠ some (.error g)

/-- The value is given, or a step put it out. -/
def Gives (run : Run) : StepInput → Value → Prop
  | .literal v, w => v = w
  | .ref row, w => run.outputAt? row = some (.ok w)

/-- Receiver and inputs are what the step refers to. -/
structure Supplies (run : Run) (s : Step) (receiver : Option Value)
    (inputs : List Value) : Prop where
  receiver : Option.Rel (fun row v => run.outputAt? row = some (.ok v)) s.receiver? receiver
  inputs : List.Forall₂ run.Gives s.inputs inputs

/-- The steps that the step refers to have been run. -/
def Knows (run : Run) (s : Step) : Prop :=
  ∀ row ∈ s.references, ∃ output, run.outputAt? row = some output

variable {run : Run} {s : Step}

theorem exists_ok_of_not_faulted {row : ℕ}
    (hknown : ∃ output, run.outputAt? row = some output)
    (hfree : ∀ f, run.outputAt? row ≠ some (.error f)) :
    ∃ v, run.outputAt? row = some (.ok v) := by
  rcases hknown with ⟨f | v, houtput⟩
  · exact absurd houtput (hfree f)
  · exact ⟨v, houtput⟩

theorem not_faulted_of_not_blocks (hfree : ∀ row f, ¬ run.Blocks s row f) :
    ∀ row ∈ s.references, ∀ f, run.outputAt? row ≠ some (.error f) := by
  classical
  let faulted (row : ℕ) : Prop := ∃ f, run.outputAt? row = some (.error f)
  cases hfind : s.references.find? (fun row => faulted row) with
  | none =>
      intro row hrow f houtput
      have hnot := List.find?_eq_none.mp hfind row hrow
      exact hnot (decide_eq_true ⟨f, houtput⟩)
  | some row =>
      rcases List.find?_eq_some_iff_append.mp hfind with ⟨hrow, before, after, hsplit, hbefore⟩
      rcases of_decide_eq_true hrow with ⟨f, houtput⟩
      exfalso
      apply hfree row f
      refine ⟨houtput, before, after, hsplit, ?_⟩
      intro earlier hearlier g hg
      have hnot := hbefore earlier hearlier
      rw [decide_eq_true (show faulted earlier from ⟨g, hg⟩)] at hnot
      cases hnot

theorem exists_outputAt? (hall : ∀ done ∈ run.steps, done.output.isSome = true) {row : ℕ}
    (hrow : row < run.steps.length) : ∃ output, run.outputAt? row = some output := by
  have hsome := hall _ (List.getElem_mem hrow)
  rcases Option.isSome_iff_exists.mp hsome with ⟨output, houtput⟩
  refine ⟨output, ?_⟩
  unfold outputAt?
  rw [List.getElem?_eq_getElem hrow]
  exact houtput

end Run

namespace Runner

/-- The fault of a step that is skipped. -/
def skipped (row : ℕ) (f : Fault) : Fault :=
  .input ("step " ++ Nat.repr row ++ " faulted with " ++ f.kind)

/-- The fault of a reference to a step that has not been run. -/
def missing (row : ℕ) : Fault := .input ("step " ++ Nat.repr row ++ " has no output")

theorem skipped_ne_missing (row other : ℕ) (f : Fault) : skipped row f ≠ missing other := by
  intro heq
  have htexts : "step ".toList ++ ((Nat.repr row).toList ++ ' ' :: "faulted with ".toList ++
        f.kind.toList) =
      "step ".toList ++ ((Nat.repr other).toList ++ ' ' :: "has no output".toList) := by
    have hmessage := Option.some.inj (congrArg Fault.message heq)
    simpa using congrArg String.toList hmessage
  have hdigits : ∀ n : ℕ, ' ' ∉ (Nat.repr n).toList := by
    intro n hmem
    exact absurd (CellText.digit_of_mem_repr hmem) (by decide)
  have hrest := List.append_cancel_left htexts
  rw [List.append_assoc, List.cons_append] at hrest
  have hends := (append_cons_inj_of_notMem (hdigits row) (hdigits other) hrest).2
  exact absurd (List.cons.inj hends).1 (by decide)

section References

variable {run : Run} {s : Step} {inputs : List StepInput}

theorem earlierOutput_of_ok {row : ℕ} {v : Value} (hv : run.outputAt? row = some (.ok v)) :
    earlierOutput run row = .ok v := by
  unfold earlierOutput
  rw [hv]

theorem earlierOutput_of_fault {row : ℕ} {f : Fault}
    (hf : run.outputAt? row = some (.error f)) :
    earlierOutput run row = .error (skipped row f) := by
  unfold earlierOutput
  rw [hf]
  rfl

theorem earlierOutput_ne_missing {row : ℕ} (hknown : ∃ output, run.outputAt? row = some output)
    (other : ℕ) : earlierOutput run row ≠ .error (missing other) := by
  intro hmissing
  rcases hknown with ⟨f | v, houtput⟩
  · rw [earlierOutput_of_fault houtput] at hmissing
    exact skipped_ne_missing row other f (Except.error.inj hmissing)
  · rw [earlierOutput_of_ok houtput] at hmissing
    cases hmissing

theorem exists_ref_of_inputsOf_error {fault : Fault}
    (herror : inputsOf run inputs = .error fault) :
    ∃ row, .ref row ∈ inputs ∧ earlierOutput run row = .error fault := by
  induction inputs with
  | nil => cases herror
  | cons input inputs ih =>
      have hlater : ∀ v, (inputsOf run inputs).map (v :: ·) = .error fault →
          ∃ row, .ref row ∈ input :: inputs ∧ earlierOutput run row = .error fault := by
        intro v hrest
        cases hvalues : inputsOf run inputs with
        | error other =>
            rw [hvalues] at hrest
            cases hrest
            rcases ih hvalues with ⟨row, hrow, houtput⟩
            exact ⟨row, List.mem_cons_of_mem _ hrow, houtput⟩
        | ok values =>
            rw [hvalues] at hrest
            cases hrest
      cases input with
      | literal v => exact hlater v herror
      | ref row =>
          unfold inputsOf at herror
          split at herror
          · next hother =>
            cases herror
            exact ⟨row, List.mem_cons_self, hother⟩
          · next v _ => exact hlater v herror

/-- Inputs in front of a faulted one are passed over. -/
theorem inputsOf_of_fault {front back : List StepInput} {row : ℕ} {f : Fault}
    (hfront : ∀ earlier, .ref earlier ∈ front → ∃ v, run.outputAt? earlier = some (.ok v))
    (hf : run.outputAt? row = some (.error f)) :
    inputsOf run (front ++ .ref row :: back) = .error (skipped row f) := by
  induction front with
  | nil =>
      rw [List.nil_append, inputsOf, earlierOutput_of_fault hf]
  | cons input front ih =>
      have hrest := ih fun earlier hearlier =>
        hfront earlier (List.mem_cons_of_mem _ hearlier)
      cases input with
      | literal v =>
          rw [List.cons_append, inputsOf, hrest]
          rfl
      | ref earlier =>
          rcases hfront earlier List.mem_cons_self with ⟨v, hv⟩
          rw [List.cons_append, inputsOf, earlierOutput_of_ok hv]
          simp only
          rw [hrest]
          rfl

theorem exists_inputsOf
    (hinputs : ∀ row, .ref row ∈ inputs → ∃ v, run.outputAt? row = some (.ok v)) :
    ∃ values, inputsOf run inputs = .ok values ∧ List.Forall₂ run.Gives inputs values := by
  induction inputs with
  | nil => exact ⟨[], rfl, .nil⟩
  | cons input inputs ih =>
      rcases ih fun row hrow => hinputs row (List.mem_cons_of_mem _ hrow) with
        ⟨values, hvalues, hgives⟩
      cases input with
      | literal v =>
          refine ⟨v :: values, ?_, .cons rfl hgives⟩
          rw [inputsOf, hvalues]
          rfl
      | ref row =>
          rcases hinputs row List.mem_cons_self with ⟨v, hv⟩
          refine ⟨v :: values, ?_, .cons hv hgives⟩
          rw [inputsOf, earlierOutput_of_ok hv]
          simp only
          rw [hvalues]
          rfl

theorem mem_references_of_ref {row : ℕ} (hrow : .ref row ∈ s.inputs) : row ∈ s.references := by
  unfold Step.references Step.inputRefs
  apply List.mem_append_right
  exact List.mem_filterMap.mpr ⟨_, hrow, rfl⟩

theorem mem_references_of_receiver? {row : ℕ} (hrow : s.receiver? = some row) :
    row ∈ s.references := by
  unfold Step.references
  rw [hrow]
  exact List.mem_cons_self

theorem receiverOf_ne_missing (hknows : run.Knows s) (row : ℕ) :
    receiverOf run s ≠ .error (missing row) := by
  intro hmissing
  unfold receiverOf at hmissing
  split at hmissing
  · next earlier hreceiver =>
    apply earlierOutput_ne_missing (hknows _ (mem_references_of_receiver? hreceiver)) row
    cases houtput : earlierOutput run earlier with
    | error fault =>
        rw [houtput] at hmissing
        cases hmissing
        rfl
    | ok v =>
        rw [houtput] at hmissing
        cases hmissing
  · cases hmissing

theorem inputsOf_ne_missing (hknows : run.Knows s) (row : ℕ) :
    inputsOf run s.inputs ≠ .error (missing row) := by
  intro hmissing
  rcases exists_ref_of_inputsOf_error hmissing with ⟨earlier, hearlier, houtput⟩
  exact earlierOutput_ne_missing (hknows _ (mem_references_of_ref hearlier)) row houtput

/-- The first faulted step is the receiver, or the receiver is there and it is the first
among the inputs. -/
theorem resolved_of_blocks (hknows : run.Knows s) {row : ℕ} {f : Fault}
    (hblocks : run.Blocks s row f) :
    receiverOf run s = .error (skipped row f) ∨
      ∃ receiver, receiverOf run s = .ok receiver ∧
        inputsOf run s.inputs = .error (skipped row f) := by
  rcases hblocks.first with ⟨before, after, hsplit, hbefore⟩
  have hearly : ∀ earlier ∈ before, ∃ v, run.outputAt? earlier = some (.ok v) := by
    intro earlier hearlier
    apply Run.exists_ok_of_not_faulted
    · apply hknows
      rw [hsplit]
      exact List.mem_append_left _ hearlier
    · exact hbefore earlier hearlier
  have hinputs : ∀ front, (∀ earlier ∈ front, ∃ v, run.outputAt? earlier = some (.ok v)) →
      s.inputRefs = front ++ row :: after →
        inputsOf run s.inputs = .error (skipped row f) := by
    intro front hfront hrefs
    unfold Step.inputRefs at hrefs
    rcases List.filterMap_eq_append_iff.mp hrefs with ⟨first, second, hparts, rfl, hsecond⟩
    rcases List.filterMap_eq_cons_iff.mp hsecond with
      ⟨literals, input, back, rfl, hnone, hrow, -⟩
    cases input with
    | literal v => cases hrow
    | ref row' =>
        cases hrow
        rw [hparts, ← List.append_assoc]
        apply inputsOf_of_fault _ hblocks.faulted
        intro earlier hearlier
        rcases List.mem_append.mp hearlier with hfirst | hliteral
        · exact hfront earlier (List.mem_filterMap.mpr ⟨_, hfirst, rfl⟩)
        · cases hnone _ hliteral
  unfold Step.references at hsplit
  unfold receiverOf
  cases hreceiver : s.receiver? with
  | none =>
      rw [hreceiver] at hsplit
      exact .inr ⟨none, rfl, hinputs before hearly hsplit⟩
  | some target =>
      rw [hreceiver] at hsplit
      rcases List.cons_eq_append_iff.mp hsplit with ⟨rfl, hhead⟩ | ⟨front, rfl, hrefs⟩
      · cases hhead
        left
        simp only
        rw [earlierOutput_of_fault hblocks.faulted]
        rfl
      · right
        rcases hearly target List.mem_cons_self with ⟨v, hv⟩
        refine ⟨some v, ?_, ?_⟩
        · simp only
          rw [earlierOutput_of_ok hv]
          rfl
        · apply hinputs front
          · intro earlier hearlier
            exact hearly earlier (List.mem_cons_of_mem _ hearlier)
          · exact hrefs

theorem resolved_of_not_blocks (hknows : run.Knows s) (hfree : ∀ row f, ¬ run.Blocks s row f) :
    ∃ receiver inputs, run.Supplies s receiver inputs ∧ receiverOf run s = .ok receiver ∧
      inputsOf run s.inputs = .ok inputs := by
  have hvalue : ∀ row ∈ s.references, ∃ v, run.outputAt? row = some (.ok v) := by
    intro row hrow
    exact Run.exists_ok_of_not_faulted (hknows row hrow)
      (Run.not_faulted_of_not_blocks hfree row hrow)
  rcases exists_inputsOf fun row hrow => hvalue row (mem_references_of_ref hrow) with
    ⟨inputs, hinputs, hgives⟩
  unfold receiverOf
  cases hreceiver : s.receiver? with
  | none => exact ⟨none, inputs, ⟨by rw [hreceiver]; exact .none, hgives⟩, rfl, hinputs⟩
  | some target =>
      rcases hvalue target (mem_references_of_receiver? hreceiver) with ⟨v, hv⟩
      refine ⟨some v, inputs, ⟨by rw [hreceiver]; exact .some hv, hgives⟩, ?_, hinputs⟩
      simp only
      rw [earlierOutput_of_ok hv]
      rfl

theorem receiverOf_congr {run' : Run}
    (hsame : ∀ row ∈ s.references, run'.outputAt? row = run.outputAt? row) :
    receiverOf run' s = receiverOf run s := by
  unfold receiverOf
  split
  · next row hreceiver =>
    unfold earlierOutput
    rw [hsame row (mem_references_of_receiver? hreceiver)]
  · rfl

end References

/-- Faults come to a step along its references and on no other way.  What the steps before
have put out is read off a run that has them. -/
structure Propagates (p : Runner) (seen : Run) (m : Moment) : Prop where
  knows : seen.Knows m.step
  /-- No code has been called, for it does not matter what the code of a host would do to
  the heap. -/
  skips : ∀ row f, seen.Blocks m.step row f → ∀ host : Host,
    { p with host }.performAt m = (.ok (.fault (skipped row f)), m.heap)
  runs : (∀ row f, ¬ seen.Blocks m.step row f) →
    ∃ receiver inputs, seen.Supplies m.step receiver inputs ∧
      p.performAt m = p.runStep m.run m.step receiver inputs m.heap
  finds : ∀ row, m.receiver ≠ .error (missing row) ∧ m.inputs ≠ .error (missing row)

variable {σ : Type} {p : Runner} {v : Observer σ} {run final seen : Run} {steps : List Step}
  {heap : Heap} {state : σ} {m : Moment}

theorem propagates_of_knows (p : Runner) (hknows : seen.Knows m.step)
    (hsame : ∀ row ∈ m.step.references, m.run.outputAt? row = seen.outputAt? row) :
    p.Propagates seen m := by
  have hreceiver : m.receiver = receiverOf seen m.step := receiverOf_congr hsame
  have hinputs : m.inputs = inputsOf seen m.step.inputs := by
    apply inputsOf_congr
    intro row hrow
    exact hsame row (mem_references_of_ref hrow)
  have hperform : ∀ host : Host, { p with host }.performAt m =
      { p with host }.perform m.run m.step (receiverOf seen m.step)
        (inputsOf seen m.step.inputs) m.heap := by
    intro host
    unfold performAt
    rw [hreceiver, hinputs]
  constructor
  · exact hknows
  · intro row f hblocks host
    rw [hperform host]
    rcases resolved_of_blocks hknows hblocks with hfault | ⟨receiver, hok, hfault⟩
    · rw [hfault]
      rfl
    · rw [hok, hfault]
      rfl
  · intro hfree
    rcases resolved_of_not_blocks hknows hfree with ⟨receiver, inputs, hsupplies, hok, hvalues⟩
    refine ⟨receiver, inputs, hsupplies, ?_⟩
    have hrun := hperform p.host
    rw [hok, hvalues] at hrun
    exact hrun
  · intro row
    rw [hreceiver, hinputs]
    exact ⟨receiverOf_ne_missing hknows row, inputsOf_ne_missing hknows row⟩

/-- Of these steps all but the rest have been run, one after the other, and each has an
output. -/
def Passes (run : Run) (steps : List Step) (run' : Run) (rest : List Step) : Prop :=
  ∃ passed, run'.steps = run.steps ++ passed ∧ steps = passed.map (·.step) ++ rest ∧
    ∀ done ∈ passed, done.output.isSome = true

theorem passes_refl (run : Run) (steps : List Step) : Passes run steps run steps :=
  ⟨[], by simp, rfl, by simp⟩

theorem passes_extended {run' : Run} {rest : List Step} {s : Step} {after : Heap}
    {result : StepResult}
    (hpasses :
      Passes (extended run after (p.preparedAt ⟨run, s, heap⟩) result).1 steps run' rest) :
    Passes run (s :: steps) run' rest := by
  rcases hpasses with ⟨passed, hsteps, hrest, houtputs⟩
  let done := (extended run after (p.preparedAt ⟨run, s, heap⟩) result).2
  refine ⟨done :: passed, ?_, ?_, ?_⟩
  · rw [hsteps]
    exact List.append_assoc _ _ _
  · rw [hrest]
    rfl
  · rw [List.forall_mem_cons]
    exact ⟨rfl, houtputs⟩

theorem Reaches.passes (hreach : p.Reaches v run steps heap state m) :
    ∃ later, Passes run steps m.run (m.step :: later) := by
  induction hreach with
  | @here run s rest => exact ⟨rest, passes_refl run (s :: rest)⟩
  | later _ _ _ _ ih =>
      rcases ih with ⟨later, hpasses⟩
      exact ⟨later, passes_extended hpasses⟩

theorem executeFrom_passes
    (hresult : (p.executeFrom v run steps heap state).result = .ok final) :
    Passes run steps final [] := by
  induction steps generalizing run heap state with
  | nil =>
      simp only [executeFrom, Except.ok.injEq] at hresult
      subst hresult
      exact passes_refl run []
  | cons s rest ih =>
      rcases executeFrom_cons hresult with ⟨seen, result, after, state', -, -, -, hgoes⟩
      rw [hgoes] at hresult
      exact passes_extended (ih hresult)

variable {sequence : Sequence}

/-- At a moment of a built sequence all references go to steps that have been run. -/
theorem knows_of_visits (hordered : sequence.Ordered)
    (hvisits : p.Visits v sequence heap state m) :
    (∀ row ∈ m.step.references, row < m.run.steps.length) ∧ m.run.Knows m.step := by
  rcases Reaches.passes hvisits with ⟨later, passed, hsteps, hsequence, houtputs⟩
  rw [List.nil_append] at hsteps
  have hplace : sequence.steps[m.run.steps.length]? = some m.step := by
    rw [hsequence, hsteps, List.getElem?_append_right (by simp)]
    simp
  have hbefore := hordered.references _ m.step hplace
  refine ⟨hbefore, ?_⟩
  intro row hrow
  apply Run.exists_outputAt? _ (hbefore row hrow)
  rw [hsteps]
  exact houtputs

/-- Faults go along references.  All references go to steps before exactly if a sequence is
built.  Then no step finds one that it refers to without an output, a step that refers to a
faulted one is skipped for the first of them, and all others run.  A run that ends well has
one output for each step. -/
theorem faults_follow_references
    (p : Runner) (v : Observer σ) (name : String) (kinds : List (StepKind × List StepInput))
    (heap : Heap) (state : σ) :
    ((∃ sequence, Sequence.build name kinds = .ok sequence) ↔
      ∀ position kind inputs, kinds[position]? = some (kind, inputs) →
        ∀ row ∈ (Step.mk position kind inputs).references, row < position) ∧
    ∀ sequence, Sequence.build name kinds = .ok sequence →
      (∀ m, p.Visits v sequence heap state m → p.Propagates m.run m) ∧
      ∀ final, (p.execute v sequence heap state).result = .ok final →
        final.steps.map (·.step) = sequence.steps ∧
        (∀ done ∈ final.steps, done.output.isSome = true ∧
          ∀ row f, final.Blocks done.step row f →
            done.output = some (.error (skipped row f))) ∧
        ∀ place done, final.steps[place]? = some done →
          ∃ m result after, p.Visits v sequence heap state m ∧
            m.run.steps = final.steps.take place ∧
            p.performAt m = (.ok result, after) ∧
            done = { p.preparedAt m with
              output := some result.output, adapted := result.adapted
              standIn := result.standIn } ∧
            p.Propagates final m := by
  refine ⟨Sequence.exists_build_iff, ?_⟩
  intro sequence hbuild
  have hordered := Sequence.ordered_of_build hbuild
  constructor
  · intro m hvisits
    exact propagates_of_knows p (knows_of_visits hordered hvisits).2 fun _ _ => rfl
  intro final hresult
  rcases executeFrom_passes hresult with ⟨passed, hsteps, hsequence, houtputs⟩
  rw [List.nil_append] at hsteps
  rw [List.append_nil] at hsequence
  have hplaces : ∀ place done, final.steps[place]? = some done →
      ∃ m result after, p.Visits v sequence heap state m ∧
        m.run.steps = final.steps.take place ∧
        p.performAt m = (.ok result, after) ∧
        done = { p.preparedAt m with
          output := some result.output, adapted := result.adapted
          standIn := result.standIn } ∧
        p.Propagates final m := by
    intro place done hdone
    rcases exists_moment_of_recorded hresult (Nat.zero_le place) hdone with
      ⟨m, result, after, hvisits, hbegun, hperform, hrecord⟩
    rcases knows_of_visits hordered hvisits with ⟨hbefore, hknows⟩
    have hbegins : m.run.steps <+: final.steps := by
      rw [hbegun]
      exact List.take_prefix _ _
    have hsame : ∀ row ∈ m.step.references, final.outputAt? row = m.run.outputAt? row :=
      fun row hrow => Run.outputAt?_of_begins hbegins (hbefore row hrow)
    have hknown : final.Knows m.step := by
      intro row hrow
      rw [hsame row hrow]
      exact hknows row hrow
    exact ⟨m, result, after, hvisits, hbegun, hperform, hrecord,
      propagates_of_knows p hknown fun row hrow => (hsame row hrow).symm⟩
  refine ⟨by rw [hsteps, hsequence], ?_, hplaces⟩
  intro done hdone
  refine ⟨houtputs done (hsteps ▸ hdone), ?_⟩
  intro row f hblocks
  rcases List.getElem?_of_mem hdone with ⟨place, hplace⟩
  rcases hplaces place done hplace with ⟨m, result, after, -, -, hperform, rfl, hpropagates⟩
  have hskipped := hpropagates.skips row f hblocks p.host
  have hresults := congrArg Prod.fst (hperform.symm.trans hskipped)
  cases hresults
  rfl

end Runner

namespace Samples

/-- The last step refers to two faulted ones, and first to the one that was skipped. -/
def spreadingKinds : List (StepKind × List StepInput) :=
  faultingKinds ++ [(.call "Echo" "echo" (some 2), [.ref 1])]

def spreadingRun : Runner.Outcome Unit :=
  (echoRunner .args).execute Observer.silent (Sequence.ofKinds "spreading" spreadingKinds) {} ()

end Samples

open Samples in
/-- The skipped step is told as faulted in turn. -/
theorem Runner.faults_follow_references_spreading :
    let f := skipped 1 (noMethod "Echo" "lost" 1)
    Sequence.build "spreading" spreadingKinds =
        .ok (Sequence.ofKinds "spreading" spreadingKinds) ∧
      ∃ final, spreadingRun.result = .ok final ∧
        final.outputAt? 3 = some (.error (skipped 2 f)) ∧
        ∃ m, (echoRunner .args).Visits Observer.silent
            (Sequence.ofKinds "spreading" spreadingKinds) {} () m ∧
          m.run.steps = final.steps.take 3 ∧
          ∀ host : Host, { echoRunner .args with host }.performAt m =
            (.ok (.fault (skipped 2 f)), m.heap) := by
  intro f
  have hbuild : Sequence.build "spreading" spreadingKinds =
      .ok (Sequence.ofKinds "spreading" spreadingKinds) := rfl
  have hresult : ∃ final, spreadingRun.result = .ok final ∧
      ∃ done, final.steps[3]? = some done ∧ final.Blocks done.step 2 f := by
    refine ⟨_, rfl, _, rfl, rfl, [], [1], rfl, ?_⟩
    nofun
  rcases hresult with ⟨final, hfinal, done, hdone, hblocks⟩
  rcases (faults_follow_references (echoRunner .args) Observer.silent "spreading"
    spreadingKinds {} ()).2 _ hbuild with ⟨-, hruns⟩
  rcases hruns final hfinal with ⟨-, houtputs, hplaces⟩
  rcases hplaces 3 done hdone with ⟨m, result, after, hvisits, hbegun, -, rfl, hpropagates⟩
  have houtput := (houtputs _ (List.mem_of_getElem? hdone)).2 2 f hblocks
  refine ⟨hbuild, final, hfinal, ?_, m, hvisits, hbegun, hpropagates.skips 2 f hblocks⟩
  unfold Run.outputAt?
  rw [hdone]
  exact houtput

end Refit
