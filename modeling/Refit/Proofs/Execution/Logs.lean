import Refit.Proofs.Execution.Answers
import Refit.Proofs.Execution.Producers

/-!
# Logs

Every stand-in that a run makes has the log of the calls on it, and the log mirrors the
run: there is one entry for each step that calls a declared method on the stand-in and has
all its inputs, in the order of the steps.  Code that is handed a stand-in may call it too,
while a step runs; there is no other entry.
-/

namespace Refit

namespace RunStep

/-- The log of an object along the steps.  A call on the object is logged at the end of its
step; before that, and in all other steps, foreign code may have called the object. -/
inductive LoggedAlong (interface : Interface) (i : Instance) (foreign : LoggedCall → Prop) :
    List RunStep → List LoggedCall → Prop
  | start : LoggedAlong interface i foreign [] []
  | passed {steps calls added} {s : RunStep}
      (hbefore : LoggedAlong interface i foreign steps calls)
      (hother : s.isCallOn interface i = false) (hadded : ∀ call ∈ added, foreign call) :
      LoggedAlong interface i foreign (steps ++ [s]) (calls ++ added)
  | called {steps calls added call} {s : RunStep}
      (hbefore : LoggedAlong interface i foreign steps calls)
      (hcall : s.isCallOn interface i = true) (hadded : ∀ call ∈ added, foreign call)
      (hlogged : s.Logged interface call) :
      LoggedAlong interface i foreign (steps ++ [s]) (calls ++ added ++ [call])

/-- Where foreign code makes no calls, the entries are those of the steps. -/
theorem LoggedAlong.forall₂
    {interface : Interface} {i : Instance} {foreign : LoggedCall → Prop}
    {steps : List RunStep} {calls : List LoggedCall}
    (hlog : LoggedAlong interface i foreign steps calls) (hnone : ∀ call, ¬ foreign call) :
    List.Forall₂ (Logged interface) (steps.filter (·.isCallOn interface i)) calls := by
  have hempty : ∀ added : List LoggedCall, (∀ call ∈ added, foreign call) → added = [] := by
    intro added hadded
    rw [List.eq_nil_iff_forall_not_mem]
    exact fun call hcall => hnone call (hadded call hcall)
  induction hlog with
  | start => exact .nil
  | passed hbefore hother hadded ih =>
      rw [hempty _ hadded, List.append_nil, List.filter_append,
        List.filter_cons_of_neg (by simp [hother]), List.filter_nil, List.append_nil]
      exact ih
  | called hbefore hcall hadded hlogged ih =>
      rw [hempty _ hadded, List.append_nil, List.filter_append,
        List.filter_cons_of_pos hcall, List.filter_nil]
      exact List.rel_append ih (.cons hlogged .nil)

end RunStep

/-- The run before the step in a row. -/
def Run.upTo (r : Run) (row : ℕ) : Run := { r with steps := r.steps.take row }

namespace Runner

variable {p : Runner}

section Run

variable {run : Run} {heap after : Heap} {i : Instance} {foreign : LoggedCall → Prop}

/-- The stand-in that was made in the row is on the heap, serves through the binding and
has logged the calls on it since. -/
def MirroredFrom (p : Runner) (i : Instance) (foreign : LoggedCall → Prop) (run : Run)
    (heap : Heap) (row : ℕ) : Prop :=
  i.id < heap.nextId ∧ ∃ adaptee calls,
    heap.standIn? i = some ⟨p.binding.methods, adaptee, calls⟩ ∧
    RunStep.LoggedAlong p.interface i foreign (run.steps.drop (row + 1)) calls

/-- If a step has made the stand-in, it is mirrored from there on. -/
def Mirrored (p : Runner) (i : Instance) (foreign : LoggedCall → Prop) (run : Run)
    (heap : Heap) : Prop :=
  ∀ row (made : RunStep), run.steps[row]? = some made → made.standIn = some i →
    p.MirroredFrom i foreign run heap row

theorem MirroredFrom.extended (hdiscreet : p.host.Discreet i foreign)
    (hcount : p.binding.methods.length = p.interface.methods.length)
    {m : Moment} {result : StepResult} {row : ℕ}
    (hmirrored : p.MirroredFrom i foreign m.run m.heap row) (hrow : row < m.run.steps.length)
    (hperform : p.performAt m = (.ok result, after)) :
    p.MirroredFrom i foreign (extended m.run after (p.preparedAt m) result).1 after row := by
  rcases hmirrored with ⟨hfresh, adaptee, calls, hstandIn, hlogged⟩
  have hsteps : (Runner.extended m.run after (p.preparedAt m) result).1.steps.drop (row + 1) =
      m.run.steps.drop (row + 1) ++
        [(Runner.extended m.run after (p.preparedAt m) result).2] :=
    List.drop_append_of_le_length hrow
  unfold MirroredFrom
  rw [hsteps]
  cases hcall : (p.preparedAt m).isCallOn p.interface i with
  | false =>
      have hkeeps := performAt_keeps hdiscreet hcall
      rw [hperform] at hkeeps
      rcases hkeeps.standIn hfresh _ hstandIn with ⟨added, hforeign, hstandIn'⟩
      exact ⟨hfresh.trans_le hkeeps.nextId, adaptee, calls ++ added, hstandIn',
        .passed hlogged hcall hforeign⟩
  | true =>
      rcases performAt_logs hdiscreet hcount hfresh hstandIn hcall hperform with
        ⟨call, hmethod, hmember, houtput, hnext, ⟨added, hforeign, hstandIn'⟩, -⟩
      have hlast : RunStep.Logged p.interface
          (Runner.extended m.run after (p.preparedAt m) result).2 call :=
        ⟨hmethod, hmember, congrArg some houtput⟩
      exact ⟨hfresh.trans_le hnext, adaptee, calls ++ added ++ [call], hstandIn',
        .called hlogged hcall hforeign hlast⟩

theorem Mirrored.extended (hdiscreet : p.host.Discreet i foreign)
    (hcount : p.binding.methods.length = p.interface.methods.length)
    {m : Moment} {result : StepResult} (hmirrored : p.Mirrored i foreign m.run m.heap)
    (hperform : p.performAt m = (.ok result, after)) :
    p.Mirrored i foreign (extended m.run after (p.preparedAt m) result).1 after := by
  intro row made hmade hi
  have hsteps : (Runner.extended m.run after (p.preparedAt m) result).1.steps =
      m.run.steps ++ [(Runner.extended m.run after (p.preparedAt m) result).2] := rfl
  rw [hsteps] at hmade
  rcases lt_or_ge row m.run.steps.length with hold | hnew
  · rw [List.getElem?_append_left hold] at hmade
    exact (hmirrored row made hmade hi).extended hdiscreet hcount hold hperform
  · -- The stand-in has just been made, and no step has called it.
    have hrow : row = m.run.steps.length := by
      have hlt := (List.getElem?_eq_some_iff.mp hmade).1
      rw [List.length_append, List.length_singleton] at hlt
      omega
    rw [hrow, List.getElem?_concat_length] at hmade
    cases hmade
    rcases standIn_of_performAt hdiscreet hperform hi with
      ⟨-, -, hfresh, adaptee, hstandIn⟩
    refine ⟨hfresh, adaptee, [], hstandIn, ?_⟩
    rw [hsteps, hrow, List.drop_eq_nil_of_le (by simp)]
    exact .start

/-- Nothing but made objects has been put out or called. -/
def KnowsMade (w : World) (run : Run) (heap : Heap) : Prop :=
  ∃ w' : World, w'.heap = heap ∧ w.Later w' ∧ w'.Closed ∧ run.Only w'.Made ∧
    ∀ done ∈ run.steps, ∀ j, done.target = some (.object j) → w'.Made j

theorem KnowsMade.extended
    {w : World} {m : Moment} {result : StepResult} (hhonest : p.host.Honest w)
    (hnames : ∀ entry ∈ p.names, entry.2.Only w.Made) (hliterals : m.step.LiteralsOnly w.Made)
    (hknows : KnowsMade w m.run m.heap) (hperform : p.performAt m = (.ok result, after)) :
    KnowsMade w (extended m.run after (p.preparedAt m) result).1 after := by
  rcases hknows with ⟨w', hheap, hlater, hclosed, honly, htargets⟩
  rcases m with ⟨run, s, _⟩
  cases hheap
  have hyields := performAt_yields (hhonest.later hlater) hclosed
    (fun entry hentry => hlater.only (hnames entry hentry)) honly
    (fun v hv => hlater.only (hliterals v hv))
  rw [hperform] at hyields
  rcases hyields with ⟨w'', hheap, hlater', hclosed', hsound⟩
  refine ⟨w'', hheap, hlater.trans hlater', hclosed', ?_, ?_⟩
  · intro row v hv
    rw [outputAt?_extended] at hv
    split_ifs at hv
    · exact hlater'.only (honly row v hv)
    · exact (hsound result rfl).output v (Option.some.inj hv)
  · intro done hdone j htarget
    rcases List.mem_append.mp hdone with hold | hnew
    · exact hlater'.made (htargets done hold j htarget)
    · rw [List.mem_singleton.mp hnew] at htarget
      have hreceiver := (target_preparedAt (p := p)).mp htarget
      exact hlater'.made (Value.only_object.mp (receiverOf_only honly hreceiver _ rfl))

end Run

section Recorded

variable {σ : Type} {v : Observer σ} {sequence : Sequence} {heap : Heap} {state : σ}
  {final : Run} {place : ℕ} {done : RunStep} {i : Instance} {foreign : LoggedCall → Prop}

theorem hasInputs_recorded
    (hresult : (p.execute v sequence heap state).result = .ok final)
    (hdone : final.steps[place]? = some done) :
    done.hasInputs = true ↔ ∃ inputs, inputsOf (final.upTo place) done.step.inputs = .ok inputs := by
  rcases exists_moment_of_recorded hresult (Nat.zero_le place) hdone with
    ⟨m, result, after, -, hbegins, -, rfl⟩
  have hinputs : inputsOf (final.upTo place) m.step.inputs = m.inputs := by
    apply inputsOf_congr
    intro row _
    unfold Run.outputAt? Run.upTo
    rw [hbegins]
  change (p.preparedAt m).hasInputs = true ↔ _
  rw [hasInputs_preparedAt]
  change _ ↔ ∃ inputs, inputsOf (final.upTo place) m.step.inputs = .ok inputs
  rw [hinputs]

theorem mirrored_of_visits (hdiscreet : p.host.Discreet i foreign)
    (hcount : p.binding.methods.length = p.interface.methods.length)
    {m : Moment} (hvisit : p.Visits v sequence heap state m) :
    p.Mirrored i foreign m.run m.heap := by
  apply hvisit.invariant (p.Mirrored i foreign)
  · intro m result after _ hmirrored hperform
    exact hmirrored.extended hdiscreet hcount hperform
  · intro row made hmade
    cases hmade

theorem answeredAt_of_recorded (hdiscreet : p.host.Discreet i foreign)
    (hcount : p.binding.methods.length = p.interface.methods.length)
    (hresult : (p.execute v sequence heap state).result = .ok final)
    {row : ℕ} {made : RunStep} (hmade : final.steps[row]? = some made)
    (hi : made.standIn = some i) (hrow : row < place) (hdone : final.steps[place]? = some done)
    (hcall : done.isCallOn p.interface i = true) :
    ∃ m handle inputs, p.Visits v sequence heap state m ∧
      m.run.steps = final.steps.take place ∧ p.AnsweredAt m i done handle inputs := by
  rcases exists_moment_of_recorded hresult (Nat.zero_le place) hdone with
    ⟨m, result, after, hvisit, hbegins, hperform, rfl⟩
  have hmade' : m.run.steps[row]? = some made := by
    rw [hbegins, List.getElem?_take_of_lt hrow]
    exact hmade
  rcases mirrored_of_visits hdiscreet hcount hvisit row made hmade' hi with
    ⟨hfresh, adaptee, calls, hstandIn, -⟩
  rcases performAt_logs hdiscreet hcount hfresh hstandIn hcall hperform with
    ⟨call, hmethod, -, -, -, -, handle, inputs, hhandle, hinputs, j, hid, hreceiver, houtput⟩
  refine ⟨m, handle, inputs, hvisit, hbegins, rfl, hinputs, ⟨_, hmethod, hhandle⟩, ?_, ?_⟩
  · intro hown
    rw [map_hideAdaptee_own hown] at houtput
    exact ⟨j, hid, (target_preparedAt (p := p)).mpr hreceiver, congrArg some houtput⟩
  · intro hother
    rw [map_hideAdaptee_other hother] at houtput
    exact congrArg some houtput

theorem not_isOn_before (hdiscreet : p.host.Discreet i foreign) {w : World} (hheap : w.heap = heap)
    (hclosed : w.Closed) (hhonest : p.host.Honest w)
    (hnames : ∀ entry ∈ p.names, entry.2.Only w.Made)
    (hliterals : ∀ s ∈ sequence.steps, s.LiteralsOnly w.Made)
    (hresult : (p.execute v sequence heap state).result = .ok final)
    {row : ℕ} {made : RunStep} (hmade : final.steps[row]? = some made)
    (hi : made.standIn = some i) (hdone : done ∈ final.steps.take (row + 1)) :
    done.isOn i = false := by
  rcases exists_moment_of_recorded hresult (Nat.zero_le row) hmade with
    ⟨m, result, after, hvisit, hbegins, hperform, rfl⟩
  rcases standIn_of_performAt hdiscreet hperform hi with ⟨hnone, hnew, -⟩
  have hknows : KnowsMade w m.run m.heap := by
    apply hvisit.invariant (KnowsMade w)
    · intro m result after hstep hknows hperform
      exact hknows.extended hhonest hnames (hliterals m.step hstep) hperform
    · refine ⟨w, hheap, .refl w, hclosed, ?_, nofun⟩
      intro row v hv
      cases hv
  rcases hknows with ⟨w', hheap', -, -, -, htargets⟩
  rw [← hheap'] at hnew
  rw [List.take_add_one, hmade, Option.toList_some, List.mem_append, ← hbegins] at hdone
  unfold RunStep.isOn
  rcases hdone with hold | hlast
  · split
    · next j htarget =>
      have hid := (htargets done hold j htarget).1
      have hne : j.id ≠ i.id := by omega
      simpa using hne
    · rfl
  · rw [List.mem_singleton.mp hlast]
    simp only [hnone]

/-- The log of a stand-in mirrors the run.  Over code that is discreet with it and bound
method by method it has, in the order of the steps, an entry for every call on the stand-in
of a declared method that has all its inputs, and besides these only the calls that foreign
code has made on it; what a step puts out so is the answer of the member, or the stand-in
itself where the answer is what stands behind.  A step has its inputs if they all come from
steps before it, and over honest code no step calls a stand-in before it is made. -/
theorem log_mirrors_run
    (hdiscreet : p.host.Discreet i foreign)
    (hcount : p.binding.methods.length = p.interface.methods.length)
    (hresult : (p.execute v sequence heap state).result = .ok final)
    {row : ℕ} {made : RunStep} (hmade : final.steps[row]? = some made)
    (hi : made.standIn = some i) :
    RunStep.LoggedAlong p.interface i foreign (final.steps.drop (row + 1))
      ((p.execute v sequence heap state).heap.calls i) ∧
    ((∀ call, ¬ foreign call) →
      List.Forall₂ (RunStep.Logged p.interface)
        ((final.steps.drop (row + 1)).filter (·.isCallOn p.interface i))
        ((p.execute v sequence heap state).heap.calls i)) ∧
    (∀ place done, row < place → final.steps[place]? = some done →
      done.isCallOn p.interface i = true →
        ∃ m handle inputs, p.Visits v sequence heap state m ∧
          m.run.steps = final.steps.take place ∧ p.AnsweredAt m i done handle inputs) ∧
    (∀ place (done : RunStep), final.steps[place]? = some done →
      (done.hasInputs = true ↔
        ∃ inputs, inputsOf (final.upTo place) done.step.inputs = .ok inputs)) ∧
    ∀ w : World, w.heap = heap → w.Closed → p.host.Honest w →
      (∀ entry ∈ p.names, entry.2.Only w.Made) →
        (∀ s ∈ sequence.steps, s.LiteralsOnly w.Made) →
          ∀ done ∈ final.steps.take (row + 1), done.isOn i = false := by
  have hmirrored : p.Mirrored i foreign final (p.execute v sequence heap state).heap := by
    apply executeFrom_invariant (p.Mirrored i foreign) hresult
    · intro m result after _ hmirrored hperform
      exact hmirrored.extended hdiscreet hcount hperform
    · intro row made hmade
      cases hmade
  rcases hmirrored row made hmade hi with ⟨-, adaptee, calls, hstandIn, hlogged⟩
  have hcalls : (p.execute v sequence heap state).heap.calls i = calls := by
    unfold Heap.calls
    rw [hstandIn]
  rw [hcalls]
  refine ⟨hlogged, hlogged.forall₂, ?_, ?_, ?_⟩
  · intro place done hrow hdone hcall
    exact answeredAt_of_recorded hdiscreet hcount hresult hmade hi hrow hdone hcall
  · intro place done hdone
    exact hasInputs_recorded hresult hdone
  · intro w hheap hclosed hhonest hnames hliterals done hdone
    exact not_isOn_before hdiscreet hheap hclosed hhonest hnames hliterals hresult hmade hi hdone

end Recorded

end Runner

namespace Samples

def bellMember (name : String) (params : List ValueType) : Member :=
  { name, params, returnType := .object, declaring := "demo.Bell" }

def bellConstructor : Member :=
  { name := Member.constructorName, kind := .constructor, declaring := "demo.Bell" }

def bellAdapter : Adapter where
  adapterId := 0
  candidateId := "bell"
  component := "demo.Bell"
  interface := "Bell"
  initializers :=
    [.constructor { member := bellConstructor, positions := [], conversions := [] }]
  methods :=
    [{ member := bellMember "ring" [], positions := [], conversions := [] },
     { operation := 1, member := bellMember "crack" [.object], positions := [0]
       conversions := [.identity] }]

/-- A bell gives itself back when it rings, and it does not crack. -/
def bellRunner : Runner where
  interface := ⟨"Bell", [], [⟨"ring", [], .object⟩, ⟨"crack", [.object], .object⟩]⟩
  binding :=
    ⟨bellAdapter, [some (.ofMember bellConstructor)], bellAdapter.methods.map .ofCandidate⟩
  host := HostScript.host
    { members :=
        [⟨"demo.Bell", Member.constructorName, [], .never, .newUnit, false⟩,
         ⟨"demo.Bell", "ring", [], .always, .this, false⟩,
         ⟨"demo.Bell", "crack", [.object], .always, .fail (.bare "Sound"), false⟩] }
  catalog := ⟨[]⟩

/-- The third step calls what the second one gave back, by the name of another type, and
the last one lacks its input. -/
def bellOutcome : Runner.Outcome Unit :=
  bellRunner.execute Observer.silent
    (Sequence.ofKinds "bell"
      [(.construct "Bell", []),
       (.call "Bell" "ring" (some 0), []),
       (.call "Gong" "crack" (some 1), [.literal .null]),
       (.call "Bell" "crack" (some 0), [.ref 2])]) {} ()

/-- The stand-in is made after the bell behind it. -/
def bellStandIn : Instance := ⟨2, "Bell"⟩

def bellCalls (final : Run) : List RunStep :=
  (final.steps.drop 1).filter (·.isCallOn bellRunner.interface bellStandIn)

def hand : Member :=
  { name := "touch", params := [.object], isStatic := true, declaring := "demo.Hand" }

/-- Bells, and a hand that does as told with the stand-in that it is given. -/
def handRunner (touch : Instance → Heap → Heap) : Runner :=
  { bellRunner with
    catalog := ⟨[{ name := "demo.Hand", id := "hand", members := [hand] }]⟩
    host :=
      { bellRunner.host with
        entryPoint := fun m =>
          if m = hand then
            .ok fun _ args heap => (.returned .void,
              match args with
              | [.object i] => touch i heap
              | _ => heap)
          else bellRunner.host.entryPoint m } }

/-- The hand is given the stand-in, and then the bell is rung. -/
def handOutcome (touch : Instance → Heap → Heap) : Runner.Outcome Unit :=
  (handRunner touch).execute Observer.silent
    (Sequence.ofKinds "bell"
      [(.construct "Bell", []),
       (.call "demo.Hand" "touch" none, [.ref 0]),
       (.call "Bell" "ring" (some 0), [])]) {} ()

/-- Rings the bell. -/
def ringing (i : Instance) (heap : Heap) : Heap :=
  (StandIn.dispatch bellRunner.host i 0 [] none heap).2

/-- Breaks down while it holds what is known of the bell. -/
def breaking (i : Instance) (heap : Heap) : Heap := heap.poison i

/-- The bell is bound method by method and the run makes its stand-in, but the log is not
that of the calls on it. -/
def Unmirrored (touch : Instance → Heap → Heap) : Prop :=
  (handRunner touch).binding.methods.length = (handRunner touch).interface.methods.length ∧
  ∃ final made, (handOutcome touch).result = .ok final ∧ final.steps[0]? = some made ∧
    made.standIn = some bellStandIn ∧
    ¬ List.Forall₂ (RunStep.Logged bellRunner.interface) (bellCalls final)
      ((handOutcome touch).heap.calls bellStandIn)

theorem unmirrored_of_length
    {touch : Instance → Heap → Heap} {final : Run} {made : RunStep}
    (hresult : (handOutcome touch).result = .ok final) (hmade : final.steps[0]? = some made)
    (hi : made.standIn = some bellStandIn)
    (hlength : (bellCalls final).length ≠ ((handOutcome touch).heap.calls bellStandIn).length) :
    Unmirrored touch :=
  ⟨rfl, final, made, hresult, hmade, hi, fun hlogged => hlength hlogged.length_eq⟩

theorem ringing_counted :
    ∃ final made, (handOutcome ringing).result = .ok final ∧ final.steps[0]? = some made ∧
      made.standIn = some bellStandIn ∧ (bellCalls final).length = 1 ∧
      ((handOutcome ringing).heap.calls bellStandIn).length = 2 :=
  ⟨_, _, rfl, rfl, rfl, rfl, rfl⟩

/-- Code that rings the bell is discreet with it: what it does to the bell is a call. -/
theorem handRunner_discreet :
    (handRunner ringing).host.Discreet bellStandIn fun _ => True := by
  have hcarries := Runner.carries_keeps (p := bellRunner)
    (HostScript.host_discreet _ bellStandIn fun _ => True)
  intro m entry hentry receiver args heap
  simp only [handRunner] at hentry
  split at hentry
  · cases hentry
    simp only
    split
    · exact hcarries.dispatch [] none heap _ 0 fun _ _ => Heap.keeps_log fun _ => trivial
    · exact .refl _ _ heap
  · exact hcarries.code m entry hentry receiver args heap

end Samples

open Samples in
/-- Over a scripted host the entries are those of the calls in the run; the other host rings
the bell itself, and the ring of the last step is logged after that. -/
theorem Runner.log_mirrors_run_bell :
    (∃ final, bellOutcome.result = .ok final ∧ final.steps.length = 4 ∧
      (bellOutcome.heap.calls bellStandIn).length = 2) ∧
    ∃ final, (handOutcome ringing).result = .ok final ∧
      RunStep.LoggedAlong bellRunner.interface bellStandIn (fun _ => True) (final.steps.drop 1)
        ((handOutcome ringing).heap.calls bellStandIn) := by
  constructor
  · have hcounted : ∃ final, bellOutcome.result = .ok final ∧ final.steps.length = 4 ∧
        (∃ made, final.steps[0]? = some made ∧ made.standIn = some bellStandIn) ∧
        (bellCalls final).length = 2 :=
      ⟨_, rfl, rfl, ⟨_, rfl, rfl⟩, rfl⟩
    rcases hcounted with ⟨final, hresult, hsteps, ⟨made, hmade, hi⟩, hcalls⟩
    have hmirrors := log_mirrors_run
      (HostScript.host_discreet _ bellStandIn fun _ => False) rfl hresult hmade hi
    have hlength := (hmirrors.2.1 fun _ => id).length_eq
    exact ⟨final, hresult, hsteps, hlength.symm.trans hcalls⟩
  · rcases ringing_counted with ⟨final, made, hresult, hmade, hi, -⟩
    exact ⟨final, hresult, (log_mirrors_run handRunner_discreet rfl hresult hmade hi).1⟩

open Samples in
/-- A call that foreign code makes is logged though no step makes it, and code that breaks
down while it holds the stand-in leaves no log. -/
theorem Runner.log_touched : Unmirrored ringing ∧ Unmirrored breaking := by
  constructor
  · rcases ringing_counted with ⟨final, made, hresult, hmade, hi, hcalls, hlog⟩
    exact unmirrored_of_length hresult hmade hi (by omega)
  · have hcounted : ∃ final made, (handOutcome breaking).result = .ok final ∧
        final.steps[0]? = some made ∧ made.standIn = some bellStandIn ∧
        (bellCalls final).length = 1 ∧
        ((handOutcome breaking).heap.calls bellStandIn).length = 0 :=
      ⟨_, _, rfl, rfl, rfl, rfl, rfl⟩
    rcases hcounted with ⟨final, made, hresult, hmade, hi, hcalls, hlog⟩
    exact unmirrored_of_length hresult hmade hi (by omega)

end Refit
