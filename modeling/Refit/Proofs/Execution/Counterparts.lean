import Refit.Proofs.Association
import Refit.Proofs.Execution.Mirrors
import Refit.Proofs.Execution.Producers

/-!
# Steps on mirrored heaps

A step of a run has its counterpart in the run that begins with another counter: the
receiver and the inputs are counterparts, and so is the result, unless it spells an object.
Then both runs go on as counterparts.
-/

namespace Refit

variable {n m : ℕ}

section Counterparts

def StepResult.renumber (n m : ℕ) (r : StepResult) : StepResult where
  output := renumberResult n m r.output
  adapted := r.adapted
  standIn := r.standIn.map (Instance.renumber n m)

def RunStep.renumber (n m : ℕ) (s : RunStep) : RunStep :=
  { s with
    target := s.target.map (Value.renumber n m)
    inputs := s.inputs.map (Value.renumber n m)
    output := s.output.map (renumberResult n m)
    standIn := s.standIn.map (Instance.renumber n m) }

def Run.renumber (n m : ℕ) (run : Run) : Run :=
  { run with
    steps := run.steps.map (RunStep.renumber n m)
    producers := run.producers.map fun (id, row) => (id - n + m, row) }

end Counterparts

/-- The result of a step and its counterpart. -/
structure StepResult.Twins (n m : ℕ) (P : Instance → Prop) (r r' : StepResult) : Prop where
  only : ResultOnly P r.output
  standIn : ∀ i ∈ r.standIn, P i
  counterpart : r' = r.renumber n m

theorem StepResult.Twins.of_output
    {P : Instance → Prop} {output output' : Except Fault Value} {adapted : Option String}
    (houtput : ResultTwins n m P output output') :
    StepResult.Twins n m P ⟨output, adapted, none⟩ ⟨output', adapted, none⟩ where
  only := houtput.1
  standIn := nofun
  counterpart := by rw [houtput.2]; rfl

/-- What comes of a step, its result or why it stops the run, and its counterpart. -/
def StepTwins (n m : ℕ) (P : Instance → Prop) (r r' : Except Error StepResult) : Prop :=
  (∃ e, r = .error e ∧ r' = .error e) ∨
    ∃ result result', r = .ok result ∧ r' = .ok result' ∧ result.Twins n m P result'

theorem StepTwins.fault (P : Instance → Prop) (f : Fault) :
    StepTwins n m P (.ok (.fault f)) (.ok (.fault f)) :=
  .inr ⟨_, _, rfl, rfl, .of_output (resultTwins_error P f)⟩

/-- The result of a step, if there is one, is no fault that spells an object. -/
def StepQuiet (n m : ℕ) (r : Except Error StepResult) : Prop :=
  ∀ result, r = .ok result → Quiet n m result.output

/-- No step of the sequence is given a value with an object in it. -/
def Sequence.ObjectFree (sequence : Sequence) : Prop :=
  ∀ s ∈ sequence.steps, s.LiteralsOnly fun _ => False

namespace Runner

open Heap

variable {p : Runner} {h h' : Heap} {run : Run}

section Inputs

theorem outputAt?_renumber (run : Run) (position : ℕ) :
    (run.renumber n m).outputAt? position =
      (run.outputAt? position).map (renumberResult n m) := by
  unfold Run.outputAt? Run.renumber
  simp only [List.getElem?_map]
  cases run.steps[position]? <;> rfl

theorem earlierOutput_renumber (run : Run) (position : ℕ) :
    earlierOutput (run.renumber n m) position =
      renumberResult n m (earlierOutput run position) := by
  unfold earlierOutput
  rw [outputAt?_renumber]
  rcases run.outputAt? position with _ | f | v
  · rfl
  · rfl
  · rfl

theorem receiverOf_renumber (run : Run) (s : Step) :
    receiverOf (run.renumber n m) s =
      (receiverOf run s).map (Option.map (Value.renumber n m)) := by
  unfold receiverOf
  split
  · rw [earlierOutput_renumber]
    cases earlierOutput run _ <;> rfl
  · rfl

theorem inputsOf_renumber
    (run : Run) {inputs : List StepInput}
    (hliterals : ∀ v, .literal v ∈ inputs → v.Only fun _ => False) :
    inputsOf (run.renumber n m) inputs =
      (inputsOf run inputs).map (List.map (Value.renumber n m)) := by
  induction inputs with
  | nil => rfl
  | cons input rest ih =>
      have ih := ih fun v hv => hliterals v (List.mem_cons_of_mem _ hv)
      cases input with
      | literal v =>
          have hv : v.renumber n m = v := Value.renumber_of_fixed
            ((hliterals v List.mem_cons_self).mono fun _ hfalse => hfalse.elim)
          rw [inputsOf, inputsOf, ih]
          cases inputsOf run rest with
          | error f => rfl
          | ok vs => exact congrArg (fun w => Except.ok (w :: _)) hv.symm
      | ref position =>
          rw [inputsOf, inputsOf, ih, earlierOutput_renumber]
          cases earlierOutput run position with
          | error f => rfl
          | ok v => cases inputsOf run rest <;> rfl

theorem results_context_renumber (p : Runner) (run : Run) :
    (p.context (run.renumber n m)).results =
      (p.context run).results.map fun entry => (entry.1, entry.2.renumber n m) := by
  unfold context Run.renumber
  simp only [List.filterMap_map, List.map_filterMap]
  refine List.filterMap_congr fun s _ => ?_
  simp only [Function.comp_apply, RunStep.value?, RunStep.renumber]
  rcases s.output with _ | f | v
  · rfl
  · rfl
  · rfl

/-- Names that hold no objects, and the earlier outputs, are alike for an expression. -/
theorem context_alike
    (hnames : ∀ entry ∈ p.names, entry.2.Only fun _ => False)
    (hrun : run.Only (n ≤ ·.id)) :
    (p.context run).Alike n m (p.context (run.renumber n m)) := by
  constructor
  · intro k
    have honly := (context_only hrun fun entry hentry =>
      (hnames entry hentry).mono fun _ hfalse => hfalse.elim).results
    have hlookup : ((p.context run).results.map
        fun entry => (entry.1, entry.2.renumber n m)).lookup k =
          ((p.context run).results.lookup k).map (Value.renumber n m) :=
      lookup_map (g := id) _ fun _ _ hsame => hsame
    unfold Expression.Context.result?
    rw [results_context_renumber, hlookup]
    cases hfound : (p.context run).results.lookup k with
    | none => exact .inl ⟨rfl, rfl⟩
    | some v =>
        exact .inr ⟨v, _, rfl, rfl, v.alike_renumber (Expression.only_of_lookup honly hfound)⟩
  · intro name
    unfold Expression.Context.name? context
    cases hfound : p.names.lookup name with
    | none => exact .inl ⟨rfl, rfl⟩
    | some v =>
        exact .inr ⟨v, v, rfl, rfl, Value.alike_self (Expression.only_of_lookup hnames hfound)⟩

end Inputs

section Calls

variable {inputs : List Value}

theorem callAsIs_twins
    (hrespects : p.host.Respects n m) (hmirrors : Mirrors n m h h') (member : Member)
    {receiver : Option Instance} (hreceiver : ∀ i ∈ receiver, h.Since n i)
    (hinputs : ∀ v ∈ inputs, v.Only (h.Since n))
    (hquiet : StepQuiet n m (p.callAsIs member receiver inputs h).1) :
    Twins n m h (StepTwins n m) (p.callAsIs member receiver inputs h)
      (p.callAsIs member (receiver.map (Instance.renumber n m))
        (inputs.map (Value.renumber n m)) h') := by
  revert hquiet
  unfold callAsIs
  split
  · intro _
    split
    · exact hmirrors.twins (.inl ⟨_, rfl, rfl⟩)
    · exact hmirrors.twins (.fault _ _)
  next handle _ =>
  intro hquiet
  have htwins := handle.invoke_twins hrespects hmirrors p.deadline hreceiver hinputs
    (hquiet _ rfl)
  exact htwins.mono fun houtput => .inr ⟨_, _, rfl, rfl, .of_output houtput⟩

theorem constructComponent_twins
    (hrespects : p.host.Respects n m) (hmirrors : Mirrors n m h h') (typeName : String)
    (hinputs : ∀ v ∈ inputs, v.Only (h.Since n))
    (hquiet : StepQuiet n m (p.constructComponent typeName inputs h).1) :
    Twins n m h (StepTwins n m) (p.constructComponent typeName inputs h)
      (p.constructComponent typeName (inputs.map (Value.renumber n m)) h') := by
  have hnone : ∀ i ∈ (none : Option Instance), h.Since n i := nofun
  revert hquiet
  unfold constructComponent
  rw [List.length_map]
  split
  · exact fun _ => hmirrors.twins (.fault _ _)
  · exact callAsIs_twins hrespects hmirrors _ hnone hinputs

theorem callComponent_twins
    (hrespects : p.host.Respects n m) (hmirrors : Mirrors n m h h') (typeName method : String)
    {receiver : Option Value} (hreceiver : ∀ v ∈ receiver, v.Only (h.Since n))
    (hinputs : ∀ v ∈ inputs, v.Only (h.Since n))
    (hquiet : StepQuiet n m (p.callComponent typeName method receiver inputs h).1) :
    Twins n m h (StepTwins n m) (p.callComponent typeName method receiver inputs h)
      (p.callComponent typeName method (receiver.map (Value.renumber n m))
        (inputs.map (Value.renumber n m)) h') := by
  revert hquiet
  unfold callComponent
  rw [List.length_map]
  cases receiver with
  | none =>
      have hnone : ∀ i ∈ (none : Option Instance), h.Since n i := nofun
      simp only [Option.map_none]
      split
      · exact fun _ => hmirrors.twins (.fault _ _)
      · exact callAsIs_twins hrespects hmirrors _ hnone hinputs
  | some v =>
      have hv := hreceiver v rfl
      have hother : StepQuiet n m (.ok (.fault
          (.illegalArgument ("cannot call " ++ method ++ " on " ++ v.render)))) →
            v.renumber n m = v := by
        intro hquiet
        refine Value.renumber_of_quiet (only_of_only_since hv) fun hs => ?_
        exact quiet_error.mp (hquiet _ rfl) ⟨_, rfl, hs.append_left _⟩
      cases v with
      | object i =>
          have hsome : ∀ j ∈ some i, h.Since n j := by
            intro j hj
            cases hj
            exact Value.only_object.mp hv
          have htype : (i.renumber n m).typeName = i.typeName := rfl
          simp only [Option.map_some, Value.renumber, htype]
          split
          · exact fun _ => hmirrors.twins (.fault _ _)
          · exact callAsIs_twins hrespects hmirrors _ hsome hinputs
      | null => exact fun _ => hmirrors.twins (.fault _ _)
      | list items | array items =>
          intro hquiet
          rw [Option.map_some, hother hquiet]
          exact hmirrors.twins (.fault _ _)
      | _ => exact fun _ => hmirrors.twins (.fault _ _)

theorem callAdapted_twins
    (hrespects : p.host.Respects n m) (hmirrors : Mirrors n m h h') (typeName method : String)
    {receiver : Option Value} (hreceiver : ∀ v ∈ receiver, v.Only (h.Since n))
    (hinputs : ∀ v ∈ inputs, v.Only (h.Since n))
    (hquiet : Quiet n m (p.callAdapted typeName method receiver inputs h).1.output) :
    Twins n m h (StepResult.Twins n m) (p.callAdapted typeName method receiver inputs h)
      (p.callAdapted typeName method (receiver.map (Value.renumber n m))
        (inputs.map (Value.renumber n m)) h') := by
  have hfault : ∀ f adapted, Twins n m h (StepResult.Twins n m)
      (⟨.error f, adapted, none⟩, h) (⟨.error f, adapted, none⟩, h') :=
    fun f _ => hmirrors.twins (.of_output (resultTwins_error _ f))
  revert hquiet
  unfold callAdapted
  rw [List.length_map]
  split
  · exact fun _ => hfault _ _
  next number _ =>
  split
  · exact fun _ => hfault _ _
  next handle _ =>
  cases receiver with
  | none =>
      have hnone : ∀ i ∈ (none : Option Instance), h.Since n i := nofun
      intro hquiet
      have htwins := handle.invoke_twins hrespects hmirrors p.deadline hnone hinputs hquiet
      exact htwins.mono .of_output
  | some v =>
      have hv := hreceiver v rfl
      have hother : Quiet n m (.error (.classCast (v.render ++ " is not a " ++ typeName)) :
          Except Fault Value) → v.renumber n m = v := by
        intro hquiet
        rw [String.append_assoc] at hquiet
        exact Conversion.renumber_of_quiet_classCast (only_of_only_since hv)
          (quiet_error.mp hquiet)
      cases v with
      | object i =>
          have hi := Value.only_object.mp hv
          simp only [Option.map_some, Value.renumber]
          rw [hmirrors.isStandIn_eq hi.1]
          split
          · intro hquiet
            have htwins := StandIn.dispatch_twins hrespects hmirrors hi number p.deadline
              hinputs hquiet
            exact htwins.mono .of_output
          · intro hquiet
            have hrender := congrArg Value.render (hother hquiet)
            rw [Value.renumber] at hrender
            rw [hrender]
            exact hfault _ _
      | null => exact fun _ => hfault _ _
      | list items | array items =>
          intro hquiet
          rw [Option.map_some, hother hquiet]
          exact hfault _ _
      | _ => exact fun _ => hfault _ _

theorem constructAdapted_twins
    (hrespects : p.host.Respects n m) (hmirrors : Mirrors n m h h') (typeName : String)
    (hinputs : ∀ v ∈ inputs, v.Only (h.Since n))
    (hquiet : Quiet n m (p.constructAdapted typeName inputs h).1.output) :
    Twins n m h (StepResult.Twins n m) (p.constructAdapted typeName inputs h)
      (p.constructAdapted typeName (inputs.map (Value.renumber n m)) h') := by
  revert hquiet
  unfold constructAdapted
  rw [List.length_map]
  split
  · exact fun _ => hmirrors.twins (.of_output (resultTwins_error _ _))
  next number _ =>
  intro hquiet
  have htwins := StandIn.construct_twins hrespects hmirrors p.binding number p.interface.name
    p.deadline hinputs
  rcases hfirst : StandIn.construct p.binding p.host number p.interface.name inputs p.deadline h
    with ⟨r, after⟩
  rcases hsecond : StandIn.construct p.binding p.host number p.interface.name
    (inputs.map (Value.renumber n m)) p.deadline h' with ⟨r', after'⟩
  rw [hfirst] at htwins
  rw [hsecond] at htwins
  simp only [hfirst] at hquiet ⊢
  rcases r with f | i
  · obtain ⟨hlater, hmirrors', -, hsame⟩ := htwins (quiet_error.mpr (quiet_error.mp hquiet))
    cases hsame
    exact ⟨hlater, hmirrors', .of_output (resultTwins_error _ f)⟩
  · obtain ⟨hlater, hmirrors', honly, hsame⟩ := htwins (quiet_ok i)
    cases hsame
    have hi := honly i rfl
    refine ⟨hlater, hmirrors', fun v hv => ?_, fun j hj => ?_, rfl⟩
    · cases hv
      exact Value.only_object.mpr hi
    · cases hj
      exact hi

end Calls

/-- A run that holds none but objects made since the counter stood at `n`. -/
structure Begun (n : ℕ) (run : Run) (heap : Heap) : Prop where
  only : run.Only (heap.Since n)
  producers : ∀ entry ∈ run.producers, n ≤ entry.1

section Step

variable {s : Step}

theorem runStep_twins
    (hrespects : p.host.Respects n m) (hmirrors : Mirrors n m h h')
    (hnames : ∀ entry ∈ p.names, entry.2.Only fun _ => False) (hbegun : Begun n run h)
    {receiver : Option Value} {inputs : List Value}
    (hreceiver : ∀ v ∈ receiver, v.Only (h.Since n))
    (hinputs : ∀ v ∈ inputs, v.Only (h.Since n))
    (hquiet : ∀ result, (p.runStep run s receiver inputs h).1 = .ok result →
      Unspelled n m result.output) :
    Twins n m h (StepTwins n m) (p.runStep run s receiver inputs h)
      (p.runStep (run.renumber n m) s (receiver.map (Value.renumber n m))
        (inputs.map (Value.renumber n m)) h') := by
  have hok : ∀ {first second : StepResult × Heap},
      Twins n m h (StepResult.Twins n m) first second →
        Twins n m h (StepTwins n m) (.ok first.1, first.2) (.ok second.1, second.2) :=
    fun htwins => htwins.mono fun hsame => .inr ⟨_, _, rfl, rfl, hsame⟩
  have hstandIn : isStandIn h' (receiver.map (Value.renumber n m)) = isStandIn h receiver := by
    rcases receiver with _ | v
    · rfl
    cases v with
    | object i => exact hmirrors.isStandIn_eq (Value.only_object.mp (hreceiver _ rfl)).1
    | _ => rfl
  revert hquiet
  unfold runStep
  split
  · next typeName _ =>
    split
    · exact fun hquiet => hok
        (constructAdapted_twins hrespects hmirrors typeName hinputs (hquiet _ rfl).1)
    · exact fun hquiet => constructComponent_twins hrespects hmirrors typeName hinputs
        fun result hresult => (hquiet result hresult).1
  · next typeName method _ _ =>
    rw [hstandIn]
    split
    · exact fun hquiet => hok
        (callAdapted_twins hrespects hmirrors typeName method hreceiver hinputs
          (hquiet _ rfl).1)
    · exact fun hquiet => callComponent_twins hrespects hmirrors typeName method hreceiver
        hinputs fun result hresult => (hquiet result hresult).1
  · next text _ =>
    intro hquiet
    have hrun : run.Only (n ≤ ·.id) := fun row v hv => only_of_only_since (hbegun.only row v hv)
    have hsame := Expression.evaluate_renumber text (context_alike hnames hrun) (hquiet _ rfl)
    have hcontext : (p.context run).Only (h.Since n) := context_only hbegun.only
      fun entry hentry => (hnames entry hentry).mono fun _ hfalse => hfalse.elim
    exact hmirrors.twins (.inr ⟨_, _, rfl, rfl, .of_output
      ⟨fun v hv => Expression.evaluate_only hcontext hv, hsame⟩⟩)

theorem performAt_twins
    (hrespects : p.host.Respects n m) (hmirrors : Mirrors n m h h')
    (hnames : ∀ entry ∈ p.names, entry.2.Only fun _ => False) (hbegun : Begun n run h)
    (hliterals : s.LiteralsOnly fun _ => False)
    (hquiet : ∀ result, (p.performAt ⟨run, s, h⟩).1 = .ok result →
      Unspelled n m result.output) :
    Twins n m h (StepTwins n m) (p.performAt ⟨run, s, h⟩)
      (p.performAt ⟨run.renumber n m, s, h'⟩) := by
  unfold performAt Moment.receiver Moment.inputs at hquiet ⊢
  simp only at hquiet ⊢
  rw [receiverOf_renumber, inputsOf_renumber run hliterals]
  rcases hreceiver : receiverOf run s with f | receiver
  · exact hmirrors.twins (.fault _ f)
  rcases hinputs : inputsOf run s.inputs with f | inputs
  · exact hmirrors.twins (.fault _ f)
  rw [hreceiver, hinputs] at hquiet
  exact runStep_twins hrespects hmirrors hnames hbegun (receiverOf_only hbegun.only hreceiver)
    (inputsOf_only hbegun.only
      (fun v hv => (hliterals v hv).mono fun _ hfalse => hfalse.elim) hinputs) hquiet

theorem preparedAt_renumber
    (p : Runner) (run : Run) (hliterals : s.LiteralsOnly fun _ => False) (h h' : Heap) :
    p.preparedAt ⟨run.renumber n m, s, h'⟩ = (p.preparedAt ⟨run, s, h⟩).renumber n m := by
  unfold preparedAt prepared Moment.receiver Moment.inputs RunStep.renumber
  simp only
  rw [receiverOf_renumber, inputsOf_renumber run hliterals]
  rcases receiverOf run s with _ | receiver
  · rcases inputsOf run s.inputs with _ | inputs
    · rfl
    · rfl
  · rcases inputsOf run s.inputs with _ | inputs
    · rfl
    · rfl

end Step

section Producers

variable {producers : List (ℕ × ℕ)} {position : ℕ}

/-- Entries with the numbers of counterparts. -/
def renumberKeys (n m : ℕ) (producers : List (ℕ × ℕ)) : List (ℕ × ℕ) :=
  producers.map fun (id, row) => (id - n + m, row)

theorem lookup_renumberKeys
    (hproducers : ∀ entry ∈ producers, n ≤ entry.1) {i : Instance} (hi : n ≤ i.id) :
    (renumberKeys n m producers).lookup (i.renumber n m).id = producers.lookup i.id := by
  have hlookup : (renumberKeys n m producers).lookup (i.id - n + m) =
      (producers.lookup i.id).map id := by
    refine lookup_map (g := fun id => id - n + m) id fun entry hentry hsame => ?_
    have := hproducers entry hentry
    omega
  rw [Option.map_id] at hlookup
  exact hlookup

theorem enterMade_renumber
    (hproducers : ∀ entry ∈ producers, n ≤ entry.1) {standIn : Option Instance}
    (hstandIn : ∀ i ∈ standIn, n ≤ i.id) :
    enterMade (renumberKeys n m producers) position (standIn.map (Instance.renumber n m)) =
      renumberKeys n m (enterMade producers position standIn) := by
  cases standIn with
  | none => rfl
  | some i =>
      have hi := hstandIn i rfl
      simp only [Option.map_some, enterMade, renumberKeys, List.map_cons, List.filter_map]
      congr 1
      refine congrArg (List.map _) (List.filter_congr fun entry hentry => ?_)
      have := hproducers entry hentry
      refine decide_eq_decide.mpr ?_
      simp only [Instance.renumber]
      omega

theorem enterReturned_renumber
    (hmirrors : Mirrors n m h h') (hproducers : ∀ entry ∈ producers, n ≤ entry.1)
    {output : Except Fault Value} (houtput : ResultOnly (h.Since n) output) :
    enterReturned h' (renumberKeys n m producers) position (renumberResult n m output) =
      renumberKeys n m (enterReturned h producers position output) := by
  rcases output with f | v
  · rfl
  cases v with
  | object i =>
      have hi := Value.only_object.mp (houtput _ rfl)
      rw [renumberResult_ok, Value.renumber, enterReturned, enterReturned,
        hmirrors.isStandIn_eq hi.1, lookup_renumberKeys hproducers hi.1]
      split
      · rfl
      · rfl
  | _ => rfl

theorem begun_enterMade
    (hproducers : ∀ entry ∈ producers, n ≤ entry.1) {standIn : Option Instance}
    (hstandIn : ∀ i ∈ standIn, n ≤ i.id) :
    ∀ entry ∈ enterMade producers position standIn, n ≤ entry.1 := by
  intro entry hentry
  cases standIn with
  | none => exact hproducers entry hentry
  | some i =>
      rcases List.mem_cons.mp hentry with rfl | hold
      · exact hstandIn i rfl
      · exact hproducers entry (List.mem_of_mem_filter hold)

theorem begun_producersAfter
    (hproducers : ∀ entry ∈ producers, n ≤ entry.1) {result : StepResult}
    (houtput : ResultOnly (h.Since n) result.output)
    (hstandIn : ∀ i ∈ result.standIn, h.Since n i) :
    ∀ entry ∈ producersAfter h producers position result, n ≤ entry.1 := by
  intro entry hentry
  rw [producersAfter_eq] at hentry
  rcases mem_enterReturned hentry with hold | ⟨i, rfl, hi, -⟩
  · exact begun_enterMade hproducers (fun i hi => (hstandIn i hi).1) entry hold
  · exact (Value.only_object.mp (houtput _ hi)).1

theorem producersAfter_renumber
    (hmirrors : Mirrors n m h h') (hproducers : ∀ entry ∈ producers, n ≤ entry.1)
    {result : StepResult} (houtput : ResultOnly (h.Since n) result.output)
    (hstandIn : ∀ i ∈ result.standIn, h.Since n i) :
    producersAfter h' (renumberKeys n m producers) position (result.renumber n m) =
      renumberKeys n m (producersAfter h producers position result) := by
  have hstandIn : ∀ i ∈ result.standIn, n ≤ i.id := fun i hi => (hstandIn i hi).1
  rw [producersAfter_eq, producersAfter_eq]
  simp only [StepResult.renumber]
  rw [enterMade_renumber hproducers hstandIn,
    enterReturned_renumber hmirrors (begun_enterMade hproducers hstandIn) houtput]

end Producers

/-- After a step both runs have the counterparts of one another. -/
theorem extended_renumber
    (hmirrors : Mirrors n m h h') (hbegun : ∀ entry ∈ run.producers, n ≤ entry.1)
    {result : StepResult} (houtput : ResultOnly (h.Since n) result.output)
    (hstandIn : ∀ i ∈ result.standIn, h.Since n i) (prepared : RunStep) :
    extended (run.renumber n m) h' (prepared.renumber n m) (result.renumber n m) =
      ((extended run h prepared result).1.renumber n m,
        (extended run h prepared result).2.renumber n m) := by
  have hproducers : producersAfter h' (renumberKeys n m run.producers) prepared.step.position
      (result.renumber n m) =
        renumberKeys n m (producersAfter h run.producers prepared.step.position result) :=
    producersAfter_renumber hmirrors hbegun houtput hstandIn
  unfold renumberKeys at hproducers
  unfold extended Run.renumber
  simp only [List.map_append, List.map_cons, List.map_nil, Prod.mk.injEq, Run.mk.injEq, true_and]
  exact ⟨⟨rfl, hproducers⟩, rfl⟩

theorem begun_extended
    {before : Heap} (hbegun : Begun n run before) (hlater : before.nextId ≤ h.nextId)
    {result : StepResult} (houtput : ResultOnly (h.Since n) result.output)
    (hstandIn : ∀ i ∈ result.standIn, h.Since n i) (prepared : RunStep) :
    Begun n (extended run h prepared result).1 h where
  only row v hv := by
    rw [outputAt?_extended] at hv
    split_ifs at hv
    · exact (hbegun.only row v hv).mono fun _ hi => hi.later hlater
    · exact houtput v (Option.some.inj hv)
  producers := begun_producersAfter hbegun.producers houtput hstandIn

end Runner

end Refit
