import Refit.Proofs.Execution.Moments
import Refit.Proofs.Execution.Worlds

/-!
# What comes of a step

Over an honest host a step yields a later world, and its output holds none but
objects made by then.  The stand-in that a step makes itself is its output and is
newer than everything that was there before.
-/

namespace Refit

/-- The result of a step from one world to a later one. -/
structure StepResult.Sound (w w' : World) (r : StepResult) : Prop where
  output : ResultOnly w'.Made r.output
  standIn : ∀ i, r.standIn = some i →
    r.output = .ok (.object i) ∧ w.heap.nextId ≤ i.id ∧ w'.heap.isStandIn i = true

theorem StepResult.Sound.of_output
    {w w' : World} {output : Except Fault Value} {adapted : Option String}
    (houtput : ResultOnly w'.Made output) :
    StepResult.Sound w w' ⟨output, adapted, none⟩ :=
  ⟨houtput, nofun⟩

theorem World.Closed.fault_yields {w : World} (hclosed : w.Closed) (fault : Fault) :
    w.Yields w.heap fun w' => ∀ result,
      (.ok (.fault fault) : Except Error StepResult) = .ok result → result.Sound w w' := by
  refine hclosed.stays fun result hresult => ?_
  cases hresult
  exact .of_output (resultOnly_error fault)

/-- All objects in what a run has put out so far have the property. -/
def Run.Only (P : Instance → Prop) (run : Run) : Prop :=
  ∀ row v, run.outputAt? row = some (.ok v) → v.Only P

/-- All objects in the values that a step is given have the property. -/
def Step.LiteralsOnly (P : Instance → Prop) (s : Step) : Prop :=
  ∀ v, .literal v ∈ s.inputs → v.Only P

namespace Runner

variable {p : Runner} {w : World}

section Inputs

variable {P : Instance → Prop} {run : Run}

theorem outputAt?_of_earlierOutput
    {position : ℕ} {v : Value} (hv : earlierOutput run position = .ok v) :
    run.outputAt? position = some (.ok v) := by
  unfold earlierOutput at hv
  split at hv
  · next houtput =>
    cases hv
    exact houtput
  · cases hv
  · cases hv

theorem receiverOf_only
    (hrun : run.Only P) {s : Step} {receiver : Option Value}
    (hreceiver : receiverOf run s = .ok receiver) : ∀ v ∈ receiver, v.Only P := by
  unfold receiverOf at hreceiver
  split at hreceiver
  · next position _ =>
    obtain ⟨v, hv, rfl⟩ := exists_of_map_eq_ok hreceiver
    intro _ hmem
    cases hmem
    exact hrun position v (outputAt?_of_earlierOutput hv)
  · cases hreceiver
    simp

theorem inputsOf_only
    (hrun : run.Only P) {inputs : List StepInput} {values : List Value}
    (hliterals : ∀ v, .literal v ∈ inputs → v.Only P)
    (hvalues : inputsOf run inputs = .ok values) : ∀ v ∈ values, v.Only P := by
  induction inputs generalizing values with
  | nil =>
      cases hvalues
      simp
  | cons input rest ih =>
      have hrest := fun v hv => hliterals v (List.mem_cons_of_mem _ hv)
      cases input with
      | literal v =>
          obtain ⟨others, hothers, rfl⟩ := exists_of_map_eq_ok hvalues
          intro u hu
          rcases List.mem_cons.mp hu with rfl | hu
          · exact hliterals u List.mem_cons_self
          · exact ih hrest hothers u hu
      | ref position =>
          simp only [inputsOf] at hvalues
          split at hvalues
          · cases hvalues
          next v hv =>
          obtain ⟨others, hothers, rfl⟩ := exists_of_map_eq_ok hvalues
          intro u hu
          rcases List.mem_cons.mp hu with rfl | hu
          · exact hrun position u (outputAt?_of_earlierOutput hv)
          · exact ih hrest hothers u hu

theorem context_only
    (hrun : run.Only P) (hnames : ∀ entry ∈ p.names, entry.2.Only P) :
    (p.context run).Only P := by
  refine ⟨fun entry hentry => ?_, hnames⟩
  obtain ⟨s, hs, hvalue⟩ := List.mem_filterMap.mp hentry
  obtain ⟨v, hv, rfl⟩ := Option.map_eq_some_iff.mp hvalue
  obtain ⟨row, hrow⟩ := List.getElem?_of_mem hs
  refine hrun row v ?_
  unfold RunStep.value? at hv
  split at hv
  · next output houtput =>
    cases hv
    unfold Run.outputAt?
    rw [hrow]
    exact houtput
  · cases hv

end Inputs

section Calls

variable {inputs : List Value}

theorem callAsIs_yields
    (hhonest : p.host.Honest w) (hclosed : w.Closed) (m : Member)
    {receiver : Option Instance} (hreceiver : ∀ i ∈ receiver, w.Made i)
    (hinputs : ∀ v ∈ inputs, v.Only w.Made) :
    w.Yields (p.callAsIs m receiver inputs w.heap).2 fun w' =>
      ∀ result, (p.callAsIs m receiver inputs w.heap).1 = .ok result →
        result.Sound w w' := by
  unfold callAsIs
  split
  · split
    · exact hclosed.stays nofun
    · exact hclosed.fault_yields _
  next handle _ =>
  have hyields := handle.invoke_yields hhonest hclosed p.deadline hreceiver hinputs
  refine hyields.mono fun w' _ _ honly result hresult => ?_
  cases hresult
  exact .of_output honly

theorem constructComponent_yields
    (hhonest : p.host.Honest w) (hclosed : w.Closed) (typeName : String)
    (hinputs : ∀ v ∈ inputs, v.Only w.Made) :
    w.Yields (p.constructComponent typeName inputs w.heap).2 fun w' =>
      ∀ result, (p.constructComponent typeName inputs w.heap).1 = .ok result →
        result.Sound w w' := by
  unfold constructComponent
  split
  · exact hclosed.fault_yields _
  · exact callAsIs_yields hhonest hclosed _ (by simp) hinputs

theorem callComponent_yields
    (hhonest : p.host.Honest w) (hclosed : w.Closed) (typeName method : String)
    {receiver : Option Value} (hreceiver : ∀ v ∈ receiver, v.Only w.Made)
    (hinputs : ∀ v ∈ inputs, v.Only w.Made) :
    w.Yields (p.callComponent typeName method receiver inputs w.heap).2 fun w' =>
      ∀ result, (p.callComponent typeName method receiver inputs w.heap).1 = .ok result →
        result.Sound w w' := by
  unfold callComponent
  simp only
  split
  · split
    · exact hclosed.fault_yields _
    · exact callAsIs_yields hhonest hclosed _ (by simp) hinputs
  · next i =>
    split
    · exact hclosed.fault_yields _
    · refine callAsIs_yields hhonest hclosed _ (fun j hj => ?_) hinputs
      cases hj
      exact Value.only_object.mp (hreceiver _ rfl)
  · exact hclosed.fault_yields _
  · exact hclosed.fault_yields _

theorem callAdapted_yields
    (hhonest : p.host.Honest w) (hclosed : w.Closed) (typeName method : String)
    {receiver : Option Value} (hreceiver : ∀ v ∈ receiver, v.Only w.Made)
    (hinputs : ∀ v ∈ inputs, v.Only w.Made) :
    w.Yields (p.callAdapted typeName method receiver inputs w.heap).2 fun w' =>
      (p.callAdapted typeName method receiver inputs w.heap).1.Sound w w' := by
  have hfault : ∀ fault adapted, w.Yields w.heap fun w' =>
      StepResult.Sound w w' ⟨.error fault, adapted, none⟩ :=
    fun fault _ => hclosed.stays (.of_output (resultOnly_error fault))
  unfold callAdapted
  split
  · exact hfault _ _
  next number _ =>
  split
  · exact hfault _ _
  next handle _ =>
  simp only
  split
  · have hyields :=
      handle.invoke_yields hhonest hclosed p.deadline (fun _ => nofun : ∀ i ∈ none, w.Made i)
        hinputs
    exact hyields.mono fun _ _ _ honly => .of_output honly
  · exact hfault _ _
  · split
    · next i =>
      split
      · have hi := Value.only_object.mp (hreceiver _ rfl)
        have hyields := StandIn.dispatch_yields hhonest hclosed hi number p.deadline hinputs
        exact hyields.mono fun _ _ _ honly => .of_output honly
      · exact hfault _ _
    · exact hfault _ _

theorem constructAdapted_yields
    (hhonest : p.host.Honest w) (hclosed : w.Closed) (typeName : String)
    (hinputs : ∀ v ∈ inputs, v.Only w.Made) :
    w.Yields (p.constructAdapted typeName inputs w.heap).2 fun w' =>
      (p.constructAdapted typeName inputs w.heap).1.Sound w w' := by
  unfold constructAdapted
  split
  · exact hclosed.stays (.of_output (resultOnly_error _))
  next number _ =>
  have hyields := StandIn.construct_yields hhonest hclosed p.binding number
    p.interface.name p.deadline hinputs
  simp only
  split
  · next i after hmade =>
    rw [hmade] at hyields
    refine hyields.mono fun w' _ _ hnew => ?_
    obtain ⟨hi, hid, hstandIn⟩ := hnew i rfl
    refine ⟨fun v hv => ?_, fun j hj => ?_⟩
    · cases hv
      exact Value.only_object.mpr hi
    · cases hj
      exact ⟨rfl, hid, hstandIn⟩
  · next fault after hmade =>
    rw [hmade] at hyields
    exact hyields.mono fun _ _ _ _ => .of_output (resultOnly_error fault)

end Calls

theorem runStep_yields
    (hhonest : p.host.Honest w) (hclosed : w.Closed) {run : Run} {s : Step}
    (hnames : ∀ entry ∈ p.names, entry.2.Only w.Made) (hrun : run.Only w.Made)
    {receiver : Option Value} {inputs : List Value}
    (hreceiver : ∀ v ∈ receiver, v.Only w.Made) (hinputs : ∀ v ∈ inputs, v.Only w.Made) :
    w.Yields (p.runStep run s receiver inputs w.heap).2 fun w' =>
      ∀ result, (p.runStep run s receiver inputs w.heap).1 = .ok result →
        result.Sound w w' := by
  unfold runStep
  split
  · next typeName _ =>
    split
    · have hyields := constructAdapted_yields hhonest hclosed typeName hinputs
      refine hyields.mono fun w' _ _ hsound result hresult => ?_
      cases hresult
      exact hsound
    · exact constructComponent_yields hhonest hclosed typeName hinputs
  · next typeName method _ _ =>
    split
    · have hyields :=
        callAdapted_yields hhonest hclosed typeName method hreceiver hinputs
      refine hyields.mono fun w' _ _ hsound result hresult => ?_
      cases hresult
      exact hsound
    · exact callComponent_yields hhonest hclosed typeName method hreceiver hinputs
  · next text _ =>
    refine hclosed.stays fun result hresult => ?_
    cases hresult
    refine .of_output fun v hv => ?_
    exact Expression.evaluate_only (context_only hrun hnames) hv

theorem performAt_yields
    (hhonest : p.host.Honest w) (hclosed : w.Closed) {run : Run} {s : Step}
    (hnames : ∀ entry ∈ p.names, entry.2.Only w.Made) (hrun : run.Only w.Made)
    (hliterals : s.LiteralsOnly w.Made) :
    w.Yields (p.performAt ⟨run, s, w.heap⟩).2 fun w' =>
      ∀ result, (p.performAt ⟨run, s, w.heap⟩).1 = .ok result → result.Sound w w' := by
  unfold performAt perform
  split
  · exact hclosed.fault_yields _
  · exact hclosed.fault_yields _
  · next receiver inputs hreceiver hinputs =>
    exact runStep_yields hhonest hclosed hnames hrun (receiverOf_only hrun hreceiver)
      (inputsOf_only hrun hliterals hinputs)

end Runner

end Refit
