import Refit.Proofs.Execution.Discretion

/-!
# Calls on stand-ins

A step that calls a declared method on a stand-in and has all its inputs is answered by
the member that the binding has for the method, and an entry goes to the end of the log.
Apart from that a step leaves a stand-in as it is, if discreet code does not call it.  A
stand-in begins with an empty log.
-/

namespace Refit

/-- The number of the method that a call asks for, if the interface declares it. -/
def Interface.declared? (interface : Interface) (s : Step) : Option ℕ :=
  match s.kind with
  | .call _ method _ => interface.methodNumber? method s.inputs.length
  | _ => none

namespace RunStep

def isOn (i : Instance) (s : RunStep) : Bool :=
  match s.target with
  | some (.object j) => j.id == i.id
  | _ => false

/-- No input was missing; a step with a missing input is recorded without inputs. -/
def hasInputs (s : RunStep) : Bool := s.inputs.length == s.step.inputs.length

/-- A call on the object of a declared method, with all its inputs. -/
def isCallOn (interface : Interface) (i : Instance) (s : RunStep) : Bool :=
  s.isOn i && s.hasInputs && (interface.declared? s.step).isSome

/-- The entry tells of the step: the method that it asked for, the member that served it
and what it put out. -/
structure Logged (interface : Interface) (s : RunStep) (call : LoggedCall) : Prop where
  method : interface.declared? s.step = some call.method
  member : s.adapted = some call.member
  output : s.output = some call.output

end RunStep

namespace Runner

variable {p : Runner}

section Step

variable {m : Moment} {i : Instance} {foreign : LoggedCall → Prop}

theorem target_preparedAt {v : Value} :
    (p.preparedAt m).target = some v ↔ m.receiver = .ok (some v) := by
  unfold preparedAt prepared
  cases m.receiver <;> simp

theorem isOn_preparedAt :
    (p.preparedAt m).isOn i = true ↔
      ∃ j : Instance, j.id = i.id ∧ m.receiver = .ok (some (.object j)) := by
  unfold RunStep.isOn
  constructor
  · intro hon
    split at hon
    · next j htarget => exact ⟨j, by simpa using hon, target_preparedAt.mp htarget⟩
    · cases hon
  · rintro ⟨j, hid, hreceiver⟩
    rw [target_preparedAt.mpr hreceiver]
    simpa using hid

theorem hasInputs_preparedAt :
    (p.preparedAt m).hasInputs = true ↔ ∃ inputs, m.inputs = .ok inputs := by
  unfold RunStep.hasInputs preparedAt prepared
  cases hinputs : m.inputs with
  | ok inputs => simp [length_inputsOf hinputs]
  | error fault =>
      -- A step that has no inputs misses none.
      cases hstep : m.step.inputs with
      | nil =>
          unfold Moment.inputs at hinputs
          rw [hstep] at hinputs
          cases hinputs
      | cons => simp

/-- No other step writes to the log itself. -/
theorem performAt_keeps (hdiscreet : p.host.Discreet i foreign)
    (hother : (p.preparedAt m).isCallOn p.interface i = false) :
    Heap.Keeps i foreign m.heap (p.performAt m).2 := by
  apply (carries_keeps hdiscreet).performAt m
  intro j inputs typeName method position hreceiver hinputs hkind hdeclared h call
  apply Heap.keeps_log
  intro hid
  exfalso
  have hon : (p.preparedAt m).isOn i = true := isOn_preparedAt.mpr ⟨j, hid.symm, hreceiver⟩
  have hall : (p.preparedAt m).hasInputs = true := hasInputs_preparedAt.mpr ⟨inputs, hinputs⟩
  have hasked : (p.interface.declared? m.step).isSome = true := by
    unfold Interface.declared?
    rw [hkind, ← length_inputsOf hinputs]
    exact hdeclared
  have hcall : (p.preparedAt m).isCallOn p.interface i = true := by
    unfold RunStep.isCallOn
    rw [hon, hall]
    exact hasked
  rw [hcall] at hother
  cases hother

/-- What the member behind the object gives back, as the runner asks it. -/
def answer (p : Runner) (m : Moment) (i : Instance) (handle : Handle) (inputs : List Value) :
    Except Fault Value :=
  (handle.invoke p.host (m.heap.adaptee? i) (m.heap.unwrapAll inputs) p.deadline m.heap).1

/-- The answer is the object behind itself. -/
def AnswersOwn (p : Runner) (m : Moment) (i : Instance) (handle : Handle)
    (inputs : List Value) : Prop :=
  ∃ own behind, p.answer m i handle inputs = .ok (.object own) ∧
    m.heap.adaptee? i = some behind ∧ own.id = behind.id

/-- The step asked the member behind the object.  Where that gave back what stands
behind, the step put out the object that it was called on. -/
structure AnsweredAt (p : Runner) (m : Moment) (i : Instance) (done : RunStep)
    (handle : Handle) (inputs : List Value) : Prop where
  step : done.step = m.step
  given : m.inputs = .ok inputs
  served : ∃ number, p.interface.declared? m.step = some number ∧
    p.binding.methods[number]? = some handle
  own : p.AnswersOwn m i handle inputs →
    ∃ j, j.id = i.id ∧ done.target = some (.object j) ∧ done.output = some (.ok (.object j))
  other : ¬ p.AnswersOwn m i handle inputs → done.output = some (p.answer m i handle inputs)

theorem map_hideAdaptee_own
    {m : Moment} {i j : Instance} {handle : Handle} {inputs : List Value}
    (hown : p.AnswersOwn m i handle inputs) :
    (p.answer m i handle inputs).map (StandIn.hideAdaptee j (m.heap.adaptee? i)) =
      .ok (.object j) := by
  rcases hown with ⟨own, behind, hanswer, hbehind, hid⟩
  rw [hanswer, hbehind]
  simp [Except.map, StandIn.hideAdaptee, hid]

theorem map_hideAdaptee_other
    {m : Moment} {i j : Instance} {handle : Handle} {inputs : List Value}
    (hother : ¬ p.AnswersOwn m i handle inputs) :
    (p.answer m i handle inputs).map (StandIn.hideAdaptee j (m.heap.adaptee? i)) =
      p.answer m i handle inputs := by
  cases hanswer : p.answer m i handle inputs with
  | error fault => rfl
  | ok v =>
      cases v with
      | object own =>
          cases hbehind : m.heap.adaptee? i with
          | none => rfl
          | some behind =>
              have hne : behind.id ≠ own.id := by
                intro hid
                exact hother ⟨own, behind, hanswer, hbehind, hid.symm⟩
              simp [Except.map, StandIn.hideAdaptee, hne]
      | _ => rfl

/-- A call that is handed on is logged with what comes of it, after the calls that the
member has made on the stand-in meanwhile. -/
theorem dispatch_logs (hdiscreet : p.host.Discreet i foreign)
    {heap : Heap} {j : Instance} {s : StandIn} {number : ℕ} {handle : Handle}
    (hid : j.id = i.id) (hfresh : i.id < heap.nextId) (hs : heap.standIn? i = some s)
    (hhandle : s.methods[number]? = some handle) (inputs : List Value) :
    ∃ after output, StandIn.dispatch p.host j number inputs p.deadline heap =
        (output, after) ∧
      output = ((handle.invoke p.host s.adaptee (heap.unwrapAll inputs) p.deadline heap).1).map
        (StandIn.hideAdaptee j s.adaptee) ∧
      heap.nextId ≤ after.nextId ∧
      ∃ added : List LoggedCall, (∀ call ∈ added, foreign call) ∧
        after.standIn? i = some { s with
          calls := s.calls ++ added ++ [⟨number, handle.member.text, output⟩] } := by
  have hkeeps := (carries_keeps hdiscreet).invoke handle s.adaptee
    (heap.unwrapAll inputs) p.deadline heap
  rcases hinvoke : handle.invoke p.host s.adaptee (heap.unwrapAll inputs) p.deadline heap with
    ⟨result, middle⟩
  rw [hinvoke] at hkeeps
  rcases hkeeps.standIn hfresh s hs with ⟨added, hforeign, hthere⟩
  have hbefore : heap.standIn j = .ok s :=
    Heap.standIn_eq_ok.mpr ((Heap.standIn?_congr hid).trans hs)
  have hmiddle : middle.standIn j = .ok { s with calls := s.calls ++ added } :=
    Heap.standIn_eq_ok.mpr ((Heap.standIn?_congr hid).trans hthere)
  have hdispatch : StandIn.dispatch p.host j number inputs p.deadline heap =
      (result.map (StandIn.hideAdaptee j s.adaptee), middle.log j
        ⟨number, handle.member.text, result.map (StandIn.hideAdaptee j s.adaptee)⟩) := by
    unfold StandIn.dispatch
    simp only [hbefore, hhandle, hinvoke, hmiddle]
  exact ⟨_, _, hdispatch, rfl, hkeeps.nextId, added, hforeign,
    Heap.standIn?_log hthere hid.symm _⟩

/-- A call of a declared method comes to the stand-in whatever type it names. -/
theorem performAt_of_standIn
    {j : Instance} {inputs : List Value} {number : ℕ} {handle : Handle}
    (hreceiver : m.receiver = .ok (some (.object j))) (hinputs : m.inputs = .ok inputs)
    (hstand : m.heap.isStandIn j = true) (hnumber : p.interface.declared? m.step = some number)
    (hhandle : p.binding.methods[number]? = some handle)
    {output : Except Fault Value} {after : Heap}
    (hdispatch : StandIn.dispatch p.host j number inputs p.deadline m.heap = (output, after)) :
    p.performAt m = (.ok ⟨output, some handle.member.text, none⟩, after) := by
  cases hkind : m.step.kind with
  | construct => simp [Interface.declared?, hkind] at hnumber
  | eval => simp [Interface.declared?, hkind] at hnumber
  | call typeName method position =>
      simp only [Interface.declared?, hkind] at hnumber
      rw [← length_inputsOf hinputs] at hnumber
      have hadapted : p.callAdapted typeName method (some (.object j)) inputs m.heap =
          (⟨output, some handle.member.text, none⟩, after) := by
        unfold callAdapted
        simp only [hnumber, hhandle, hstand, if_true, hdispatch]
      unfold performAt perform
      rw [hreceiver, hinputs]
      unfold runStep
      simp only [hkind, isStandIn, hstand, Bool.or_true, if_true, hadapted]

theorem lt_of_declared? {s : Step} {number : ℕ}
    (hnumber : p.interface.declared? s = some number) :
    number < p.interface.methods.length := by
  unfold Interface.declared? at hnumber
  split at hnumber
  · exact (List.findIdx?_eq_some_iff_getElem.mp hnumber).1
  · cases hnumber

/-- A call on a stand-in of the binding is answered and logged. -/
theorem performAt_logs (hdiscreet : p.host.Discreet i foreign)
    (hcount : p.binding.methods.length = p.interface.methods.length)
    {adaptee : Option Instance} {calls : List LoggedCall}
    (hfresh : i.id < m.heap.nextId)
    (hstandIn : m.heap.standIn? i = some ⟨p.binding.methods, adaptee, calls⟩)
    (hcall : (p.preparedAt m).isCallOn p.interface i = true)
    {result : StepResult} {after : Heap} (hperform : p.performAt m = (.ok result, after)) :
    ∃ call : LoggedCall, p.interface.declared? m.step = some call.method ∧
      result.adapted = some call.member ∧ result.output = call.output ∧
      m.heap.nextId ≤ after.nextId ∧
      (∃ added : List LoggedCall, (∀ call ∈ added, foreign call) ∧
        after.standIn? i =
          some ⟨p.binding.methods, adaptee, calls ++ added ++ [call]⟩) ∧
      ∃ handle inputs, p.binding.methods[call.method]? = some handle ∧
        m.inputs = .ok inputs ∧ ∃ j, j.id = i.id ∧
          m.receiver = .ok (some (.object j)) ∧
          result.output =
            (p.answer m i handle inputs).map (StandIn.hideAdaptee j (m.heap.adaptee? i)) := by
  simp only [RunStep.isCallOn, Bool.and_eq_true] at hcall
  rcases hcall with ⟨⟨hon, hall⟩, hdeclared⟩
  rcases isOn_preparedAt.mp hon with ⟨j, hid, hreceiver⟩
  rcases hasInputs_preparedAt.mp hall with ⟨inputs, hinputs⟩
  rcases Option.isSome_iff_exists.mp hdeclared with ⟨number, hnumber⟩
  have hhandle := List.getElem?_eq_getElem (hcount ▸ lt_of_declared? hnumber)
  have hstand : m.heap.isStandIn j = true := by
    unfold Heap.isStandIn
    rw [Heap.standIn?_congr hid, hstandIn]
    rfl
  have hadaptee : m.heap.adaptee? i = adaptee := by
    unfold Heap.adaptee?
    rw [hstandIn]
    rfl
  rcases dispatch_logs hdiscreet hid hfresh hstandIn hhandle inputs with
    ⟨later, output, hdispatch, houtput, hnext, added, hforeign, hlogged⟩
  rw [performAt_of_standIn hreceiver hinputs hstand hnumber hhandle hdispatch] at hperform
  cases hperform
  refine ⟨⟨number, _, output⟩, hnumber, rfl, rfl, hnext, ⟨added, hforeign, hlogged⟩, _, inputs,
    hhandle, hinputs, j, hid, hreceiver, ?_⟩
  unfold answer
  rw [hadaptee]
  exact houtput

end Step

section Making

variable {heap after : Heap} {inputs : List Value} {result : StepResult} {i : Instance}
  {foreign : LoggedCall → Prop}

theorem standIn_of_callAsIs
    {m : Member} {receiver : Option Instance}
    (hcall : p.callAsIs m receiver inputs heap = (.ok result, after)) :
    result.standIn = none := by
  unfold callAsIs at hcall
  split at hcall
  · split at hcall
    · cases hcall
    · cases hcall
      rfl
  · cases hcall
    rfl

theorem standIn_of_constructComponent
    {typeName : String}
    (hmade : p.constructComponent typeName inputs heap = (.ok result, after)) :
    result.standIn = none := by
  unfold constructComponent at hmade
  split at hmade
  · cases hmade
    rfl
  · exact standIn_of_callAsIs hmade

theorem standIn_of_callComponent
    {typeName method : String} {receiver : Option Value}
    (hcall : p.callComponent typeName method receiver inputs heap = (.ok result, after)) :
    result.standIn = none := by
  unfold callComponent at hcall
  simp only at hcall
  split at hcall
  · split at hcall
    · cases hcall
      rfl
    · exact standIn_of_callAsIs hcall
  · split at hcall
    · cases hcall
      rfl
    · exact standIn_of_callAsIs hcall
  · cases hcall
    rfl
  · cases hcall
    rfl

theorem standIn_callAdapted (typeName method : String) (receiver : Option Value) :
    (p.callAdapted typeName method receiver inputs heap).1.standIn = none := by
  unfold callAdapted
  split
  · rfl
  split
  · rfl
  simp only
  split
  · rfl
  · rfl
  · split
    · split <;> rfl
    · rfl

/-- A stand-in is made with the next number that is free, and with an empty log. -/
theorem standIn_constructAdapted (hdiscreet : p.host.Discreet i foreign) {typeName : String}
    (hmade : (p.constructAdapted typeName inputs heap).1.standIn = some i) :
    heap.nextId ≤ i.id ∧ i.id < (p.constructAdapted typeName inputs heap).2.nextId ∧
      ∃ adaptee, Heap.standIn? (p.constructAdapted typeName inputs heap).2 i =
        some ⟨p.binding.methods, adaptee, []⟩ := by
  unfold constructAdapted at hmade ⊢
  split at hmade
  · cases hmade
  next number _ =>
  simp only at hmade ⊢
  have hkeeps := (carries_keeps hdiscreet).makeAdaptee inputs p.deadline heap number
    p.interface.name
  unfold StandIn.construct at hmade ⊢
  rcases hadaptee : StandIn.makeAdaptee p.binding p.host number p.interface.name inputs
    p.deadline heap with ⟨fault | adaptee, middle⟩
  · rw [hadaptee] at hmade
    cases hmade
  · rw [hadaptee] at hmade hkeeps
    cases hmade
    refine ⟨hkeeps.nextId, Nat.lt_succ_self _, adaptee, ?_⟩
    rw [Heap.standIn?_eq_some]
    change Heap.entry? (middle.alloc p.interface.name _).2 _ = _
    rw [Heap.entry?_alloc]
    exact if_pos rfl

theorem standIn_of_performAt (hdiscreet : p.host.Discreet i foreign) {m : Moment}
    (hperform : p.performAt m = (.ok result, after)) (hmade : result.standIn = some i) :
    (p.preparedAt m).target = none ∧ m.heap.nextId ≤ i.id ∧ i.id < after.nextId ∧
      ∃ adaptee, after.standIn? i = some ⟨p.binding.methods, adaptee, []⟩ := by
  have hnone : result.standIn ≠ none := by
    rw [hmade]
    nofun
  unfold performAt perform at hperform
  split at hperform
  · cases hperform
    exact absurd rfl hnone
  · cases hperform
    exact absurd rfl hnone
  next target inputs htarget _ =>
  unfold runStep at hperform
  split at hperform
  · next typeName hkind =>
    split_ifs at hperform
    · cases hperform
      have hreceiver : m.receiver = .ok none := by
        unfold Moment.receiver receiverOf Step.receiver?
        rw [hkind]
      refine ⟨?_, standIn_constructAdapted hdiscreet hmade⟩
      unfold preparedAt prepared
      rw [hreceiver]
    · exact absurd (standIn_of_constructComponent hperform) hnone
  · split_ifs at hperform
    · cases hperform
      exact absurd (standIn_callAdapted _ _ _) hnone
    · exact absurd (standIn_of_callComponent hperform) hnone
  · cases hperform
    exact absurd rfl hnone

end Making

end Runner

end Refit
