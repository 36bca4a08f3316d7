import Refit.Proofs.Execution.Calls
import Refit.Proofs.Execution.StandIns

/-!
# Where faults come from

A binding that fits its interface has a handle for whatever a step of the
interface asks for, each position lies within the inputs, and a receiver is there
when one is needed.  What may still fault is named: values that a conversion
refuses, the code of a member, and receivers that are no stand-ins.
-/

namespace Refit

/-- The faults of a call that the glue does not raise itself: an input or a
result that a conversion refuses, and what the code of the member comes to. -/
inductive Handle.OutsideFault (h : Handle) (host : Host)
    (receiver : Option Instance) (inputs : List Value) (deadline : Deadline)
    (heap : Heap) : Fault → Prop
  | input {position conversion v f}
      (hfeed : (position, conversion) ∈ h.positions.zip h.conversions)
      (hinput : inputs[position]? = some v)
      (hrefused : conversion.apply v = .error f) :
      OutsideFault h host receiver inputs deadline heap f
  | code {call : ForeignCall} {entry f}
      (hcall : h.call? receiver inputs = some call)
      (hentry : host.entryPoint h.member = .ok entry)
      (hfault :
        (entry call.receiver call.args heap).1.outcome deadline = .error f) :
      OutsideFault h host receiver inputs deadline heap f
  | result {call : ForeignCall} {entry v f}
      (hcall : h.call? receiver inputs = some call)
      (hentry : host.entryPoint h.member = .ok entry)
      (hvalue : (entry call.receiver call.args heap).1.outcome deadline = .ok v)
      (hrefused : h.returnConversion.apply v = .error f) :
      OutsideFault h host receiver inputs deadline heap f

namespace Handle

variable {h : Handle} {host : Host} {receiver : Option Instance}
  {inputs : List Value} {deadline : Deadline} {heap : Heap} {f : Fault}

theorem arguments_eq_error
    {feeds : List (ℕ × Conversion)}
    (hbelow : ∀ feed ∈ feeds, feed.1 < inputs.length)
    (hfault : h.arguments inputs feeds = .error f) :
    ∃ position conversion v, (position, conversion) ∈ feeds ∧
      inputs[position]? = some v ∧ conversion.apply v = .error f := by
  induction feeds with
  | nil => cases hfault
  | cons feed feeds ih =>
      obtain ⟨position, conversion⟩ := feed
      have hlt : position < inputs.length := hbelow _ List.mem_cons_self
      have hinput : inputs[position]? = some inputs[position] :=
        List.getElem?_eq_getElem hlt
      have hargument : h.argument inputs position conversion =
          conversion.apply inputs[position] := by
        simp [argument, hinput]
      simp only [arguments, hargument] at hfault
      split at hfault
      · next hrefused =>
        cases hfault
        exact ⟨position, conversion, _, List.mem_cons_self, hinput, hrefused⟩
      split at hfault
      · next hrest =>
        cases hfault
        obtain ⟨place, step, v, hmem, hv, hrefused⟩ :=
          ih (fun feed hfeed => hbelow feed (List.mem_cons_of_mem _ hfeed)) hrest
        exact ⟨place, step, v, List.mem_cons_of_mem _ hmem, hv, hrefused⟩
      · cases hfault

theorem marshal_eq_error
    (hbelow : ∀ position ∈ h.positions, position < inputs.length)
    (hfault : h.marshal inputs = .error f) :
    h.OutsideFault host receiver inputs deadline heap f := by
  obtain ⟨position, conversion, v, hfeed, hinput, hrefused⟩ :=
    arguments_eq_error
      (fun feed hfeed => hbelow feed.1 (List.of_mem_zip hfeed).1) hfault
  exact .input hfeed hinput hrefused

theorem run_eq_error
    {call : ForeignCall} (hcall : h.call? receiver inputs = some call)
    (hlinked : ∃ entry, host.entryPoint h.member = .ok entry)
    (hfault : (call.run host deadline heap).1 = .error f) :
    h.OutsideFault host receiver inputs deadline heap f := by
  obtain ⟨entry, hentry⟩ := hlinked
  obtain ⟨rfl, -⟩ := marshal_of_call? hcall
  unfold ForeignCall.run run at hfault
  simp only [hentry] at hfault
  split at hfault
  · next houtcome =>
    cases hfault
    exact .code hcall hentry houtcome
  · next v houtcome => exact .result hcall hentry houtcome hfault

theorem invoke_eq_error
    (hbelow : ∀ position ∈ h.positions, position < inputs.length)
    (hlinked : ∃ entry, host.entryPoint h.member = .ok entry)
    (hreceiver : h.needsReceiver = true → receiver ≠ none)
    (hfault : (h.invoke host receiver inputs deadline heap).1 = .error f) :
    h.OutsideFault host receiver inputs deadline heap f := by
  cases hcall : h.call? receiver inputs with
  | some call =>
      rw [invoke_of_call? hcall] at hfault
      exact run_eq_error hcall hlinked hfault
  | none =>
      unfold call? at hcall
      unfold invoke at hfault
      split at hcall
      · next hrefused =>
        rw [hrefused] at hfault
        cases hfault
        exact marshal_eq_error hbelow hrefused
      split at hcall
      · next hneeds =>
        exact absurd (Option.map_eq_none_iff.mp hcall) (hreceiver hneeds)
      · cases hcall

end Handle

/-- A construction with that many inputs is declared. -/
def Interface.DeclaresConstructor (i : Interface) (arity : ℕ) : Prop :=
  (i.constructors = [] ∧ arity = 0) ∨
    ∃ wanted ∈ i.constructors, wanted.arity = arity

def Interface.DeclaresMethod (i : Interface) (name : String) (arity : ℕ) : Prop :=
  ∃ wanted ∈ i.methods, wanted.name = name ∧ wanted.arity = arity

theorem Interface.exists_methodNumber?
    {i : Interface} {name : String} {arity : ℕ}
    (hdeclared : i.DeclaresMethod name arity) :
    ∃ number wanted, i.methodNumber? name arity = some number ∧
      i.methods[number]? = some wanted ∧ wanted.arity = arity := by
  obtain ⟨wanted, hwanted, hname, harity⟩ := hdeclared
  have hfound : (i.methodNumber? name arity).isSome = true := by
    unfold methodNumber?
    rw [List.findIdx?_isSome, List.any_eq_true]
    exact ⟨wanted, hwanted, by simp [hname, harity]⟩
  obtain ⟨number, hnumber⟩ := Option.isSome_iff_exists.mp hfound
  obtain ⟨hlt, hmatch, -⟩ := List.findIdx?_eq_some_iff_getElem.mp hnumber
  rw [Bool.and_eq_true, beq_iff_eq, beq_iff_eq] at hmatch
  exact ⟨number, _, hnumber, List.getElem?_eq_getElem hlt, hmatch.2⟩

/-- The binding has what the steps of the interface ask for. -/
structure Binding.Fits (b : Binding) (host : Host) (i : Interface) : Prop where
  method : ∀ (number : ℕ) (wanted : Operation),
    i.methods[number]? = some wanted →
      ∃ h, b.methods[number]? = some h ∧
        ∀ position ∈ h.positions, position < wanted.arity
  initializer : ∀ arity, i.DeclaresConstructor arity →
    ∃ number init, b.adapter.initializerTaking? i arity = some number ∧
      b.initializers[number]? = some init ∧
      ∀ h, init = some h → ∀ position ∈ h.positions, position < arity
  methods_linked : ∀ h ∈ b.methods,
    ∃ entry, host.entryPoint h.member = .ok entry
  initializers_linked : ∀ h, some h ∈ b.initializers →
    h.needsReceiver = false ∧ ∃ entry, host.entryPoint h.member = .ok entry
  static : b.StaticIfBare

namespace Runner

/-- The step at hand is one that the interface declares. -/
def Declares (p : Runner) (m : Moment) : Prop :=
  match m.step.kind with
  | .construct typeName =>
    typeName = p.interface.name ∧
      p.interface.DeclaresConstructor m.step.inputs.length
  | .call typeName method _ =>
    (typeName = p.interface.name ∨
      ∃ receiver, m.receiver = .ok receiver ∧
        isStandIn m.heap receiver = true) ∧
      p.interface.DeclaresMethod method m.step.inputs.length
  | .eval _ => False

/-- The step at hand is called on this object, a stand-in of another binding. -/
def OnAlien (p : Runner) (m : Moment) (i : Instance) : Prop :=
  ∃ s, m.receiver = .ok (some (.object i)) ∧
    m.heap.standIn? i = some s ∧ ¬ s.Serves p.binding

/-- The faults of a step through the adapter that are not the doing of the glue: those of
what the step refers to, of the object that it is called on, and of foreign code. -/
inductive OutsideFault (p : Runner) (m : Moment) : Fault → Prop
  | receiver {f} (hfault : m.receiver = .error f) : OutsideFault p m f
  | inputs {f} (hfault : m.inputs = .error f) : OutsideFault p m f
  | construction {inputs number h f} (hinputs : m.inputs = .ok inputs)
      (hnumber : p.binding.adapter.initializerTaking? p.interface
        inputs.length = some number)
      (hhandle : p.binding.initializers[number]? = some (some h))
      (hfault : h.OutsideFault p.host none (m.heap.unwrapAll inputs) p.deadline
        m.heap f) :
      OutsideFault p m f
  /-- The code of a constructor returned something else. -/
  | noInstance {inputs number} {h : Handle} {v after}
      (hinputs : m.inputs = .ok inputs)
      (hnumber : p.binding.adapter.initializerTaking? p.interface
        inputs.length = some number)
      (hhandle : p.binding.initializers[number]? = some (some h))
      (hmade : h.invoke p.host none (m.heap.unwrapAll inputs) p.deadline m.heap =
        (.ok v, after))
      (hother : v.instance? = none) :
      OutsideFault p m (StandIn.noInstance h.member.text v)
  | receiverless {typeName method position inputs number h f}
      (hkind : m.step.kind = .call typeName method position)
      (hreceiver : m.receiver = .ok none) (hinputs : m.inputs = .ok inputs)
      (hnumber : p.interface.methodNumber? method inputs.length = some number)
      (hhandle : p.binding.methods[number]? = some h)
      (hfault : h.OutsideFault p.host none inputs p.deadline m.heap f) :
      OutsideFault p m f
  /-- A method of an object was called on no object. -/
  | noReceiver {typeName method position inputs number} {h : Handle}
      (hkind : m.step.kind = .call typeName method position)
      (hreceiver : m.receiver = .ok none) (hinputs : m.inputs = .ok inputs)
      (hnumber : p.interface.methodNumber? method inputs.length = some number)
      (hhandle : p.binding.methods[number]? = some h)
      (hneeds : h.needsReceiver = true) :
      OutsideFault p m
        (.nullPointer (h.member.text ++ " called without a receiver"))
  | onNull {typeName method position}
      (hkind : m.step.kind = .call typeName method position)
      (hreceiver : m.receiver = .ok (some .null)) :
      OutsideFault p m (onNull typeName method)
  | notStandIn {typeName method position v}
      (hkind : m.step.kind = .call typeName method position)
      (hreceiver : m.receiver = .ok (some v))
      (hother : isStandIn m.heap (some v) = false) :
      OutsideFault p m (.classCast (v.render ++ " is not a " ++ typeName))
  | dispatch {typeName method position i s inputs number h f}
      (hkind : m.step.kind = .call typeName method position)
      (hreceiver : m.receiver = .ok (some (.object i)))
      (hinputs : m.inputs = .ok inputs) (hs : m.heap.standIn? i = some s)
      (hnumber : p.interface.methodNumber? method inputs.length = some number)
      (hhandle : s.methods[number]? = some h)
      (hfault : h.OutsideFault p.host s.adaptee (m.heap.unwrapAll inputs)
        p.deadline m.heap f) :
      OutsideFault p m f
  /-- The foreign code has lost or poisoned the stand-in that it was called on. -/
  | lost {i s inputs f} {h : Handle} {result after}
      (hreceiver : m.receiver = .ok (some (.object i)))
      (hinputs : m.inputs = .ok inputs) (hs : m.heap.standIn? i = some s)
      (hmade : h.invoke p.host s.adaptee (m.heap.unwrapAll inputs) p.deadline
        m.heap = (result, after))
      (hlost : after.standIn i = .error f) :
      OutsideFault p m f

variable {p : Runner} {m : Moment}

theorem constructAdapted_fault
    (hfits : p.binding.Fits p.host p.interface) {inputs : List Value}
    (hinputs : m.inputs = .ok inputs)
    (hdeclared : p.interface.DeclaresConstructor inputs.length)
    {typeName : String} {f : Fault}
    (hfault : (p.constructAdapted typeName inputs m.heap).1.output = .error f) :
    p.OutsideFault m f := by
  obtain ⟨number, init, hnumber, hinit, hbelow⟩ :=
    hfits.initializer inputs.length hdeclared
  cases init with
  | none =>
      simp [constructAdapted, StandIn.construct, StandIn.makeAdaptee, hnumber,
        hinit] at hfault
  | some h =>
      obtain ⟨hneeds, hlinked⟩ :=
        hfits.initializers_linked h (List.mem_of_getElem? hinit)
      have hpositions : ∀ position ∈ h.positions,
          position < (m.heap.unwrapAll inputs).length := by
        rw [Heap.length_unwrapAll]
        exact hbelow h rfl
      simp only [constructAdapted, StandIn.construct, StandIn.makeAdaptee,
        hnumber, hinit] at hfault
      rcases hmade : h.invoke p.host none (m.heap.unwrapAll inputs) p.deadline
        m.heap with ⟨made, after⟩
      rw [hmade] at hfault
      cases made with
      | error fault =>
          simp only [Except.error.injEq] at hfault
          subst hfault
          refine .construction hinputs hnumber hinit ?_
          exact Handle.invoke_eq_error hpositions hlinked
            (by simp [hneeds]) (by rw [hmade])
      | ok v =>
          cases v with
          | object i => cases hfault
          | null | void | bool | char | byte | short | int | long | float
          | double | text | array | list =>
              cases hfault
              exact .noInstance hinputs hnumber hinit hmade rfl

theorem dispatch_fault
    (hfits : p.binding.Fits p.host p.interface)
    {typeName method : String} {position : Option ℕ}
    (hkind : m.step.kind = .call typeName method position)
    {i : Instance} {s : StandIn} (hreceiver : m.receiver = .ok (some (.object i)))
    (hs : m.heap.standIn? i = some s) (hserves : s.Serves p.binding)
    {inputs : List Value} (hinputs : m.inputs = .ok inputs)
    {number : ℕ} {wanted : Operation}
    (hnumber : p.interface.methodNumber? method inputs.length = some number)
    (hwanted : p.interface.methods[number]? = some wanted)
    (harity : wanted.arity = inputs.length) {f : Fault}
    (hfault :
      (StandIn.dispatch p.host i number inputs p.deadline m.heap).1 = .error f) :
    p.OutsideFault m f := by
  obtain ⟨hmethods, hadaptee⟩ := hserves
  obtain ⟨h, hhandle, hbelow⟩ := hfits.method number wanted hwanted
  have hmem : h ∈ p.binding.methods := List.mem_of_getElem? hhandle
  rw [← hmethods] at hhandle
  have hpositions : ∀ position ∈ h.positions,
      position < (m.heap.unwrapAll inputs).length := by
    rw [Heap.length_unwrapAll, ← harity]
    exact hbelow
  have hpresent : h.needsReceiver = true → s.adaptee ≠ none := by
    intro hneeds hnone
    rw [hadaptee hnone h hmem] at hneeds
    cases hneeds
  rcases hmade : h.invoke p.host s.adaptee (m.heap.unwrapAll inputs) p.deadline
    m.heap with ⟨result, after⟩
  simp only [StandIn.dispatch, Heap.standIn_eq_ok.mpr hs, hhandle, hmade]
    at hfault
  split at hfault
  · next hlost =>
    cases hfault
    exact .lost hreceiver hinputs hs hmade hlost
  · cases result with
    | ok v => cases hfault
    | error fault =>
        cases hfault
        refine .dispatch hkind hreceiver hinputs hs hnumber hhandle ?_
        exact Handle.invoke_eq_error hpositions (hfits.methods_linked h hmem)
          hpresent (by rw [hmade])

theorem receiverless_fault
    (hfits : p.binding.Fits p.host p.interface)
    {typeName method : String} {position : Option ℕ}
    (hkind : m.step.kind = .call typeName method position)
    (hreceiver : m.receiver = .ok none)
    {inputs : List Value} (hinputs : m.inputs = .ok inputs)
    {number : ℕ} (hnumber : p.interface.methodNumber? method inputs.length =
      some number)
    {h : Handle} (hhandle : p.binding.methods[number]? = some h)
    (hbelow : ∀ position ∈ h.positions, position < inputs.length) {f : Fault}
    (hfault : (h.invoke p.host none inputs p.deadline m.heap).1 = .error f) :
    p.OutsideFault m f := by
  have hlinked := hfits.methods_linked h (List.mem_of_getElem? hhandle)
  cases hneeds : h.needsReceiver with
  | false =>
      exact .receiverless hkind hreceiver hinputs hnumber hhandle
        (Handle.invoke_eq_error hbelow hlinked (by simp [hneeds]) hfault)
  | true =>
      unfold Handle.invoke at hfault
      split at hfault
      · next hrefused =>
        cases hfault
        exact .receiverless hkind hreceiver hinputs hnumber hhandle
          (Handle.marshal_eq_error hbelow hrefused)
      · rw [if_pos hneeds] at hfault
        cases hfault
        exact .noReceiver hkind hreceiver hinputs hnumber hhandle hneeds

theorem callAdapted_fault
    (hfits : p.binding.Fits p.host p.interface) (hown : ∀ i, ¬ p.OnAlien m i)
    {typeName method : String} {position : Option ℕ}
    (hkind : m.step.kind = .call typeName method position)
    {receiver : Option Value} (hreceiver : m.receiver = .ok receiver)
    {inputs : List Value} (hinputs : m.inputs = .ok inputs)
    (hdeclared : p.interface.DeclaresMethod method inputs.length) {f : Fault}
    (hfault :
      (p.callAdapted typeName method receiver inputs m.heap).1.output =
        .error f) :
    p.OutsideFault m f := by
  obtain ⟨number, wanted, hnumber, hwanted, harity⟩ :=
    Interface.exists_methodNumber? hdeclared
  obtain ⟨h, hhandle, hbelow⟩ := hfits.method number wanted hwanted
  rw [harity] at hbelow
  simp only [callAdapted, hnumber, hhandle] at hfault
  cases receiver with
  | none =>
      exact receiverless_fault hfits hkind hreceiver hinputs hnumber hhandle
        hbelow hfault
  | some v =>
      cases v with
      | null =>
          cases hfault
          exact .onNull hkind hreceiver
      | object i =>
          simp only at hfault
          split at hfault
          · next hstandIn =>
            obtain ⟨s, hs⟩ := Option.isSome_iff_exists.mp hstandIn
            have hserves : s.Serves p.binding := by
              by_contra halien
              exact hown i ⟨s, hreceiver, hs, halien⟩
            exact dispatch_fault hfits hkind hreceiver hs hserves hinputs hnumber
              hwanted harity hfault
          · next hother =>
            cases hfault
            exact .notStandIn hkind hreceiver (by simpa [isStandIn] using hother)
      | void | bool | char | byte | short | int | long | float | double | text
      | array | list =>
          cases hfault
          exact .notStandIn hkind hreceiver rfl

/-- No step that the interface declares ends in a fault of the glue itself. -/
theorem performAt_fault
    (hfits : p.binding.Fits p.host p.interface) (hdeclares : p.Declares m)
    (hown : ∀ i, ¬ p.OnAlien m i) {result : StepResult} {after : Heap} {f : Fault}
    (hperform : p.performAt m = (.ok result, after))
    (hfault : result.output = .error f) : p.OutsideFault m f := by
  unfold performAt perform at hperform
  split at hperform
  · next hreceiver =>
    cases hperform
    cases hfault
    exact .receiver hreceiver
  · next hreceiver hinputs =>
    cases hperform
    cases hfault
    exact .inputs hinputs
  next receiver inputs hreceiver hinputs =>
  have hlength := length_inputsOf hinputs
  unfold Declares at hdeclares
  unfold runStep at hperform
  split at hdeclares
  · next typeName hkind =>
    obtain ⟨hname, hdeclared⟩ := hdeclares
    simp only [hkind, if_pos hname] at hperform
    cases hperform
    rw [← hlength] at hdeclared
    exact constructAdapted_fault hfits hinputs hdeclared hfault
  · next typeName method position hkind =>
    obtain ⟨hpath, hdeclared⟩ := hdeclares
    have hthrough :
        (typeName = p.interface.name || isStandIn m.heap receiver) = true := by
      rcases hpath with hname | ⟨other, hother, hstandIn⟩
      · simp [hname]
      · rw [hreceiver] at hother
        cases hother
        simp [hstandIn]
    simp only [hkind, if_pos hthrough] at hperform
    cases hperform
    rw [← hlength] at hdeclared
    exact callAdapted_fault hfits hown hkind hreceiver hinputs hdeclared hfault
  · exact hdeclares.elim

end Runner

end Refit
