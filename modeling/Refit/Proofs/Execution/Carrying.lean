import Refit.Execution.Script
import Refit.Proofs.Execution.Moments

/-!
# What is carried through a run

Between two steps the heap changes in few ways: foreign code runs, a stand-in is made, a
call is logged.  A relation between heaps that holds across each of these holds across
every step.  The log is kept apart, since a step writes at most to that of its receiver.
Scripted code in turn changes the heap in few ways of its own.
-/

namespace Refit

/-- What foreign code does to the heap and what making a stand-in does to it stays
within the relation. -/
structure Runner.Carries (p : Runner) (R : Heap → Heap → Prop) : Prop where
  refl : ∀ h, R h h
  trans : ∀ {h h' h''}, R h h' → R h' h'' → R h h''
  code : ∀ m entry, p.host.entryPoint m = .ok entry →
    ∀ receiver args h, R h (entry receiver args h).2
  made : ∀ h typeName adaptee, (adaptee = none → none ∈ p.binding.initializers) →
    R h (h.alloc typeName (.standIn ⟨p.binding.methods, adaptee, []⟩)).2

theorem StandIn.makeAdaptee_none
    {b : Binding} {host : Host} {heap after : Heap} {number : ℕ} {typeName : String}
    {inputs : List Value} {deadline : Deadline}
    (hmade : makeAdaptee b host number typeName inputs deadline heap =
      (.ok none, after)) : none ∈ b.initializers := by
  unfold makeAdaptee at hmade
  split at hmade
  · cases hmade
  · next hnone => exact List.mem_of_getElem? hnone
  · split at hmade <;> cases hmade

namespace Runner

namespace Carries

variable {p : Runner} {R : Heap → Heap → Prop}

section Glue

variable (hR : p.Carries R) (handle : Handle) (receiver : Option Instance)
  (inputs : List Value) (deadline : Deadline) (heap : Heap)

include hR

theorem run (args : List Value) : R heap (handle.run p.host receiver args deadline heap).2 := by
  unfold Handle.run
  split
  · exact hR.refl heap
  · next entry hentry =>
    have hcode := hR.code handle.member entry hentry receiver args heap
    simp only
    split <;> exact hcode

theorem invoke : R heap (handle.invoke p.host receiver inputs deadline heap).2 := by
  unfold Handle.invoke
  split
  · exact hR.refl heap
  split
  · split
    · exact hR.refl heap
    · exact hR.run handle _ deadline heap _
  · exact hR.run handle _ deadline heap _

theorem makeAdaptee (number : ℕ) (typeName : String) :
    R heap (StandIn.makeAdaptee p.binding p.host number typeName inputs deadline heap).2 := by
  unfold StandIn.makeAdaptee
  split
  · exact hR.refl heap
  · exact hR.refl heap
  next handle _ =>
  have hinvoke := hR.invoke handle none (heap.unwrapAll inputs) deadline heap
  split <;> simp_all

theorem construct (number : ℕ) (typeName : String) :
    R heap (StandIn.construct p.binding p.host number typeName inputs deadline heap).2 := by
  have hadaptee := hR.makeAdaptee inputs deadline heap number typeName
  unfold StandIn.construct
  split
  · next fault after hmade =>
    rw [hmade] at hadaptee
    exact hadaptee
  · next adaptee after hmade =>
    rw [hmade] at hadaptee
    apply hR.trans hadaptee
    apply hR.made after typeName adaptee
    intro hnone
    rw [hnone] at hmade
    exact StandIn.makeAdaptee_none hmade

theorem dispatch (i : Instance) (number : ℕ) (hlog : ∀ h call, R h (h.log i call)) :
    R heap (StandIn.dispatch p.host i number inputs deadline heap).2 := by
  unfold StandIn.dispatch
  split
  · exact hR.refl heap
  next s hs =>
  split
  · exact hR.refl heap
  next handle hhandle =>
  have hinvoke := hR.invoke handle s.adaptee (heap.unwrapAll inputs) deadline heap
  simp only
  split
  · exact hinvoke
  · exact hR.trans hinvoke (hlog _ _)

theorem callAsIs (m : Member) : R heap (p.callAsIs m receiver inputs heap).2 := by
  unfold Runner.callAsIs
  split
  · split <;> exact hR.refl heap
  · exact hR.invoke _ receiver inputs _ heap

theorem constructComponent (typeName : String) :
    R heap (p.constructComponent typeName inputs heap).2 := by
  unfold Runner.constructComponent
  split
  · exact hR.refl heap
  · exact hR.callAsIs none inputs heap _

theorem callComponent (typeName method : String) (target : Option Value) :
    R heap (p.callComponent typeName method target inputs heap).2 := by
  unfold Runner.callComponent
  simp only
  split
  · split
    · exact hR.refl heap
    · exact hR.callAsIs _ inputs heap _
  · split
    · exact hR.refl heap
    · exact hR.callAsIs _ inputs heap _
  · exact hR.refl heap
  · exact hR.refl heap

theorem constructAdapted (typeName : String) :
    R heap (p.constructAdapted typeName inputs heap).2 := by
  unfold Runner.constructAdapted
  split
  · exact hR.refl heap
  next number _ =>
  have hconstruct := hR.construct inputs p.deadline heap number p.interface.name
  simp only
  split <;> simp_all

theorem callAdapted (typeName method : String) (target : Option Value)
    (hlog : ∀ i, target = some (.object i) →
      (p.interface.methodNumber? method inputs.length).isSome = true →
        ∀ h call, R h (h.log i call)) :
    R heap (p.callAdapted typeName method target inputs heap).2 := by
  unfold Runner.callAdapted
  split
  · exact hR.refl heap
  next number hnumber =>
  split
  · exact hR.refl heap
  simp only
  split
  · exact hR.invoke _ none inputs _ heap
  · exact hR.refl heap
  · split
    · next i _ =>
      split
      · exact hR.dispatch inputs _ heap i number (hlog i rfl (by rw [hnumber]; rfl))
      · exact hR.refl heap
    · exact hR.refl heap

end Glue

/-- A step stays within the relation if the log that it may write to does: that of its
receiver, when it is a call of a method that the interface declares. -/
theorem performAt (hR : p.Carries R) (m : Moment)
    (hlog : ∀ i inputs typeName method position, m.receiver = .ok (some (.object i)) →
      m.inputs = .ok inputs → m.step.kind = .call typeName method position →
        (p.interface.methodNumber? method inputs.length).isSome = true →
          ∀ h call, R h (h.log i call)) :
    R m.heap (p.performAt m).2 := by
  unfold Runner.performAt perform
  split
  · exact hR.refl m.heap
  · exact hR.refl m.heap
  next target inputs htarget hinputs =>
  unfold runStep
  split
  · split
    · exact hR.constructAdapted inputs m.heap _
    · exact hR.constructComponent inputs m.heap _
  · next typeName method position hkind =>
    split
    · apply hR.callAdapted inputs m.heap typeName method target
      intro i hi hdeclared
      rw [hi] at htarget
      exact hlog i inputs typeName method position htarget hinputs hkind hdeclared
    · exact hR.callComponent inputs m.heap typeName method target
  · exact hR.refl m.heap

end Carries

end Runner

/-- What scripted code can do to a heap in one call. -/
inductive Heap.Scripted (h : Heap) : Heap → Prop
  | same : Scripted h h
  | made (typeName : String) {content : Content} (hcontent : ∀ s, content ≠ .standIn s) :
      Scripted h (h.alloc typeName content).2
  | changed {i : Instance} {values : List Value} (hitems : h.items i = .ok values)
      (values' : List Value) : Scripted h (h.setItems i values')
  | poisoned {i : Instance} {values : List Value} (hitems : h.items i = .ok values) :
      Scripted h (h.poison i)

namespace Behaviour

variable {heap : Heap}

theorem onItems_scripted
    {receiver : Option Instance} {f : Instance → List Value → Ending × Heap}
    (hf : ∀ i values, heap.items i = .ok values → heap.Scripted (f i values).2) :
    heap.Scripted (onItems receiver heap f).2 := by
  unfold onItems
  split
  · exact .same
  · split
    · exact .same
    · next i _ values hitems => exact hf i values hitems

theorem entry_scripted (behaviour : Behaviour) (typeName : String)
    (receiver : Option Instance) (args : List Value) :
    heap.Scripted (behaviour.entry typeName receiver args heap).2 := by
  cases behaviour with
  | new | newUnit => exact .made typeName nofun
  | make other => exact .made other nofun
  | push | put | clear => exact onItems_scripted fun _ _ hitems => .changed hitems _
  | pop =>
      apply onItems_scripted
      intro i values hitems
      split
      · exact .changed hitems _
      · exact .same
  | peek =>
      apply onItems_scripted
      intro i values _
      split <;> exact .same
  | breakDownLocked => exact onItems_scripted fun _ _ hitems => .poisoned hitems
  | size | items | get | contains => exact onItems_scripted fun _ _ _ => .same
  | this => cases receiver <;> exact .same
  | eval text =>
      unfold entry
      simp only
      split <;> exact .same
  | const | args | fail | breakDown | hang | unknown => exact .same

end Behaviour

theorem HostScript.entry_scripted
    {script : HostScript} {m : Member} {entry : EntryPoint}
    (hentry : script.host.entryPoint m = .ok entry)
    (receiver : Option Instance) (args : List Value) (heap : Heap) :
    heap.Scripted (entry receiver args heap).2 := by
  obtain ⟨s, -, rfl⟩ := entryPoint_eq_ok hentry
  unfold MemberScript.entry
  split
  · exact s.behaviour.entry_scripted _ _ _
  · exact .same
  · exact s.behaviour.entry_scripted _ _ _
  · exact s.behaviour.entry_scripted _ _ _

end Refit
