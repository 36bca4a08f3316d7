import Refit.Proofs.Execution.Carrying

/-!
# Stand-ins on the heap

Foreign code is loyal to a binding when it brings in no stand-ins of others.  Then
the stand-ins that come up in a run serve through the handles of its binding: those
that it made itself and those that foreign code made on its behalf.  Objects with low
numbers, which were there before, may be left out of account.
-/

namespace Refit

/-- The stand-in hands calls on through these handles, and goes without an
object behind it only when no method needs one. -/
def StandIn.Serves (b : Binding) (s : StandIn) : Prop :=
  s.methods = b.methods ∧
    (s.adaptee = none → ∀ h ∈ b.methods, h.needsReceiver = false)

/-- Where an initializer makes no object, no method needs one. -/
def Binding.StaticIfBare (b : Binding) : Prop :=
  none ∈ b.initializers → ∀ h ∈ b.methods, h.needsReceiver = false

namespace Heap

/-- Every stand-in on the heap from this number on serves through these handles. -/
def Serving (b : Binding) (first : ℕ) (h : Heap) : Prop :=
  ∀ i s, first ≤ i.id → h.standIn? i = some s → s.Serves b

variable {b : Binding} {first : ℕ} {h : Heap}

/-- A change of an object makes it no stand-in, and leaves one as it was but for
its log. -/
theorem Serving.modify
    (hserving : h.Serving b first) (i : Instance) {f : HeapEntry → HeapEntry}
    (hf : ∀ entry s, f entry = ⟨.standIn s, false⟩ →
      ∃ old : StandIn, entry = ⟨.standIn old, false⟩ ∧
        old.methods = s.methods ∧ old.adaptee = s.adaptee) :
    (h.modify i f).Serving b first := by
  intro j s hfirst hs
  rw [standIn?_eq_some, entry?_modify] at hs
  split at hs
  · obtain ⟨entry, hentry, hchanged⟩ := Option.map_eq_some_iff.mp hs
    obtain ⟨old, rfl, hmethods, hadaptee⟩ := hf entry s hchanged
    obtain ⟨hserves, hnone⟩ := hserving j old hfirst (standIn?_eq_some.mpr hentry)
    exact ⟨hmethods ▸ hserves, fun hs => hnone (hadaptee.trans hs)⟩
  · exact hserving j s hfirst (standIn?_eq_some.mpr hs)

theorem Serving.alloc
    (hserving : h.Serving b first) (typeName : String) {content : Content}
    (hcontent : ∀ s, content = .standIn s → s.Serves b) :
    (h.alloc typeName content).2.Serving b first := by
  intro i s hfirst hs
  rw [standIn?_eq_some, entry?_alloc] at hs
  split at hs
  · cases hs
    exact hcontent s rfl
  · exact hserving i s hfirst (standIn?_eq_some.mpr hs)

theorem Serving.setItems
    (hserving : h.Serving b first) (i : Instance) (values : List Value) :
    (h.setItems i values).Serving b first :=
  hserving.modify i fun _ _ hentry => by cases hentry

theorem Serving.poison (hserving : h.Serving b first) (i : Instance) :
    (h.poison i).Serving b first :=
  hserving.modify i fun _ _ hentry => by simp at hentry

theorem Serving.log (hserving : h.Serving b first) (i : Instance) (call : LoggedCall) :
    (h.log i call).Serving b first := by
  refine hserving.modify i fun entry s hentry => ?_
  obtain ⟨content, poisoned⟩ := entry
  cases content with
  | standIn old =>
      cases hentry
      exact ⟨old, rfl, rfl, rfl⟩
  | unit => cases hentry
  | items => cases hentry

end Heap

/-- Foreign code brings in no stand-ins of other bindings from this number on. -/
def Host.Loyal (b : Binding) (first : ℕ) (host : Host) : Prop :=
  ∀ m entry, host.entryPoint m = .ok entry →
    ∀ receiver args (heap : Heap), heap.Serving b first →
      (entry receiver args heap).2.Serving b first

namespace Runner

variable {p : Runner} {heap : Heap} {first : ℕ}

theorem carries_serving
    (hloyal : p.host.Loyal p.binding first) (hstatic : p.binding.StaticIfBare) :
    p.Carries fun h h' => h.Serving p.binding first → h'.Serving p.binding first where
  refl _ hserving := hserving
  trans hfirst hsecond hserving := hsecond (hfirst hserving)
  code m entry hentry receiver args h hserving :=
    hloyal m entry hentry receiver args h hserving
  made h typeName adaptee hnone hserving := by
    refine hserving.alloc typeName fun s hs => ?_
    cases hs
    exact ⟨rfl, fun hbare => hstatic (hnone hbare)⟩

theorem performAt_serving
    (hloyal : p.host.Loyal p.binding first) {m : Moment}
    (hserving : m.heap.Serving p.binding first)
    (hstatic : p.binding.StaticIfBare) :
    (p.performAt m).2.Serving p.binding first := by
  refine (carries_serving hloyal hstatic).performAt m ?_ hserving
  intro i _ _ _ _ _ _ _ _ h call hserving
  exact hserving.log i call

/-- At every moment of a run over a loyal host, each stand-in from that number on serves
through the handles of the binding, if those that the run started with do. -/
theorem Visits.serving
    {σ : Type} {v : Observer σ} {sequence : Sequence} {state : σ} {m : Moment}
    (hloyal : p.host.Loyal p.binding first)
    (hstatic : p.binding.StaticIfBare)
    (hvisit : p.Visits v sequence heap state m)
    (hserving : heap.Serving p.binding first) : m.heap.Serving p.binding first := by
  refine Reaches.heap_invariant ?_ hvisit hserving
  intro m result after hserving hperform
  have hafter := performAt_serving hloyal hserving hstatic
  rwa [hperform] at hafter

end Runner

theorem HostScript.host_loyal (script : HostScript) (b : Binding) (first : ℕ) :
    script.host.Loyal b first := by
  intro m entry hentry receiver args heap hserving
  have hscripted := entry_scripted hentry receiver args heap
  generalize (entry receiver args heap).2 = after at hscripted ⊢
  cases hscripted with
  | same => exact hserving
  | made typeName hcontent => exact hserving.alloc typeName fun s hs => absurd hs (hcontent s)
  | @changed i _ _ values' => exact hserving.setItems i values'
  | @poisoned i _ _ => exact hserving.poison i

end Refit
