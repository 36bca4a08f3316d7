import Refit.Proofs.Execution.Carrying

/-!
# Discreet code

The log of a stand-in is the runner's to write.  Code that gets hold of a stand-in may call
it as well, and such a call is logged too.  Foreign code is discreet with a stand-in when
calls are all that it does to it; objects of its own it makes with new numbers.  Then a
stand-in changes in one way only: calls on it are logged.
-/

namespace Refit

namespace Heap

/-- The object, if it is a stand-in by now, is the same stand-in later on, but for the
foreign calls that have been logged since. -/
structure Keeps (i : Instance) (foreign : LoggedCall → Prop) (h h' : Heap) : Prop where
  nextId : h.nextId ≤ h'.nextId
  standIn : i.id < h.nextId → ∀ s, h.standIn? i = some s →
    ∃ added : List LoggedCall, (∀ call ∈ added, foreign call) ∧
      h'.standIn? i = some { s with calls := s.calls ++ added }

variable {h h' h'' : Heap} {i j : Instance} {foreign : LoggedCall → Prop}

theorem Keeps.of_same
    (hnext : h.nextId ≤ h'.nextId)
    (hsame : i.id < h.nextId → ∀ s, h.standIn? i = some s → h'.standIn? i = some s) :
    Keeps i foreign h h' where
  nextId := hnext
  standIn hi s hs := by
    have hs' := hsame hi s hs
    exact ⟨[], nofun, by simpa using hs'⟩

theorem Keeps.refl (i : Instance) (foreign : LoggedCall → Prop) (h : Heap) :
    Keeps i foreign h h :=
  .of_same le_rfl fun _ _ hs => hs

theorem Keeps.trans
    (hfirst : Keeps i foreign h h') (hsecond : Keeps i foreign h' h'') :
    Keeps i foreign h h'' where
  nextId := hfirst.nextId.trans hsecond.nextId
  standIn hi s hs := by
    rcases hfirst.standIn hi s hs with ⟨first, hforeign, hs'⟩
    rcases hsecond.standIn (hi.trans_le hfirst.nextId) _ hs' with ⟨second, hforeign', hs''⟩
    refine ⟨first ++ second, ?_, by simpa using hs''⟩
    intro call hcall
    rcases List.mem_append.mp hcall with hcall | hcall
    · exact hforeign call hcall
    · exact hforeign' call hcall

theorem standIn?_congr (hid : i.id = j.id) : h.standIn? i = h.standIn? j := by
  unfold standIn? entry?
  rw [hid]

theorem keeps_alloc (i : Instance) (foreign : LoggedCall → Prop) (h : Heap)
    (typeName : String) (content : Content) :
    Keeps i foreign h (h.alloc typeName content).2 := by
  apply Keeps.of_same (Nat.le_succ h.nextId)
  intro hi s hs
  rw [standIn?_eq_some] at hs ⊢
  rw [entry?_alloc, if_neg (by omega)]
  exact hs

/-- A change of an object that is no readable stand-in, or of another one. -/
theorem keeps_modify {f : HeapEntry → HeapEntry}
    (hother : ∀ s, h.standIn? i = some s → i.id ≠ j.id) :
    Keeps i foreign h (h.modify j f) := by
  refine .of_same le_rfl ?_
  intro _ s hs
  have hne := hother s hs
  rw [standIn?_eq_some] at hs ⊢
  rw [entry?_modify, if_neg hne]
  exact hs

/-- A logged call is the last one of the stand-in. -/
theorem standIn?_log {s : StandIn} (hs : h.standIn? i = some s) (hid : i.id = j.id)
    (call : LoggedCall) :
    Heap.standIn? (h.log j call) i = some { s with calls := s.calls ++ [call] } := by
  rw [standIn?_eq_some] at hs ⊢
  unfold log
  rw [entry?_modify, if_pos hid, hs]
  rfl

theorem keeps_log {call : LoggedCall} (hforeign : i.id = j.id → foreign call) :
    Keeps i foreign h (h.log j call) := by
  by_cases hid : i.id = j.id
  · refine ⟨le_rfl, fun _ s hs => ⟨[call], ?_, standIn?_log hs hid call⟩⟩
    intro other hother
    rw [List.mem_singleton.mp hother]
    exact hforeign hid
  · exact keeps_modify fun _ _ => hid

theorem keeps_of_scripted (hscripted : h.Scripted h') (i : Instance)
    (foreign : LoggedCall → Prop) : Keeps i foreign h h' := by
  -- What holds a list is no stand-in.
  have hitems : ∀ {j : Instance} {values : List Value}, h.items j = .ok values →
      ∀ s, h.standIn? i = some s → i.id ≠ j.id := by
    intro j values hvalues s hs hid
    rw [standIn?_congr hid, standIn?_eq_some] at hs
    unfold items at hvalues
    rw [hs] at hvalues
    cases hvalues
  cases hscripted with
  | same => exact Keeps.refl i foreign h
  | made typeName => exact keeps_alloc i foreign h typeName _
  | changed hvalues => exact keeps_modify (hitems hvalues)
  | poisoned hvalues => exact keeps_modify (hitems hvalues)

end Heap

/-- Foreign code leaves the stand-in as it is, but for calls of this kind on it. -/
def Host.Discreet (host : Host) (i : Instance) (foreign : LoggedCall → Prop) : Prop :=
  ∀ m entry, host.entryPoint m = .ok entry →
    ∀ receiver args h, Heap.Keeps i foreign h (entry receiver args h).2

theorem HostScript.host_discreet (script : HostScript) (i : Instance)
    (foreign : LoggedCall → Prop) : script.host.Discreet i foreign := by
  intro m entry hentry receiver args h
  exact Heap.keeps_of_scripted (entry_scripted hentry receiver args h) i foreign

theorem Runner.carries_keeps {p : Runner} {i : Instance} {foreign : LoggedCall → Prop}
    (hdiscreet : p.host.Discreet i foreign) : p.Carries (Heap.Keeps i foreign) where
  refl := Heap.Keeps.refl i foreign
  trans := Heap.Keeps.trans
  code m entry hentry receiver args h := hdiscreet m entry hentry receiver args h
  made h typeName _ _ := Heap.keeps_alloc i foreign h typeName _

end Refit
