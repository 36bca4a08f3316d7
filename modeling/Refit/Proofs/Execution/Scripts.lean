import Refit.Execution.Script
import Refit.Proofs.Execution.Worlds

/-!
# Scripted code is honest

A script tells what the code of each member does: it makes objects, keeps values in
lists, gives them back, fails or hangs.  Whatever it gives back it was given, has
found in a list, has made, or has as a constant.
-/

namespace Refit

variable {w : World}

theorem Heap.items_eq_ok
    {h : Heap} {i : Instance} {values : List Value} (hvalues : h.items i = .ok values) :
    h.entry? i = some ⟨.items values, false⟩ := by
  unfold items at hvalues
  split at hvalues
  · cases hvalues
  · next hentry =>
    cases hvalues
    exact hentry
  · cases hvalues

theorem World.Closed.setItems
    (hclosed : w.Closed) {i : Instance} {held values : List Value}
    (hheld : w.heap.items i = .ok held) (hvalues : ∀ v ∈ values, v.Only w.Made)
    {R : World → Prop} (hR : R ⟨w.heap.setItems i values, w.typeOf⟩) :
    w.Yields (w.heap.setItems i values) R := by
  refine hclosed.modify (fun entry hentry => ?_) hR
  rw [Heap.items_eq_ok hheld] at hentry
  cases hentry
  exact ⟨hvalues, nofun, nofun⟩

theorem World.Closed.poison
    (hclosed : w.Closed) (i : Instance) {R : World → Prop}
    (hR : R ⟨w.heap.poison i, w.typeOf⟩) : w.Yields (w.heap.poison i) R := by
  refine hclosed.modify (fun entry hentry => ?_) hR
  have honly := hclosed i entry hentry
  obtain ⟨content, poisoned⟩ := entry
  exact ⟨honly, fun s hs => ⟨s, hs⟩, nofun⟩

/-- All objects in the constants of a script have the property. -/
def HostScript.ConstantsOnly (P : Instance → Prop) (script : HostScript) : Prop :=
  ∀ s ∈ script.members, ∀ v, s.behaviour = .const v → v.Only P

namespace Behaviour

variable {receiver : Option Instance} {args : List Value}

theorem onItems_yields
    (hclosed : w.Closed) {f : Instance → List Value → Ending × Heap}
    (hf : ∀ i values, w.heap.items i = .ok values → (∀ v ∈ values, v.Only w.Made) →
      w.Yields (f i values).2 fun w' => (f i values).1.Only w'.Made) :
    w.Yields (onItems receiver w.heap f).2 fun w' =>
      (onItems receiver w.heap f).1.Only w'.Made := by
  unfold onItems
  split
  · exact hclosed.stays trivial
  next i =>
  split
  · exact hclosed.stays trivial
  · next values hvalues =>
    exact hf i values hvalues (hclosed i _ (Heap.items_eq_ok hvalues))

theorem argumentContext_only
    {P : Instance → Prop} (hargs : ∀ v ∈ args, v.Only P) :
    (argumentContext args).Only P := by
  constructor
  · intro entry hentry
    obtain ⟨⟨v, i⟩, hv, rfl⟩ := List.mem_map.mp hentry
    have hfst := List.mem_map_of_mem (f := Prod.fst) hv
    rw [List.zipIdx_map_fst] at hfst
    exact hargs v hfst
  · intro entry hentry
    cases hentry

theorem itemAt_only
    {P : Instance → Prop} {values : List Value} (hvalues : ∀ v ∈ values, v.Only P)
    (args : List Value) : (itemAt values args).Only P := by
  unfold itemAt
  simp only
  split
  · next v hv =>
    split_ifs at hv
    exact hvalues v (List.mem_of_getElem? hv)
  · trivial

theorem last_only
    {P : Instance → Prop} {values : List Value} (hvalues : ∀ v ∈ values, v.Only P) :
    (values.getLastD .null).Only P := by
  rw [List.getLastD_eq_getLast?]
  cases hlast : values.getLast? with
  | none => exact Value.only_null
  | some v => exact hvalues v (List.mem_of_getLast? hlast)

theorem entry_yields
    (hclosed : w.Closed) {behaviour : Behaviour}
    (hconst : ∀ v, behaviour = .const v → v.Only w.Made) (typeName : String)
    (hreceiver : ∀ i ∈ receiver, w.Made i) (hargs : ∀ v ∈ args, v.Only w.Made) :
    w.Yields (behaviour.entry typeName receiver args w.heap).2 fun w' =>
      (behaviour.entry typeName receiver args w.heap).1.Only w'.Made := by
  have hlast : (args.getLastD .null).Only w.Made := last_only hargs
  cases behaviour with
  | new =>
      have hcontent : (Content.items args).Only w.Made := hargs
      exact (hclosed.alloc typeName hcontent).mono
        fun _ _ _ h => Value.only_object.mpr h.1
  | newUnit =>
      have hcontent : Content.unit.Only w.Made := trivial
      exact (hclosed.alloc typeName hcontent).mono
        fun _ _ _ h => Value.only_object.mpr h.1
  | make other =>
      have hcontent : (Content.items args).Only w.Made := hargs
      exact (hclosed.alloc other hcontent).mono
        fun _ _ _ h => Value.only_object.mpr h.1
  | push =>
      refine onItems_yields hclosed fun i values hheld hvalues => ?_
      exact hclosed.setItems hheld
        (List.forall_mem_append.mpr ⟨hvalues, List.forall_mem_singleton.mpr hlast⟩) hlast
  | put =>
      refine onItems_yields hclosed fun i values hheld hvalues => ?_
      exact hclosed.setItems hheld (List.forall_mem_append.mpr ⟨hvalues, hargs⟩) Value.only_void
  | pop =>
      refine onItems_yields hclosed fun i values hheld hvalues => ?_
      split
      · next item hitem =>
        exact hclosed.setItems hheld
          (fun v hv => hvalues v (List.dropLast_subset values hv))
          (hvalues item (List.mem_of_getLast? hitem))
      · exact hclosed.stays trivial
  | peek =>
      refine onItems_yields hclosed fun i values hheld hvalues => ?_
      split
      · next item hitem =>
        exact hclosed.stays (hvalues item (List.mem_of_getLast? hitem))
      · exact hclosed.stays trivial
  | size =>
      exact onItems_yields hclosed fun _ _ _ _ =>
        hclosed.stays (Value.only_of_primitive? (p := .int) rfl)
  | clear =>
      exact onItems_yields hclosed fun i _ hheld _ =>
        hclosed.setItems hheld (by simp) Value.only_void
  | items =>
      exact onItems_yields hclosed fun _ _ _ hvalues =>
        hclosed.stays (Value.only_list.mpr hvalues)
  | get =>
      exact onItems_yields hclosed fun _ _ _ hvalues =>
        hclosed.stays (itemAt_only hvalues args)
  | contains =>
      exact onItems_yields hclosed fun _ _ _ _ =>
        hclosed.stays (Value.only_of_primitive? (p := .boolean) rfl)
  | this =>
      cases receiver with
      | none => exact hclosed.stays Value.only_null
      | some i => exact hclosed.stays (Value.only_object.mpr (hreceiver i rfl))
  | const v => exact hclosed.stays (hconst v rfl)
  | args => exact hclosed.stays (Value.only_list.mpr hargs)
  | eval text =>
      unfold entry
      simp only
      split
      · next v hv =>
        exact hclosed.stays (Expression.evaluate_only (argumentContext_only hargs) hv)
      · exact hclosed.stays trivial
  | breakDownLocked =>
      exact onItems_yields hclosed fun i _ _ _ => hclosed.poison i trivial
  | fail | breakDown | hang | unknown => exact hclosed.stays trivial

end Behaviour

theorem HostScript.host_honest
    {script : HostScript} (hconstants : script.ConstantsOnly w.Made) :
    script.host.Honest w := by
  intro m entry hentry w' hlater hclosed receiver args hreceiver hargs
  obtain ⟨s, hs, rfl⟩ := entryPoint_eq_ok hentry
  have hconst : ∀ v, s.behaviour = .const v → v.Only w'.Made :=
    fun v hv => hlater.only (hconstants s hs v hv)
  unfold MemberScript.entry
  split
  · exact Behaviour.entry_yields hclosed hconst _ (by simp) hargs
  · exact hclosed.stays trivial
  · exact Behaviour.entry_yields hclosed hconst _ hreceiver hargs
  · exact Behaviour.entry_yields hclosed hconst _ hreceiver hargs

end Refit
