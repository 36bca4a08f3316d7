import Refit.Proofs.Execution.Isolation
import Refit.Proofs.Execution.Scripts

/-!
# Scripted code is local

Scripted code makes objects, gives back what it is given, and reads and changes the list
that its receiver holds.  So it keeps to what it is given as long as none of its constants
holds an object.
-/

namespace Refit

section Reaching

variable {P : Instance → Prop}

theorem Value.Mentions.exists_id
    {v : Value} (hv : v.Mentions P) : ∃ i, P i ∧ v.Mentions (·.id = i.id) := by
  induction hv with
  | @object i h => exact ⟨i, h, .object rfl⟩
  | list hitem _ ih =>
      obtain ⟨i, hi, hmentions⟩ := ih
      exact ⟨i, hi, .list hitem hmentions⟩
  | array hitem _ ih =>
      obtain ⟨i, hi, hmentions⟩ := ih
      exact ⟨i, hi, .array hitem hmentions⟩

theorem Content.Mentions.exists_id
    {content : Content} (hcontent : content.Mentions P) :
    ∃ i, P i ∧ content.Mentions (·.id = i.id) := by
  cases content with
  | unit => exact hcontent.elim
  | items values =>
      obtain ⟨v, hv, hmentions⟩ := hcontent
      obtain ⟨i, hi, hmentions⟩ := hmentions.exists_id
      exact ⟨i, hi, v, hv, hmentions⟩
  | standIn s =>
      rcases hcontent with ⟨i, hi, hP⟩ | ⟨call, hcall, v, hv, hmentions⟩
      · exact ⟨i, hP, .inl ⟨i, hi, rfl⟩⟩
      · obtain ⟨i, hi, hmentions⟩ := hmentions.exists_id
        exact ⟨i, hi, .inr ⟨call, hcall, v, hv, hmentions⟩⟩

variable {h : Heap} {receiver : Option Instance} {args : List Value}

theorem Heap.items_congr
    {h h' : Heap} {i : Instance} (hentry : h'.entry? i = h.entry? i) : h'.items i = h.items i := by
  unfold items
  rw [hentry]

theorem Heap.modify_id (h : Heap) (i : Instance) : h.modify i id = h := by
  have hsame : (fun x : ℕ × HeapEntry => if x.1 = i.id then (x.1, id x.2) else (x.1, x.2)) = id :=
    funext fun x => ite_self x
  unfold modify
  exact congrArg (Heap.mk h.nextId)
    ((congrArg (List.map · h.entries) hsame).trans (List.map_id _))

theorem Heap.Reachable.of_args
    {v : Value} (hv : v ∈ args) : v.Only fun i => h.Reachable receiver args i.id := by
  intro hmentions
  obtain ⟨i, hnot, hid⟩ := hmentions.exists_id
  exact hnot (.argument hv hid)

theorem Heap.Reachable.within
    {i : Instance} (hi : h.Reachable receiver args i.id) {entry : HeapEntry}
    (hentry : h.entry? i = some entry) :
    entry.content.Within fun j => h.Reachable receiver args j.id := by
  intro hmentions
  obtain ⟨j, hnot, hid⟩ := hmentions.exists_id
  exact hnot (.held hi hentry hid)

/-- Nothing is made while the heap stays as it is. -/
theorem Heap.Handles.reachable
    {i : Instance} (hi : h.Handles receiver args h i) : h.Reachable receiver args i.id := by
  rcases hi with hreachable | hmade
  · exact hreachable
  · exact absurd hmade.2 (not_lt.mpr hmade.1)

end Reaching

namespace LocalTo

variable {receiver : Option Instance} {args : List Value}

/-- Code that leaves the heap as it is. -/
theorem of_ending
    {e : Ending} (he : ∀ h : Heap, e.Only fun i => h.Reachable receiver args i.id) :
    LocalTo receiver args fun h => (e, h) where
  reads _ _ _ _ hnextId hagree := ⟨rfl, hnextId, fun i hi => hagree i hi.reachable⟩
  writes _ _ _ _ _ := rfl
  numbers _ hfresh := ⟨le_rfl, hfresh⟩
  keeps h _ := by
    refine ⟨(he h).mono fun _ hi => .inl hi, fun i held hi hheld => ?_⟩
    exact (hi.reachable.within hheld).mono fun _ hj => .inl hj

/-- Code that makes an object that holds what it is given. -/
theorem of_alloc
    (typeName : String) {content : Content}
    (hcontent : ∀ h : Heap, content.Within fun i => h.Reachable receiver args i.id) :
    LocalTo receiver args fun h =>
      (.returned (.object (h.alloc typeName content).1), (h.alloc typeName content).2) where
  reads h h' _ _ hnextId hagree := by
    refine ⟨?_, ?_, fun i hi => ?_⟩
    · simp only [Heap.alloc, hnextId]
    · simp only [Heap.alloc, hnextId]
    · rw [Heap.entry?_alloc, Heap.entry?_alloc, hnextId]
      rcases hi with hreachable | hmade
      · rw [hagree i hreachable]
      · have hid : i.id = h.nextId := by
          have := hmade.1
          have := hmade.2
          simp only [Heap.alloc] at this
          omega
        rw [if_pos hid, if_pos hid]
  writes h _ i hi _ := by
    rw [Heap.entry?_alloc, if_neg (by omega)]
  numbers h hfresh := by
    refine ⟨Nat.le_succ _, fun i hi => ?_⟩
    simp only [Heap.alloc] at hi
    rw [Heap.entry?_alloc, if_neg (by omega)]
    exact hfresh i (by omega)
  keeps h hfresh := by
    refine ⟨Value.only_object.mpr (.inr ⟨le_rfl, Nat.lt_succ_self _⟩), fun i held hi hheld => ?_⟩
    rw [Heap.entry?_alloc] at hheld
    split at hheld
    · cases hheld
      exact (hcontent h).mono fun _ hj => .inl hj
    · rcases hi with hreachable | hmade
      · exact (hreachable.within hheld).mono fun _ hj => .inl hj
      · rw [hfresh i hmade.1] at hheld
        cases hheld

/-- Code that reads the list of its receiver, and by it ends and changes the receiver. -/
theorem of_items
    {i : Instance} (hi : receiver = some i) (e : Except Fault (List Value) → Ending)
    (g : Except Fault (List Value) → HeapEntry → HeapEntry)
    (he : ∀ (P : Instance → Prop) (found : Except Fault (List Value)),
      (∀ values, found = .ok values → ∀ v ∈ values, v.Only P) → (∀ v ∈ args, v.Only P) →
        (e found).Only P)
    (hg : ∀ (P : Instance → Prop) (found : Except Fault (List Value)) (entry : HeapEntry),
      (∀ values, found = .ok values → ∀ v ∈ values, v.Only P) → (∀ v ∈ args, v.Only P) →
        entry.content.Within P → (g found entry).content.Within P) :
    LocalTo receiver args fun h => (e (h.items i), h.modify i (g (h.items i))) := by
  have hreachable : ∀ h : Heap, h.Reachable receiver args i.id := fun _ => .receiver hi
  have hfound : ∀ (h : Heap) values, h.items i = .ok values →
      ∀ v ∈ values, v.Only fun j => h.Reachable receiver args j.id := fun h values hvalues =>
    Content.within_items.mp ((hreachable h).within (Heap.items_eq_ok hvalues))
  constructor
  case reads =>
    intro h h' _ _ hnextId hagree
    have hitems : h'.items i = h.items i := Heap.items_congr (hagree i (hreachable h))
    refine ⟨congrArg e hitems, hnextId, fun j hj => ?_⟩
    have hj : h.Reachable receiver args j.id := Heap.Handles.reachable hj
    rw [Heap.entry?_modify, Heap.entry?_modify, hitems, hagree j hj]
  case writes =>
    intro h _ j _ hj
    have hne : ¬ j.id = i.id := fun hid => hj (hid ▸ hreachable h)
    rw [Heap.entry?_modify, if_neg hne]
  case numbers =>
    refine fun h hfresh => ⟨le_rfl, fun j hj => ?_⟩
    rw [Heap.entry?_modify, hfresh j hj]
    exact ite_self _
  case keeps =>
    intro h _
    refine ⟨(he _ _ (hfound h) fun _ => Heap.Reachable.of_args).mono fun _ hj => .inl hj,
      fun j held hj hheld => ?_⟩
    have hj : h.Reachable receiver args j.id := Heap.Handles.reachable hj
    refine Content.Within.mono ?_ fun _ hk => .inl hk
    rw [Heap.entry?_modify] at hheld
    split at hheld
    · obtain ⟨entry, hentry, rfl⟩ := Option.map_eq_some_iff.mp hheld
      exact hg _ _ entry (hfound h) (fun _ => Heap.Reachable.of_args) (hj.within hentry)
    · exact hj.within hheld

end LocalTo

namespace Behaviour

variable {receiver seen : Option Instance} {args : List Value}

/-- How code ends that needs the list of its receiver. -/
def endingOn (e : List Value → Ending) : Except Fault (List Value) → Ending
  | .error fault => .faulted fault
  | .ok values => e values

/-- What such code makes of its receiver. -/
def changeOn (g : List Value → HeapEntry → HeapEntry) :
    Except Fault (List Value) → HeapEntry → HeapEntry
  | .error _ => id
  | .ok values => g values

/-- Code that reads the list of its receiver and may change it. -/
theorem local_onItems
    (hseen : ∀ i ∈ seen, receiver = some i) (e : List Value → Ending)
    (g : List Value → HeapEntry → HeapEntry) {f : Heap → Instance → List Value → Ending × Heap}
    (hf : ∀ h i values, f h i values = (e values, h.modify i (g values)))
    (he : ∀ (P : Instance → Prop) values, (∀ v ∈ values, v.Only P) → (∀ v ∈ args, v.Only P) →
      (e values).Only P)
    (hg : ∀ (P : Instance → Prop) values entry, (∀ v ∈ values, v.Only P) →
      (∀ v ∈ args, v.Only P) → entry.content.Within P → (g values entry).content.Within P) :
    LocalTo receiver args fun h => onItems seen h (f h) := by
  cases seen with
  | none => exact .of_ending fun _ => trivial
  | some i =>
      have hcode : (fun h : Heap => onItems (some i) h (f h)) =
          fun h => (endingOn e (h.items i), h.modify i (changeOn g (h.items i))) := by
        funext h
        simp only [onItems]
        cases h.items i with
        | error fault => simp only [endingOn, changeOn, Heap.modify_id]
        | ok values => exact hf h i values
      rw [hcode]
      refine .of_items (hseen i rfl) _ _ (fun P found hfound hargs => ?_)
        fun P found entry hfound hargs hentry => ?_
      · cases found with
        | error fault => trivial
        | ok values => exact he P values (hfound values rfl) hargs
      · cases found with
        | error fault => exact hentry
        | ok values => exact hg P values entry (hfound values rfl) hargs hentry

/-- Code that reads the list of its receiver and leaves it as it is. -/
theorem local_onItems_reading
    (hseen : ∀ i ∈ seen, receiver = some i) {e : List Value → Ending}
    (he : ∀ (P : Instance → Prop) values, (∀ v ∈ values, v.Only P) → (∀ v ∈ args, v.Only P) →
      (e values).Only P) :
    LocalTo receiver args fun h => onItems seen h fun _ values => (e values, h) := by
  refine local_onItems hseen e (fun _ => id) (fun h i values => ?_) he fun _ _ _ _ _ hentry =>
    hentry
  rw [Heap.modify_id]

/-- Code that puts another list in place of the one of its receiver. -/
theorem local_onItems_setting
    (hseen : ∀ i ∈ seen, receiver = some i) {e : List Value → Ending}
    {new : List Value → List Value}
    (he : ∀ (P : Instance → Prop) values, (∀ v ∈ values, v.Only P) → (∀ v ∈ args, v.Only P) →
      (e values).Only P ∧ ∀ v ∈ new values, v.Only P) :
    LocalTo receiver args fun h =>
      onItems seen h fun i values => (e values, h.setItems i (new values)) :=
  local_onItems hseen e (fun values entry => { entry with content := .items (new values) })
    (fun _ _ _ => rfl) (fun P values hvalues hargs => (he P values hvalues hargs).1)
    fun P values _ hvalues hargs _ => Content.within_items.mpr (he P values hvalues hargs).2

/-- How code ends that gives the last item back. -/
def lastOf (values : List Value) : Ending :=
  values.getLast?.elim (.faulted emptyStack) .returned

theorem lastOf_only
    {P : Instance → Prop} {values : List Value} (hvalues : ∀ v ∈ values, v.Only P) :
    (lastOf values).Only P := by
  unfold lastOf
  cases hlast : values.getLast? with
  | none => trivial
  | some v => exact hvalues v (List.mem_of_getLast? hlast)

theorem entry_local
    {behaviour : Behaviour} (hconst : ∀ v, behaviour = .const v → v.Only fun _ => False)
    (typeName : String) (hseen : ∀ i ∈ seen, receiver = some i) :
    LocalTo receiver args (behaviour.entry typeName seen args) := by
  have hitems : ∀ h : Heap,
      (Content.items args).Within fun i => h.Reachable receiver args i.id := fun _ =>
    Content.within_items.mpr fun _ => Heap.Reachable.of_args
  cases behaviour with
  | new => exact .of_alloc typeName hitems
  | newUnit => exact .of_alloc typeName fun _ => (id : (Content.unit).Within _)
  | make other => exact .of_alloc other hitems
  | push =>
      refine local_onItems_setting hseen fun P values hvalues hargs => ?_
      have hlast := last_only hargs
      exact ⟨hlast, List.forall_mem_append.mpr ⟨hvalues, List.forall_mem_singleton.mpr hlast⟩⟩
  | put =>
      exact local_onItems_setting hseen fun P values hvalues hargs =>
        ⟨Value.only_void, List.forall_mem_append.mpr ⟨hvalues, hargs⟩⟩
  | pop =>
      refine local_onItems hseen lastOf
        (fun values => values.getLast?.elim id
          fun _ entry => { entry with content := .items values.dropLast })
        (fun h i values => ?_) (fun _ _ hvalues _ => lastOf_only hvalues)
        fun P values entry hvalues _ hentry => ?_
      · unfold lastOf
        cases values.getLast? with
        | none => simp only [Option.elim_none, Heap.modify_id]
        | some item => rfl
      · cases values.getLast? with
        | none => exact hentry
        | some item =>
            exact Content.within_items.mpr fun v hv => hvalues v (List.dropLast_subset values hv)
  | peek =>
      refine local_onItems hseen lastOf (fun _ => id) (fun h i values => ?_)
        (fun _ _ hvalues _ => lastOf_only hvalues) fun _ _ _ _ _ hentry => hentry
      rw [Heap.modify_id, lastOf]
      cases values.getLast? <;> rfl
  | size =>
      exact local_onItems_reading hseen fun _ _ _ _ =>
        Value.only_of_primitive? (p := .int) rfl
  | clear =>
      exact local_onItems_setting hseen fun _ _ _ _ => ⟨Value.only_void, by simp⟩
  | items => exact local_onItems_reading hseen fun _ _ hvalues _ => Value.only_list.mpr hvalues
  | get => exact local_onItems_reading hseen fun _ _ hvalues _ => itemAt_only hvalues args
  | contains =>
      exact local_onItems_reading hseen fun _ _ _ _ =>
        Value.only_of_primitive? (p := .boolean) rfl
  | this =>
      cases seen with
      | none => exact .of_ending fun _ => Value.only_null
      | some i => exact .of_ending fun _ => Value.only_object.mpr (.receiver (hseen i rfl))
  | const v => exact .of_ending fun _ => (hconst v rfl).mono fun _ hfalse => hfalse.elim
  | args => exact .of_ending fun _ => Value.only_list.mpr fun _ => Heap.Reachable.of_args
  | eval text =>
      rcases heval : Expression.evaluate text (argumentContext args) with fault | v
      · have hcode : (Behaviour.eval text).entry typeName seen args =
            fun h => (.faulted fault, h) := by
          funext h
          simp only [entry, heval]
        exact hcode ▸ .of_ending fun _ => trivial
      · have hcode : (Behaviour.eval text).entry typeName seen args =
            fun h => (.returned v, h) := by
          funext h
          simp only [entry, heval]
        exact hcode ▸ .of_ending fun _ =>
          Expression.evaluate_only (argumentContext_only fun _ => Heap.Reachable.of_args) heval
  | breakDownLocked =>
      exact local_onItems hseen (fun _ => .broke (some "locked"))
        (fun _ entry => { entry with poisoned := true }) (fun _ _ _ => rfl)
        (fun _ _ _ _ => trivial) fun _ _ _ _ _ hentry => hentry
  | fail | breakDown | hang | unknown => exact .of_ending fun _ => trivial

end Behaviour

/-- The code of a script without objects in its constants is local. -/
theorem HostScript.host_local
    {script : HostScript} (hconstants : script.ConstantsOnly fun _ => False) :
    script.host.Local where
  entryPoint member entry hentry := by
    obtain ⟨s, hs, rfl⟩ := entryPoint_eq_ok hentry
    intro receiver args
    have hlocal : ∀ seen : Option Instance, (∀ i ∈ seen, receiver = some i) →
        LocalTo receiver args (s.behaviour.entry s.typeName seen args) :=
      fun _ hseen => Behaviour.entry_local (hconstants s hs) s.typeName hseen
    unfold MemberScript.entry
    cases s.receiving with
    | never => exact hlocal none nofun
    | always =>
        cases receiver with
        | none => exact .of_ending fun _ => trivial
        | some i => exact hlocal (some i) fun _ hi => hi
    | asGiven => exact hlocal receiver fun _ hi => hi
  snapshot h h' i hagree := by
    change script.snapshot h' i = script.snapshot h i
    unfold snapshot
    rw [Heap.items_congr (hagree i (.receiver rfl))]

end Refit
