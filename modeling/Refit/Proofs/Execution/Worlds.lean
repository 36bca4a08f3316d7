import Refit.Proofs.Execution.Unwrapping
import Refit.Proofs.Expression.Evaluation

/-!
# Objects that have been made

An object has a number and a type from the moment it is made.  A world is a heap
together with the types of its objects.  Foreign code is honest when it has no way
to make up an object or to change what kind of thing one is; then whatever occurs
in a run has been made, and a stand-in stays one.
-/

namespace Refit

/-- All objects in the content have the property. -/
def Content.Only (P : Instance → Prop) : Content → Prop
  | .unit => True
  | .items values => ∀ v ∈ values, v.Only P
  | .standIn s => ∀ i ∈ s.adaptee, P i

theorem Content.Only.mono
    {P Q : Instance → Prop} {content : Content} (hcontent : content.Only P)
    (hPQ : ∀ i, P i → Q i) : content.Only Q := by
  cases content with
  | unit => trivial
  | items values => exact fun v hv => (hcontent v hv).mono hPQ
  | standIn s => exact fun i hi => hPQ i (hcontent i hi)

/-- A heap, with the types of its objects by number. -/
structure World where
  heap : Heap
  typeOf : ℕ → String

namespace World

/-- The object has been made, and has its type. -/
def Made (w : World) (i : Instance) : Prop :=
  i.id < w.heap.nextId ∧ i.typeName = w.typeOf i.id

theorem Made.eq_of_id_eq
    {w : World} {i j : Instance} (hi : w.Made i) (hj : w.Made j) (hid : i.id = j.id) :
    i = j := by
  have htype : i.typeName = j.typeName := by rw [hi.2, hj.2, hid]
  cases i
  cases j
  cases hid
  cases htype
  rfl

/-- Objects hold none but made objects. -/
def Closed (w : World) : Prop :=
  ∀ i entry, w.heap.entry? i = some entry → entry.content.Only w.Made

/-- What does not change from one world to a later one. -/
structure Later (w w' : World) : Prop where
  nextId : w.heap.nextId ≤ w'.heap.nextId
  typeOf : ∀ id < w.heap.nextId, w'.typeOf id = w.typeOf id
  holds : ∀ i, i.id < w.heap.nextId → w.heap.HoldsStandIn i → w'.heap.HoldsStandIn i
  recognized : ∀ i, i.id < w.heap.nextId →
    w'.heap.isStandIn i = true → w.heap.isStandIn i = true

variable {w w' w'' : World}

theorem Later.refl (w : World) : w.Later w :=
  ⟨le_rfl, fun _ _ => rfl, fun _ _ h => h, fun _ _ h => h⟩

theorem Later.trans (h : w.Later w') (h' : w'.Later w'') : w.Later w'' where
  nextId := h.nextId.trans h'.nextId
  typeOf id hid := (h'.typeOf id (hid.trans_le h.nextId)).trans (h.typeOf id hid)
  holds i hi hholds := h'.holds i (hi.trans_le h.nextId) (h.holds i hi hholds)
  recognized i hi hstandIn :=
    h.recognized i hi (h'.recognized i (hi.trans_le h.nextId) hstandIn)

theorem Later.made (h : w.Later w') {i : Instance} (hi : w.Made i) : w'.Made i :=
  ⟨hi.1.trans_le h.nextId, hi.2.trans (h.typeOf i.id hi.1).symm⟩

theorem Later.only (h : w.Later w') {v : Value} (hv : v.Only w.Made) : v.Only w'.Made :=
  hv.mono fun _ hi => h.made hi

/-- The heap is that of a later world, which is closed and has the property. -/
def Yields (w : World) (after : Heap) (R : World → Prop) : Prop :=
  ∃ w' : World, w'.heap = after ∧ w.Later w' ∧ w'.Closed ∧ R w'

theorem Closed.stays
    (hclosed : w.Closed) {R : World → Prop} (hR : R w) : w.Yields w.heap R :=
  ⟨w, rfl, Later.refl w, hclosed, hR⟩

theorem Yields.mono
    {after : Heap} {R S : World → Prop} (h : w.Yields after R)
    (hRS : ∀ w', w'.heap = after → w.Later w' → R w' → S w') : w.Yields after S := by
  obtain ⟨w', hheap, hlater, hclosed, hR⟩ := h
  exact ⟨w', hheap, hlater, hclosed, hRS w' hheap hlater hR⟩

theorem Yields.andThen
    {middle after : Heap} {R S : World → Prop} (h : w.Yields middle R)
    (hnext : ∀ w', w'.heap = middle → w.Later w' → w'.Closed → R w' → w'.Yields after S) :
    w.Yields after S := by
  obtain ⟨w', hheap, hlater, hclosed, hR⟩ := h
  obtain ⟨w'', hheap', hlater', hclosed', hS⟩ := hnext w' hheap hlater hclosed hR
  exact ⟨w'', hheap', hlater.trans hlater', hclosed', hS⟩

section Changes

variable {i : Instance}

theorem Closed.modify
    (hclosed : w.Closed) {f : HeapEntry → HeapEntry}
    (hf : ∀ entry, w.heap.entry? i = some entry →
      (f entry).content.Only w.Made ∧
      (∀ s, entry.content = .standIn s → ∃ s', (f entry).content = .standIn s') ∧
      ∀ s', f entry = ⟨.standIn s', false⟩ → ∃ s, entry = ⟨.standIn s, false⟩)
    {R : World → Prop} (hR : R ⟨w.heap.modify i f, w.typeOf⟩) :
    w.Yields (w.heap.modify i f) R := by
  have hentry : ∀ j, Heap.entry? (w.heap.modify i f) j =
      if j.id = i.id then Option.map f <| w.heap.entry? j else w.heap.entry? j :=
    fun j => w.heap.entry?_modify i j f
  have hsame : ∀ j : Instance, j.id = i.id → w.heap.entry? j = w.heap.entry? i := by
    intro j hj
    unfold Heap.entry?
    rw [hj]
  refine ⟨⟨w.heap.modify i f, w.typeOf⟩, rfl, ⟨le_rfl, fun _ _ => rfl, ?_, ?_⟩, ?_, hR⟩
  · rintro j - ⟨s, poisoned, hj⟩
    by_cases hid : j.id = i.id
    · obtain ⟨-, hholds, -⟩ := hf _ ((hsame j hid).symm.trans hj)
      obtain ⟨s', hs'⟩ := hholds s rfl
      refine ⟨s', (f ⟨.standIn s, poisoned⟩).poisoned, ?_⟩
      rw [hentry, if_pos hid, hj, ← hs']
      rfl
    · refine ⟨s, poisoned, ?_⟩
      rw [hentry, if_neg hid]
      exact hj
  · intro j _ hj
    obtain ⟨s, hs⟩ := Option.isSome_iff_exists.mp hj
    rw [Heap.standIn?_eq_some, hentry] at hs
    by_cases hid : j.id = i.id
    · rw [if_pos hid] at hs
      obtain ⟨entry, hold, hnew⟩ := Option.map_eq_some_iff.mp hs
      obtain ⟨-, -, hrecognized⟩ := hf _ ((hsame j hid).symm.trans hold)
      obtain ⟨s', rfl⟩ := hrecognized s hnew
      exact Option.isSome_iff_exists.mpr ⟨s', Heap.standIn?_eq_some.mpr hold⟩
    · rw [if_neg hid] at hs
      exact Option.isSome_iff_exists.mpr ⟨s, Heap.standIn?_eq_some.mpr hs⟩
  · intro j entry hj
    change Heap.entry? (w.heap.modify i f) j = some entry at hj
    rw [hentry] at hj
    split at hj
    · next hid =>
      obtain ⟨old, hold, rfl⟩ := Option.map_eq_some_iff.mp hj
      exact (hf _ ((hsame j hid).symm.trans hold)).1
    · exact hclosed j entry hj

/-- The world in which one more object has been made. -/
def adding (w : World) (typeName : String) (content : Content) : World where
  heap := (w.heap.alloc typeName content).2
  typeOf id := if id = w.heap.nextId then typeName else w.typeOf id

theorem later_adding (w : World) (typeName : String) (content : Content) :
    w.Later (w.adding typeName content) := by
  have hentry : ∀ j : Instance, j.id < w.heap.nextId →
      Heap.entry? (w.heap.alloc typeName content).2 j = w.heap.entry? j := by
    intro j hj
    rw [Heap.entry?_alloc, if_neg (by omega)]
  refine ⟨Nat.le_succ _, fun id hid => if_neg (by omega), ?_, ?_⟩
  · rintro j hj ⟨s, poisoned, hs⟩
    exact ⟨s, poisoned, (hentry j hj).trans hs⟩
  · intro j hj hstandIn
    obtain ⟨s, hs⟩ := Option.isSome_iff_exists.mp hstandIn
    rw [Heap.standIn?_eq_some] at hs
    refine Option.isSome_iff_exists.mpr ⟨s, Heap.standIn?_eq_some.mpr ?_⟩
    exact (hentry j hj).symm.trans hs

theorem Closed.alloc
    (hclosed : w.Closed) (typeName : String) {content : Content}
    (hcontent : content.Only w.Made) :
    w.Yields (w.heap.alloc typeName content).2 fun w' =>
      w'.Made (w.heap.alloc typeName content).1 ∧
        w'.heap.entry? (w.heap.alloc typeName content).1 = some ⟨content, false⟩ := by
  have hlater := w.later_adding typeName content
  refine ⟨w.adding typeName content, rfl, hlater, ?_, ?_, ?_⟩
  · intro j entry hj
    change Heap.entry? (w.heap.alloc typeName content).2 j = some entry at hj
    rw [Heap.entry?_alloc] at hj
    split at hj
    · cases hj
      exact hcontent.mono fun _ hi => hlater.made hi
    · exact (hclosed j entry hj).mono fun _ hi => hlater.made hi
  · exact ⟨Nat.lt_succ_self _, (if_pos rfl).symm⟩
  · change Heap.entry? (w.heap.alloc typeName content).2 _ = _
    rw [Heap.entry?_alloc]
    exact if_pos rfl

end Changes

end World

/-- All objects in what a call gives back have the property. -/
def Ending.Only (P : Instance → Prop) : Ending → Prop
  | .returned v => v.Only P
  | _ => True

/-- Foreign code has no way to make up objects: what it gives back and leaves on
the heap it was given, has found there, has kept from before or has made.  Nor does
it change what kind of thing an object is. -/
def Host.Honest (host : Host) (w : World) : Prop :=
  ∀ m entry, host.entryPoint m = .ok entry →
    ∀ w' : World, w.Later w' → w'.Closed → ∀ receiver args,
      (∀ i ∈ receiver, w'.Made i) → (∀ v ∈ args, v.Only w'.Made) →
        w'.Yields (entry receiver args w'.heap).2 fun w'' =>
          (entry receiver args w'.heap).1.Only w''.Made

theorem Host.Honest.later
    {host : Host} {w w' : World} (hhonest : host.Honest w) (hlater : w.Later w') :
    host.Honest w' :=
  fun m entry hentry w'' hlater' => hhonest m entry hentry w'' (hlater.trans hlater')

/-- All objects in an outcome have the property. -/
def ResultOnly (P : Instance → Prop) (result : Except Fault Value) : Prop :=
  ∀ v, result = .ok v → v.Only P

theorem resultOnly_error {P : Instance → Prop} (fault : Fault) :
    ResultOnly P (.error fault) := nofun

section Unwrapping

section Only

variable {h : Heap} {P : Instance → Prop}

mutual

/-- Unwrapping brings in the objects behind stand-ins only. -/
theorem Heap.unwrap_only
    (hadaptee : ∀ i s, P i → h.standIn? i = some s → ∀ j ∈ s.adaptee, P j) :
    ∀ v : Value, v.Only P → (h.unwrap v).Only P
  | .object i, hi => by
      unfold Heap.unwrap Heap.adaptee?
      split
      · split
        · next adaptee hbehind =>
          obtain ⟨s, hs, hbehind⟩ := Option.bind_eq_some_iff.mp hbehind
          exact Value.only_object.mpr (hadaptee i s (Value.only_object.mp hi) hs adaptee hbehind)
        · exact Value.only_null
      · exact hi
  | .list values, hvalues => by
      rw [Heap.unwrap, Value.only_list]
      exact Heap.unwrapAll_only hadaptee values (Value.only_list.mp hvalues)
  | .array values, hvalues => by
      rw [Heap.unwrap, Value.only_array]
      exact Heap.unwrapAll_only hadaptee values (Value.only_array.mp hvalues)
  | .null, hv | .void, hv | .bool _, hv | .char _, hv | .byte _, hv | .short _, hv
  | .int _, hv | .long _, hv | .float _, hv | .double _, hv | .text _, hv => hv

theorem Heap.unwrapAll_only
    (hadaptee : ∀ i s, P i → h.standIn? i = some s → ∀ j ∈ s.adaptee, P j) :
    ∀ values : List Value, (∀ v ∈ values, v.Only P) → ∀ v ∈ h.unwrapAll values, v.Only P
  | [], _ => by simp [Heap.unwrapAll]
  | value :: values, hvalues => by
      rw [Heap.unwrapAll]
      intro v hv
      rcases List.mem_cons.mp hv with rfl | hv
      · exact Heap.unwrap_only hadaptee value (hvalues value List.mem_cons_self)
      · exact Heap.unwrapAll_only hadaptee values
          (fun v hv => hvalues v (List.mem_cons_of_mem _ hv)) v hv

end

end Only

variable {w : World}

theorem World.Closed.adaptee_made
    (hclosed : w.Closed) {i adaptee : Instance} {s : StandIn}
    (hs : w.heap.standIn? i = some s) (hadaptee : s.adaptee = some adaptee) :
    w.Made adaptee :=
  hclosed i _ (Heap.standIn?_eq_some.mp hs) adaptee hadaptee

theorem World.Closed.unwrapAll_only
    (hclosed : w.Closed) (values : List Value) (hvalues : ∀ v ∈ values, v.Only w.Made) :
    ∀ v ∈ w.heap.unwrapAll values, v.Only w.Made :=
  Heap.unwrapAll_only (fun _ _ _ hs _ hj => hclosed.adaptee_made hs hj) values hvalues

end Unwrapping

section Glue

variable {host : Host} {w : World}

theorem Handle.marshal_only
    {P : Instance → Prop} {h : Handle} {inputs args : List Value}
    (hinputs : ∀ v ∈ inputs, v.Only P) (hargs : h.marshal inputs = .ok args) :
    ∀ v ∈ args, v.Only P := by
  intro v hv hmentions
  obtain ⟨input, ⟨position, _, _, _, hinput⟩, hmentioned⟩ :=
    (Handle.arguments_mentions hargs).mp ⟨v, hv, hmentions⟩
  exact hinputs input (List.mem_of_getElem? hinput) hmentioned

theorem Handle.run_yields
    (hhonest : host.Honest w) (hclosed : w.Closed) (h : Handle)
    {receiver : Option Instance} {args : List Value} (deadline : Deadline)
    (hreceiver : ∀ i ∈ receiver, w.Made i) (hargs : ∀ v ∈ args, v.Only w.Made) :
    w.Yields (h.run host receiver args deadline w.heap).2 fun w' =>
      ResultOnly w'.Made (h.run host receiver args deadline w.heap).1 := by
  unfold run
  split
  · exact hclosed.stays (resultOnly_error _)
  next entry hentry =>
  have hyields := hhonest h.member entry hentry w (.refl w) hclosed receiver args hreceiver hargs
  simp only
  split
  · exact hyields.mono fun _ _ _ _ => resultOnly_error _
  · next v houtcome =>
    refine hyields.mono fun w' _ _ honly result hresult => ?_
    refine Conversion.apply_only hresult ?_
    unfold Ending.outcome at houtcome
    split at houtcome
    · next returned hreturned =>
      cases houtcome
      rw [hreturned] at honly
      exact honly
    · cases houtcome
    · cases houtcome
    · cases houtcome
    · split at houtcome <;> cases houtcome

theorem Handle.invoke_yields
    (hhonest : host.Honest w) (hclosed : w.Closed) (h : Handle)
    {receiver : Option Instance} {inputs : List Value} (deadline : Deadline)
    (hreceiver : ∀ i ∈ receiver, w.Made i) (hinputs : ∀ v ∈ inputs, v.Only w.Made) :
    w.Yields (h.invoke host receiver inputs deadline w.heap).2 fun w' =>
      ResultOnly w'.Made (h.invoke host receiver inputs deadline w.heap).1 := by
  unfold invoke
  split
  · exact hclosed.stays (resultOnly_error _)
  next args hargs =>
  have hargs := h.marshal_only hinputs hargs
  split
  · split
    · exact hclosed.stays (resultOnly_error _)
    · exact h.run_yields hhonest hclosed deadline hreceiver hargs
  · exact h.run_yields hhonest hclosed deadline (by simp) hargs

namespace StandIn

theorem makeAdaptee_yields
    (hhonest : host.Honest w) (hclosed : w.Closed) (b : Binding) (number : ℕ)
    (typeName : String) {inputs : List Value} (deadline : Deadline)
    (hinputs : ∀ v ∈ inputs, v.Only w.Made) :
    w.Yields (makeAdaptee b host number typeName inputs deadline w.heap).2 fun w' =>
      ∀ i, (makeAdaptee b host number typeName inputs deadline w.heap).1 =
        .ok (some i) → w'.Made i := by
  unfold makeAdaptee
  split
  · exact hclosed.stays nofun
  · exact hclosed.stays nofun
  next handle _ =>
  have hyields := handle.invoke_yields hhonest hclosed deadline
    (fun _ => nofun : ∀ i ∈ none, w.Made i) (hclosed.unwrapAll_only inputs hinputs)
  split
  · next hinvoke =>
    rw [hinvoke] at hyields
    exact hyields.mono fun _ _ _ _ => nofun
  · next j after hinvoke =>
    rw [hinvoke] at hyields
    refine hyields.mono fun w' _ _ honly i hi => ?_
    cases hi
    exact Value.only_object.mp (honly _ rfl)
  · next hinvoke =>
    rw [hinvoke] at hyields
    exact hyields.mono fun _ _ _ _ => nofun

/-- A stand-in is a new object. -/
theorem construct_yields
    (hhonest : host.Honest w) (hclosed : w.Closed) (b : Binding) (number : ℕ)
    (typeName : String) {inputs : List Value} (deadline : Deadline)
    (hinputs : ∀ v ∈ inputs, v.Only w.Made) :
    w.Yields (construct b host number typeName inputs deadline w.heap).2 fun w' =>
      ∀ i, (construct b host number typeName inputs deadline w.heap).1 = .ok i →
        w'.Made i ∧ w.heap.nextId ≤ i.id ∧ w'.heap.isStandIn i = true := by
  have hyields := makeAdaptee_yields hhonest hclosed b number typeName deadline hinputs
  unfold construct
  split
  · next hmade =>
    rw [hmade] at hyields
    exact hyields.mono fun _ _ _ _ => nofun
  · next adaptee middle hmade =>
    rw [hmade] at hyields
    refine hyields.andThen fun w' hheap hlater hclosed' hadaptee => ?_
    subst hheap
    have hcontent : (Content.standIn ⟨b.methods, adaptee, []⟩).Only w'.Made := by
      intro i hi
      have hsome : adaptee = some i := hi
      exact hadaptee i (congrArg Except.ok hsome)
    refine (hclosed'.alloc typeName hcontent).mono fun w'' _ _ hmadeNew i hi => ?_
    obtain ⟨hnew, hentry⟩ := hmadeNew
    cases hi
    refine ⟨hnew, hlater.nextId, ?_⟩
    exact Option.isSome_iff_exists.mpr ⟨_, Heap.standIn?_eq_some.mpr hentry⟩

theorem hideAdaptee_only
    {P : Instance → Prop} {standIn : Instance} {adaptee : Option Instance} {v : Value}
    (hstandIn : P standIn) (hv : v.Only P) : (hideAdaptee standIn adaptee v).Only P := by
  cases v with
  | object i =>
      simp only [hideAdaptee]
      split_ifs
      · exact Value.only_object.mpr hstandIn
      · exact hv
  | _ => exact hv

theorem log_yields
    (hclosed : w.Closed) (i : Instance) (call : LoggedCall) {R : World → Prop}
    (hR : R ⟨w.heap.log i call, w.typeOf⟩) : w.Yields (w.heap.log i call) R := by
  refine hclosed.modify (fun entry hentry => ?_) hR
  have honly := hclosed i entry hentry
  obtain ⟨content, poisoned⟩ := entry
  cases content with
  | unit => exact ⟨honly, fun _ h => ⟨_, h⟩, fun _ h => ⟨_, h⟩⟩
  | items values => exact ⟨honly, fun _ h => ⟨_, h⟩, fun _ h => ⟨_, h⟩⟩
  | standIn s =>
      refine ⟨honly, fun _ _ => ⟨_, rfl⟩, fun s' hs' => ?_⟩
      cases poisoned with
      | false => exact ⟨s, rfl⟩
      | true => cases hs'

theorem dispatch_yields
    (hhonest : host.Honest w) (hclosed : w.Closed) {i : Instance} (hi : w.Made i)
    (number : ℕ) {inputs : List Value} (deadline : Deadline)
    (hinputs : ∀ v ∈ inputs, v.Only w.Made) :
    w.Yields (dispatch host i number inputs deadline w.heap).2 fun w' =>
      ResultOnly w'.Made (dispatch host i number inputs deadline w.heap).1 := by
  unfold dispatch
  split
  · exact hclosed.stays (resultOnly_error _)
  next s hs =>
  split
  · exact hclosed.stays (resultOnly_error _)
  next handle _ =>
  have hadaptee : ∀ j ∈ s.adaptee, w.Made j :=
    fun j hj => hclosed.adaptee_made (Heap.standIn_eq_ok.mp hs) hj
  have hyields := handle.invoke_yields hhonest hclosed deadline hadaptee
    (hclosed.unwrapAll_only inputs hinputs)
  simp only
  split
  · exact hyields.mono fun _ _ _ _ => resultOnly_error _
  · refine hyields.andThen fun w' hheap hlater hclosed' honly => ?_
    rw [← hheap]
    refine log_yields hclosed' i _ fun v hv => ?_
    obtain ⟨result, hresult, rfl⟩ := exists_of_map_eq_ok hv
    exact hideAdaptee_only (P := w'.Made) (hlater.made hi) (honly result hresult)

end StandIn

end Glue

end Refit
