import Refit.Proofs.Execution.Moments

/-!
# Foreign calls of a step

The glue in front of a member only prepares one call of foreign code.  What that
call is given is read off the step, and the outcome of the step depends on the
host through this call alone.
-/

namespace Refit

/-- What a handle gives to the code of its member. -/
structure ForeignCall where
  handle : Handle
  receiver : Option Instance
  args : List Value

namespace ForeignCall

def run (call : ForeignCall) (host : Host) (deadline : Deadline) (heap : Heap) :
    Except Fault Value × Heap :=
  call.handle.run host call.receiver call.args deadline heap

end ForeignCall

namespace Handle

/-- The call that a handle makes, unless the glue in front of it faults. -/
def call? (h : Handle) (receiver : Option Instance) (inputs : List Value) :
    Option ForeignCall :=
  match h.marshal inputs with
  | .error _ => none
  | .ok args =>
    if h.needsReceiver then receiver.map fun r => ⟨h, some r, args⟩
    else some ⟨h, none, args⟩

theorem marshal_of_call?
    {h : Handle} {receiver : Option Instance} {inputs : List Value}
    {call : ForeignCall} (hcall : h.call? receiver inputs = some call) :
    call.handle = h ∧ h.marshal inputs = .ok call.args := by
  unfold call? at hcall
  split at hcall
  · cases hcall
  next args hargs =>
  split at hcall
  · obtain ⟨r, -, rfl⟩ := Option.map_eq_some_iff.mp hcall
    exact ⟨rfl, hargs⟩
  · cases hcall
    exact ⟨rfl, hargs⟩

theorem invoke_of_call?
    {h : Handle} {receiver : Option Instance} {inputs : List Value}
    {call : ForeignCall} (hcall : h.call? receiver inputs = some call)
    (host : Host) (deadline : Deadline) (heap : Heap) :
    h.invoke host receiver inputs deadline heap = call.run host deadline heap := by
  unfold call? at hcall
  unfold invoke
  cases hargs : h.marshal inputs with
  | error fault =>
      rw [hargs] at hcall
      cases hcall
  | ok args =>
      rw [hargs] at hcall
      simp only at hcall ⊢
      by_cases hneeds : h.needsReceiver = true
      · rw [if_pos hneeds] at hcall ⊢
        obtain ⟨r, rfl, rfl⟩ := Option.map_eq_some_iff.mp hcall
        rfl
      · rw [if_neg hneeds] at hcall ⊢
        cases hcall
        rfl

theorem invoke_of_no_call
    {h : Handle} {receiver : Option Instance} {inputs : List Value}
    (hcall : h.call? receiver inputs = none) :
    ∃ fault, ∀ (host : Host) (deadline : Deadline) (heap : Heap),
      h.invoke host receiver inputs deadline heap = (.error fault, heap) := by
  unfold call? at hcall
  unfold invoke
  cases hargs : h.marshal inputs with
  | error fault => exact ⟨fault, fun _ _ _ => rfl⟩
  | ok args =>
      rw [hargs] at hcall
      simp only at hcall ⊢
      by_cases hneeds : h.needsReceiver = true
      · rw [if_pos hneeds, Option.map_eq_none_iff] at hcall
        subst hcall
        exact ⟨_, fun _ _ _ => by rw [if_pos hneeds]⟩
      · rw [if_neg hneeds] at hcall
        cases hcall

end Handle

namespace Runner

/-- The foreign call of a construction through the adapter. -/
def constructCall? (p : Runner) (inputs : List Value) (heap : Heap) :
    Option ForeignCall :=
  match (p.binding.adapter.initializerTaking? p.interface inputs.length).bind
      (p.binding.initializers[·]?) with
  | some (some handle) => handle.call? none (heap.unwrapAll inputs)
  | _ => none

/-- The foreign call of a call on a stand-in. -/
def dispatchCall? (number : ℕ) (i : Instance) (inputs : List Value)
    (heap : Heap) : Option ForeignCall :=
  match heap.standIn? i with
  | none => none
  | some s =>
    (s.methods[number]?).bind fun handle =>
      handle.call? s.adaptee (heap.unwrapAll inputs)

/-- The foreign call of a call through the adapter. -/
def methodCall? (p : Runner) (method : String) (receiver : Option Value)
    (inputs : List Value) (heap : Heap) : Option ForeignCall :=
  match p.interface.methodNumber? method inputs.length with
  | none => none
  | some number =>
    match p.binding.methods[number]?, receiver with
    | some handle, none => handle.call? none inputs
    | some _, some (.object i) => dispatchCall? number i inputs heap
    | _, _ => none

/-- Whether a step goes through the adapter. -/
def ThroughAdapter (p : Runner) (s : Step) (receiver : Option Value)
    (heap : Heap) : Prop :=
  match s.kind with
  | .construct typeName => typeName = p.interface.name
  | .call typeName _ _ =>
    typeName = p.interface.name ∨ isStandIn heap receiver = true
  | .eval _ => False

/-- The foreign call of a step that goes through the adapter. -/
def call? (p : Runner) (s : Step) (receiver : Option Value)
    (inputs : List Value) (heap : Heap) : Option ForeignCall :=
  match s.kind with
  | .construct typeName =>
    if typeName = p.interface.name then p.constructCall? inputs heap else none
  | .call typeName method _ =>
    if typeName = p.interface.name || isStandIn heap receiver then
      p.methodCall? method receiver inputs heap
    else none
  | .eval _ => none

theorem constructAdapted_factors
    {p : Runner} {inputs : List Value} {heap : Heap} {call : ForeignCall}
    (hcall : p.constructCall? inputs heap = some call) (typeName : String) :
    Function.FactorsThrough
      (fun host => { p with host }.constructAdapted typeName inputs heap)
      (fun host => call.run host p.deadline heap) := by
  intro host host' hsame
  unfold constructCall? at hcall
  split at hcall
  · next handle hhandle =>
    obtain ⟨number, hnumber, hinitializer⟩ := Option.bind_eq_some_iff.mp hhandle
    simp only [constructAdapted, StandIn.construct, StandIn.makeAdaptee, hnumber,
      hinitializer, Handle.invoke_of_call? hcall, hsame]
  · cases hcall

theorem dispatch_factors
    {number : ℕ} {i : Instance} {inputs : List Value} {heap : Heap}
    {call : ForeignCall} (hcall : dispatchCall? number i inputs heap = some call)
    (deadline : Deadline) :
    Function.FactorsThrough
      (fun host => StandIn.dispatch host i number inputs deadline heap)
      (fun host => call.run host deadline heap) := by
  intro host host' hsame
  unfold dispatchCall? at hcall
  split at hcall
  · cases hcall
  next s hs =>
  obtain ⟨handle, hhandle, hinvoke⟩ := Option.bind_eq_some_iff.mp hcall
  have hread : heap.standIn i = .ok s := Heap.standIn_eq_ok.mpr hs
  simp only [StandIn.dispatch, hread, hhandle, Handle.invoke_of_call? hinvoke,
    hsame]

theorem callAdapted_factors
    {p : Runner} {method : String} {receiver : Option Value}
    {inputs : List Value} {heap : Heap} {call : ForeignCall}
    (hcall : p.methodCall? method receiver inputs heap = some call)
    (typeName : String) :
    Function.FactorsThrough
      (fun host =>
        { p with host }.callAdapted typeName method receiver inputs heap)
      (fun host => call.run host p.deadline heap) := by
  intro host host' hsame
  unfold methodCall? at hcall
  split at hcall
  · cases hcall
  next number hnumber =>
  split at hcall
  · next handle hhandle =>
    simp only [callAdapted, hnumber, hhandle, Handle.invoke_of_call? hcall, hsame]
  · next handle i hhandle =>
    have hdispatch := dispatch_factors hcall p.deadline hsame
    have hstandIn : heap.isStandIn i = true := by
      unfold dispatchCall? at hcall
      cases hs : heap.standIn? i with
      | none => simp [hs] at hcall
      | some s => simp [Heap.isStandIn, hs]
    simp only at hdispatch
    simp only [callAdapted, hnumber, hhandle, hstandIn, if_true, hdispatch]
  · cases hcall

/-- What comes of a step through the adapter depends on the host through the
foreign call of the step alone. -/
theorem runStep_factors
    {p : Runner} {s : Step} {receiver : Option Value} {inputs : List Value}
    {heap : Heap} {call : ForeignCall}
    (hcall : p.call? s receiver inputs heap = some call) (run : Run) :
    Function.FactorsThrough
      (fun host => { p with host }.runStep run s receiver inputs heap)
      (fun host => call.run host p.deadline heap) := by
  intro host host' hsame
  unfold call? at hcall
  unfold runStep
  cases hkind : s.kind with
  | construct typeName =>
      simp only [hkind] at hcall ⊢
      by_cases hname : typeName = p.interface.name
      · rw [if_pos hname] at hcall
        simp only [if_pos hname, constructAdapted_factors hcall typeName hsame]
      · rw [if_neg hname] at hcall
        cases hcall
  | call typeName method position =>
      simp only [hkind] at hcall ⊢
      by_cases hthrough :
          (typeName = p.interface.name || isStandIn heap receiver) = true
      · rw [if_pos hthrough] at hcall
        simp only [if_pos hthrough, callAdapted_factors hcall typeName hsame]
      · rw [if_neg hthrough] at hcall
        cases hcall
  | eval text =>
      simp only [hkind] at hcall
      cases hcall

theorem constructAdapted_of_no_call
    {p : Runner} {inputs : List Value} {heap : Heap}
    (hcall : p.constructCall? inputs heap = none) (typeName : String)
    (host host' : Host) :
    { p with host }.constructAdapted typeName inputs heap =
      { p with host := host' }.constructAdapted typeName inputs heap := by
  cases hnumber :
      p.binding.adapter.initializerTaking? p.interface inputs.length with
  | none => simp only [constructAdapted, hnumber]
  | some number =>
      cases hinitializer : p.binding.initializers[number]? with
      | none =>
          simp only [constructAdapted, StandIn.construct, StandIn.makeAdaptee,
            hnumber, hinitializer]
      | some initializer =>
          cases initializer with
          | none =>
              simp only [constructAdapted, StandIn.construct,
                StandIn.makeAdaptee, hnumber, hinitializer]
          | some handle =>
              simp only [constructCall?, hnumber, Option.bind_some,
                hinitializer] at hcall
              obtain ⟨fault, hfault⟩ := Handle.invoke_of_no_call hcall
              simp only [constructAdapted, StandIn.construct,
                StandIn.makeAdaptee, hnumber, hinitializer, hfault]

theorem dispatch_of_no_call
    {number : ℕ} {i : Instance} {inputs : List Value} {heap : Heap}
    (hcall : dispatchCall? number i inputs heap = none) (deadline : Deadline)
    (host host' : Host) :
    StandIn.dispatch host i number inputs deadline heap =
      StandIn.dispatch host' i number inputs deadline heap := by
  cases hread : heap.standIn i with
  | error fault => simp only [StandIn.dispatch, hread]
  | ok s =>
      have hs : heap.standIn? i = some s := Heap.standIn_eq_ok.mp hread
      cases hhandle : s.methods[number]? with
      | none => simp only [StandIn.dispatch, hread, hhandle]
      | some handle =>
          simp only [dispatchCall?, hs, hhandle, Option.bind_some] at hcall
          obtain ⟨fault, hfault⟩ := Handle.invoke_of_no_call hcall
          simp only [StandIn.dispatch, hread, hhandle, hfault]

theorem callAdapted_of_no_call
    {p : Runner} {method : String} {receiver : Option Value}
    {inputs : List Value} {heap : Heap}
    (hcall : p.methodCall? method receiver inputs heap = none)
    (typeName : String) (host host' : Host) :
    { p with host }.callAdapted typeName method receiver inputs heap =
      { p with host := host' }.callAdapted typeName method receiver inputs
        heap := by
  cases hnumber : p.interface.methodNumber? method inputs.length with
  | none => simp only [callAdapted, hnumber]
  | some number =>
      cases hhandle : p.binding.methods[number]? with
      | none => simp only [callAdapted, hnumber, hhandle]
      | some handle =>
          simp only [methodCall?, hnumber, hhandle] at hcall
          cases receiver with
          | none =>
              obtain ⟨fault, hfault⟩ := Handle.invoke_of_no_call hcall
              simp only [callAdapted, hnumber, hhandle, hfault]
          | some v =>
              cases v with
              | object i =>
                  have hdispatch := dispatch_of_no_call hcall p.deadline host host'
                  simp only [callAdapted, hnumber, hhandle, hdispatch]
              | null | void | bool | char | byte | short | int | long | float
              | double | text | array | list =>
                  simp only [callAdapted, hnumber, hhandle]

/-- A step through the adapter without a foreign call runs no foreign code. -/
theorem runStep_of_no_call
    {p : Runner} {s : Step} {receiver : Option Value} {inputs : List Value}
    {heap : Heap} (hthrough : p.ThroughAdapter s receiver heap)
    (hcall : p.call? s receiver inputs heap = none) (run : Run)
    (host host' : Host) :
    { p with host }.runStep run s receiver inputs heap =
      { p with host := host' }.runStep run s receiver inputs heap := by
  unfold ThroughAdapter at hthrough
  unfold call? at hcall
  unfold runStep
  split at hthrough
  · next typeName hkind =>
    simp only [hkind, if_pos hthrough] at hcall ⊢
    rw [constructAdapted_of_no_call hcall typeName host host']
  · next typeName method position hkind =>
    have hpath : (typeName = p.interface.name || isStandIn heap receiver) = true := by
      simpa using hthrough
    simp only [hkind, if_pos hpath] at hcall ⊢
    rw [callAdapted_of_no_call hcall typeName host host']
  · exact hthrough.elim

end Runner

end Refit
