import Refit.Execution.Handle

/-!
# Stand-ins

A stand-in is an object named after the interface.  Calls on it are handed on to the object behind
it, through the handles of an adapter, and are logged.  Stand-ins among the inputs are replaced by
what stands behind them, and a member that returns its own object returns the stand-in.
-/

namespace Refit

namespace StandIn

def noInitializer (typeName : String) (number : Nat) : Fault :=
  .illegalArgument (typeName ++ " has no initializer " ++ Nat.repr number)

def noInstance (member : String) (v : Value) : Fault :=
  .classCast (member ++ " produced " ++ v.render ++ " instead of an instance")

def noMethod (typeName : String) (number : Nat) : Fault :=
  ⟨"NoSuchMethodException", some (typeName ++ " has no desired method " ++ Nat.repr number)⟩

/-- Makes the object behind by one of the initializers. -/
def makeAdaptee (b : Binding) (host : Host) (number : Nat) (typeName : String)
    (inputs : List Value) (deadline : Deadline) (heap : Heap) :
    Except Fault (Option Instance) × Heap :=
  match b.initializers[number]? with
  | none => (.error (noInitializer typeName number), heap)
  | some none => (.ok none, heap)
  | some (some handle) =>
    match handle.invoke host none (heap.unwrapAll inputs) deadline heap with
    | (.error fault, heap) => (.error fault, heap)
    | (.ok (.object i), heap) => (.ok (some i), heap)
    | (.ok v, heap) => (.error (noInstance handle.member.text v), heap)

/-- Makes an object and the stand-in in front of it. -/
def construct (b : Binding) (host : Host) (number : Nat) (typeName : String)
    (inputs : List Value) (deadline : Deadline) (heap : Heap) : Except Fault Instance × Heap :=
  match makeAdaptee b host number typeName inputs deadline heap with
  | (.error fault, heap) => (.error fault, heap)
  | (.ok adaptee, heap) =>
    let (i, heap) := heap.alloc typeName (.standIn ⟨b.methods, adaptee, []⟩)
    (.ok i, heap)

/-- The result of a call on a stand-in: the object behind it does not get out. -/
def hideAdaptee (standIn : Instance) (adaptee : Option Instance) : Value → Value
  | .object i => if adaptee.any (·.id == i.id) then .object standIn else .object i
  | v => v

/-- Hands a call on and logs it. -/
def dispatch (host : Host) (standIn : Instance) (method : Nat) (inputs : List Value)
    (deadline : Deadline) (heap : Heap) : Except Fault Value × Heap :=
  match heap.standIn standIn with
  | .error fault => (.error fault, heap)
  | .ok s =>
    match s.methods[method]? with
    | none => (.error (noMethod standIn.typeName method), heap)
    | some handle =>
      let (result, heap) := handle.invoke host s.adaptee (heap.unwrapAll inputs) deadline heap
      let output := result.map (hideAdaptee standIn s.adaptee)
      match heap.standIn standIn with
      | .error fault => (.error fault, heap)
      | .ok _ => (output, heap.log standIn ⟨method, handle.member.text, output⟩)

end StandIn

end Refit
