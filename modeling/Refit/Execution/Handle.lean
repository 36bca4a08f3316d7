import Refit.Execution.Host
import Refit.Fitting.Adapter
import Refit.Text.Quoted

/-!
# Handles

A handle calls a member through glue.  The arguments are the converted inputs in the order of the
positions, and the result is converted on the way back.  An adapter is bound to a host when the host
has the code of all its members.
-/

namespace Refit

namespace Handle

def ofCandidate (c : Candidate) : Handle :=
  ⟨c.member, c.positions, c.conversions, c.returnConversion⟩

/-- The member as it is: inputs in declared order, nothing converted. -/
def ofMember (m : Member) : Handle :=
  ⟨m, List.range m.arity, List.replicate m.arity .identity, .identity⟩

/-- The handle, provided that the host has the code of its member. -/
def link (host : Host) (handle : Handle) : Except Error Handle :=
  match host.entryPoint handle.member with
  | .error e => .error e
  | .ok _ => .ok handle

/-- The handle as debug texts show it. -/
def shown (h : Handle) : String :=
  "CallableHandle \x7b member: " ++ Text.quoted h.member.text ++
    ", positions: [" ++ ", ".intercalate (h.positions.map Nat.repr) ++
    "], conversions: [" ++ ", ".intercalate (h.conversions.map (·.shown)) ++
    "], return_conversion: " ++ h.returnConversion.shown ++ " \x7d"

/-- One argument: the input at a position, converted. -/
def argument (h : Handle) (inputs : List Value) (position : Nat) (conversion : Conversion) :
    Except Fault Value :=
  match inputs[position]? with
  | some input => conversion.apply input
  | none =>
    .error (.illegalArgument (h.member.text ++ " expects input " ++ Nat.repr position ++ " of " ++
      Nat.repr inputs.length))

def arguments (h : Handle) (inputs : List Value) :
    List (Nat × Conversion) → Except Fault (List Value)
  | [] => .ok []
  | (position, conversion) :: rest =>
    match h.argument inputs position conversion with
    | .error fault => .error fault
    | .ok v =>
      match arguments h inputs rest with
      | .error fault => .error fault
      | .ok vs => .ok (v :: vs)

/-- The arguments of the member from the inputs of the operation. -/
def marshal (h : Handle) (inputs : List Value) : Except Fault (List Value) :=
  h.arguments inputs (h.positions.zip h.conversions)

/-- Constructors and static members have no receiver. -/
def needsReceiver (h : Handle) : Bool := !h.member.isStatic && !h.member.isConstructor

/-- Runs the code of the member.  A handle that the host does not serve faults. -/
def run (h : Handle) (host : Host) (receiver : Option Instance) (args : List Value)
    (deadline : Deadline) (heap : Heap) : Except Fault Value × Heap :=
  match host.entryPoint h.member with
  | .error e => (.error ⟨"LinkageError", some e.message⟩, heap)
  | .ok entry =>
    let (ending, heap) := entry receiver args heap
    match ending.outcome deadline with
    | .error fault => (.error fault, heap)
    | .ok v => (h.returnConversion.apply v, heap)

/-- Calls the member on the inputs of the operation. -/
def invoke (h : Handle) (host : Host) (receiver : Option Instance) (inputs : List Value)
    (deadline : Deadline) (heap : Heap) : Except Fault Value × Heap :=
  match h.marshal inputs with
  | .error fault => (.error fault, heap)
  | .ok args =>
    if h.needsReceiver then
      match receiver with
      | none => (.error (.nullPointer (h.member.text ++ " called without a receiver")), heap)
      | some r => h.run host (some r) args deadline heap
    else h.run host none args deadline heap

end Handle

/-- All members of an adapter, each with its glue.  No handle stands where no instance is made. -/
structure Binding where
  adapter : Adapter
  initializers : List (Option Handle)
  methods : List Handle

namespace Binding

def linkInitializer (host : Host) : Initializer → Except Error (Option Handle)
  | .constructor c => ((Handle.ofCandidate c).link host).map some
  | .static => .ok none

/-- Binds an adapter to a host; the first member that cannot be had decides. -/
def bind (host : Host) (a : Adapter) : Except Error Binding :=
  match a.initializers.mapM (linkInitializer host) with
  | .error e => .error e
  | .ok initializers =>
    match a.methods.mapM fun c => (Handle.ofCandidate c).link host with
    | .error e => .error e
    | .ok methods => .ok ⟨a, initializers, methods⟩

end Binding

end Refit
