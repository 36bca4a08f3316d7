import Refit.Execution.Host
import Refit.Expression.Evaluation

/-!
# Scripted hosts

A host whose code is given as data: for each member one of a few behaviours.  Objects made by such
code hold a list of values, which most behaviours read or change.
-/

namespace Refit

/-- What the code of a member does. -/
inductive Behaviour where
  /-- Makes an object of the declaring type that holds the arguments. -/
  | new
  /-- Makes an object that holds nothing. -/
  | newUnit
  /-- Makes an object of another type that holds the arguments. -/
  | make (typeName : String)
  /-- Appends the last argument and returns it. -/
  | push
  /-- Appends all arguments. -/
  | put
  | pop
  | peek
  | size
  | clear
  | items
  /-- The item at the place that the first argument gives. -/
  | get
  | contains
  | this
  | const (v : Value)
  | args
  /-- Evaluates an expression over the arguments. -/
  | eval (text : String)
  | fail (f : Fault)
  /-- Breaks down, with a message or without. -/
  | breakDown (message : Option String)
  /-- Breaks down while it holds the list of the receiver. -/
  | breakDownLocked
  | hang
  | unknown (name : String)
  deriving Inhabited

namespace Behaviour

def emptyStack : Fault := .bare "EmptyStackException"

/-- Runs `f` on the list that the receiver holds. -/
def onItems (receiver : Option Instance) (heap : Heap)
    (f : Instance → List Value → Ending × Heap) : Ending × Heap :=
  match receiver with
  | none => (.faulted (.bare "NoReceiver"), heap)
  | some i =>
    match heap.items i with
    | .error fault => (.faulted fault, heap)
    | .ok values => f i values

/-- The item at a place, counted from zero. -/
def itemAt (values : List Value) (args : List Value) : Ending :=
  let place : Int := (args.head?.bind Value.integer?).getD (-1)
  let found := if 0 ≤ place then values[place.toNat]? else none
  match found with
  | some v => .returned v
  | none =>
    .faulted ⟨"IndexOutOfBoundsException",
      some ("index " ++ toString place ++ ", size " ++ Nat.repr values.length)⟩

/-- The arguments as the results that an expression may refer to. -/
def argumentContext (args : List Value) : Expression.Context :=
  { results := args.zipIdx.map fun (v, i) => (i, v) }

def entry (b : Behaviour) (typeName : String) : EntryPoint := fun receiver args heap =>
  match b with
  | new =>
    let (i, heap) := heap.alloc typeName (.items args)
    (.returned (.object i), heap)
  | newUnit =>
    let (i, heap) := heap.alloc typeName .unit
    (.returned (.object i), heap)
  | make other =>
    let (i, heap) := heap.alloc other (.items args)
    (.returned (.object i), heap)
  | push => onItems receiver heap fun i values =>
      let item := args.getLastD .null
      (.returned item, heap.setItems i (values ++ [item]))
  | put => onItems receiver heap fun i values =>
      (.returned .void, heap.setItems i (values ++ args))
  | pop => onItems receiver heap fun i values =>
      match values.getLast? with
      | some item => (.returned item, heap.setItems i values.dropLast)
      | none => (.faulted emptyStack, heap)
  | peek => onItems receiver heap fun _ values =>
      match values.getLast? with
      | some item => (.returned item, heap)
      | none => (.faulted emptyStack, heap)
  | size => onItems receiver heap fun _ values =>
      (.returned (.int (Int32.ofNat values.length)), heap)
  | clear => onItems receiver heap fun i _ => (.returned .void, heap.setItems i [])
  | items => onItems receiver heap fun _ values => (.returned (.list values), heap)
  | get => onItems receiver heap fun _ values => (itemAt values args, heap)
  | contains => onItems receiver heap fun _ values =>
      let found :=
        match args.head? with
        | some wanted => values.any (·.same wanted)
        | none => false
      (.returned (.bool found), heap)
  | this =>
    match receiver with
    | some i => (.returned (.object i), heap)
    | none => (.returned .null, heap)
  | const v => (.returned v, heap)
  | Behaviour.args => (.returned (.list args), heap)
  | eval text =>
    match Expression.evaluate text (argumentContext args) with
    | .ok v => (.returned v, heap)
    | .error fault => (.faulted fault, heap)
  | fail f => (.faulted f, heap)
  | breakDown message => (.broke message, heap)
  | breakDownLocked => onItems receiver heap fun i _ => (.broke (some "locked"), heap.poison i)
  | hang => (.stuck, heap)
  | unknown name => (.faulted ⟨"UnknownBehaviour", some name⟩, heap)

end Behaviour

/-- How the receiver reaches the code of a member. -/
inductive Receiving where
  /-- The code sees no receiver. -/
  | never
  /-- The code is not run without one. -/
  | always
  /-- The code sees the receiver that there is. -/
  | asGiven
  deriving DecidableEq, Repr

/-- The script of one member. -/
structure MemberScript where
  typeName : String
  name : String
  params : List ValueType
  receiving : Receiving
  behaviour : Behaviour
  isSealed : Bool := false

namespace MemberScript

def needsReceiver (s : MemberScript) : Fault :=
  .nullPointer (s.typeName ++ "." ++ s.name ++ " needs a receiver")

def entry (s : MemberScript) : EntryPoint := fun receiver args heap =>
  match s.receiving, receiver with
  | .never, _ => s.behaviour.entry s.typeName none args heap
  | .always, none => (.faulted s.needsReceiver, heap)
  | .always, some i => s.behaviour.entry s.typeName (some i) args heap
  | .asGiven, receiver => s.behaviour.entry s.typeName receiver args heap

/-- Whether the script is that of a member: declaring type, name and parameters agree. -/
def serves (s : MemberScript) (typeName name : String) (params : List ValueType) : Bool :=
  s.typeName == typeName && s.name == name && s.params == params

end MemberScript

/-- How the objects of a type are shown in cells. -/
inductive SnapshotScript where
  | nothing
  /-- The plain texts of the values that the object holds. -/
  | items
  | fixed (value : Json)

/-- The scripts of all members and the views of some types. -/
structure HostScript where
  members : List MemberScript := []
  snapshots : List (String × SnapshotScript) := []

namespace HostScript

/-- Adds the script of a member in place of an earlier one. -/
def register (h : HostScript) (s : MemberScript) : HostScript :=
  { h with members := h.members.filter (!·.serves s.typeName s.name s.params) ++ [s] }

/-- Closes all members of a type that have a name. -/
def close (h : HostScript) (typeName name : String) : HostScript :=
  { h with members := h.members.map fun s =>
      if s.typeName = typeName ∧ s.name = name then { s with isSealed := true } else s }

def view (h : HostScript) (typeName : String) (s : SnapshotScript) : HostScript :=
  { h with snapshots := (typeName, s) :: h.snapshots }

def entryPoint (h : HostScript) (m : Member) : Except Error EntryPoint :=
  if !h.members.any (·.typeName == m.declaring) then .error (.unavailable m.declaring)
  else
    match h.members.find? (·.serves m.declaring m.name m.params) with
    | none => .error (.noEntryPoint m.text)
    | some s => if s.isSealed then .error (.notAccessible m.text) else .ok s.entry

/-- The code of a member is that of one of the scripts. -/
theorem entryPoint_eq_ok
    {h : HostScript} {m : Member} {entry : EntryPoint} (hentry : h.entryPoint m = .ok entry) :
    ∃ s ∈ h.members, entry = s.entry := by
  unfold entryPoint at hentry
  split at hentry
  · cases hentry
  split at hentry
  · cases hentry
  next s hs =>
  split at hentry
  · cases hentry
  · cases hentry
    exact ⟨s, List.mem_of_find?_eq_some hs, rfl⟩

def snapshot (h : HostScript) (heap : Heap) (i : Instance) : Option Json :=
  match h.snapshots.lookup i.typeName with
  | none | some .nothing => none
  | some .items =>
    match heap.items i with
    | .ok values => some (.texts (values.map (·.render)))
    | .error _ => none
  | some (.fixed value) => some value

def host (h : HostScript) : Host := ⟨h.entryPoint, h.snapshot⟩

end HostScript

end Refit
