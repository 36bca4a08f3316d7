import Refit.Execution.Sequence
import Refit.Execution.StandIn
import Refit.Expression.Evaluation
import Refit.Sheet.Cell

/-!
# Runs

A run takes the steps of a sequence in order.  Steps that address the interface go through the
adapter; all other types are looked up among the components and called directly.  A fault is the
output of its step, and steps that refer to a faulted step are not run.  An observer sees every step
before and after; only its refusal, or a member that stays closed, stops the run.
-/

namespace Refit

/-- A step as it ran. -/
structure RunStep where
  step : Step
  /-- The receiver, when the step has one. -/
  target : Option Value
  inputs : List Value
  /-- Missing until the step has run. -/
  output : Option (Except Fault Value)
  /-- The operation of the interface that the step addresses. -/
  nominal : String
  /-- The member that served the step. -/
  adapted : Option String
  /-- The stand-in that the step made. -/
  standIn : Option Instance

namespace RunStep

def isFault (s : RunStep) : Bool :=
  match s.output with
  | some (.error _) => true
  | _ => false

def value? (s : RunStep) : Option Value :=
  match s.output with
  | some (.ok v) => some v
  | _ => none

end RunStep

/-- What has been run of a sequence. -/
structure Run where
  name : String
  adapterId : Nat
  candidateId : String
  steps : List RunStep := []
  /-- The step that first put out a stand-in, by number of the stand-in. -/
  producers : List (Nat × Nat) := []

namespace Run

def outputAt? (r : Run) (position : Nat) : Option (Except Fault Value) :=
  (r.steps[position]?).bind (·.output)

/-- The step that a reference in a cell names. -/
def resolve? (r : Run) (cell : String) : Option RunStep :=
  match CellText.parseReference? cell with
  | some (_, row) => r.steps[row]?
  | none => none

end Run

/-- Sees every step of a run before and after.  Its state is kept when it refuses. -/
structure Observer (σ : Type) where
  before : Heap → Run → RunStep → σ → σ × Except Error Unit
  after : Heap → Run → RunStep → σ → σ × Except Error Unit

namespace Observer

/-- Sees nothing. -/
def silent : Observer σ := ⟨fun _ _ _ s => (s, .ok ()), fun _ _ _ s => (s, .ok ())⟩

/-- One visit: whether it came before the step, the position, and whether the step had faulted. -/
structure Visit where
  isBefore : Bool
  position : Nat
  isFault : Bool
  deriving DecidableEq, Repr

/-- Lists the visits in front of what another observer does. -/
def listed (v : Observer σ) : Observer (List Visit × σ) where
  before heap run step := fun (visits, s) =>
    let (s, result) := v.before heap run step s
    ((visits ++ [⟨true, step.step.position, step.isFault⟩], s), result)
  after heap run step := fun (visits, s) =>
    let (s, result) := v.after heap run step s
    ((visits ++ [⟨false, step.step.position, step.isFault⟩], s), result)

/-- Refuses one position before another observer sees it. -/
def stoppingAt (position : Option Nat) (v : Observer σ) : Observer σ where
  before heap run step s :=
    if position = some step.step.position then (s, .error (.other "visitor stopped"))
    else v.before heap run step s
  after := v.after

end Observer

/-- All that a run needs besides the sequence. -/
structure Runner where
  interface : Interface
  binding : Binding
  host : Host
  catalog : Catalog
  deadline : Deadline := none
  /-- Values that expressions may name. -/
  names : List (String × Value) := []

/-- What came of one step. -/
structure StepResult where
  output : Except Fault Value
  adapted : Option String := none
  standIn : Option Instance := none

def StepResult.fault (f : Fault) : StepResult := ⟨.error f, none, none⟩

namespace Runner

def noSuchMethod (message : String) : Fault := ⟨"NoSuchMethodException", some message⟩

def noConstructor (typeName : String) (count : Nat) : Fault :=
  noSuchMethod (typeName ++ " has no constructor taking " ++ Nat.repr count ++ " arguments")

def noMethod (typeName method : String) (count : Nat) : Fault :=
  noSuchMethod (typeName ++ "." ++ method ++ " with " ++ Nat.repr count ++ " arguments")

def onNull (typeName method : String) : Fault :=
  .nullPointer (typeName ++ "." ++ method ++ " on null")

/-- The value that a step put out, as an input of a later one. -/
def earlierOutput (run : Run) (position : Nat) : Except Fault Value :=
  match run.outputAt? position with
  | some (.ok v) => .ok v
  | some (.error f) =>
    .error (.input ("step " ++ Nat.repr position ++ " faulted with " ++ f.kind))
  | none => .error (.input ("step " ++ Nat.repr position ++ " has no output"))

def receiverOf (run : Run) (s : Step) : Except Fault (Option Value) :=
  match s.receiver? with
  | some position => (earlierOutput run position).map some
  | none => .ok none

def inputsOf (run : Run) : List StepInput → Except Fault (List Value)
  | [] => .ok []
  | .literal v :: rest => (inputsOf run rest).map (v :: ·)
  | .ref position :: rest =>
    match earlierOutput run position with
    | .error fault => .error fault
    | .ok v => (inputsOf run rest).map (v :: ·)

/-- The operation that a step addresses. -/
def nominal (p : Runner) (s : Step) : String :=
  let arity := s.inputs.length
  match s.kind with
  | .construct typeName =>
    if typeName = p.interface.name then
      match (p.interface.constructorTaking? arity).bind (p.interface.constructors[·]?) with
      | some c => c.name ++ c.paramsText
      | none => typeName ++ "()"
    else "new " ++ typeName
  | .call typeName method _ =>
    let wanted :=
      if typeName = p.interface.name then
        (p.interface.methodNumber? method arity).bind (p.interface.methods[·]?)
      else none
    match wanted with
    | some m => m.text
    | none => typeName ++ "." ++ method
  | .eval _ => "eval"

/-- Whether a value is a stand-in. -/
def isStandIn (heap : Heap) : Option Value → Bool
  | some (.object i) => heap.isStandIn i
  | _ => false

/-- Makes an instance of the interface. -/
def constructAdapted (p : Runner) (typeName : String) (inputs : List Value) (heap : Heap) :
    StepResult × Heap :=
  match p.binding.adapter.initializerTaking? p.interface inputs.length with
  | none => (.fault (noConstructor typeName inputs.length), heap)
  | some number =>
    let adapted :=
      match p.binding.initializers[number]? with
      | some (some handle) => handle.member.text
      | _ => noInstanceMark
    match StandIn.construct p.binding p.host number p.interface.name inputs p.deadline heap with
    | (.ok i, heap) => (⟨.ok (.object i), some adapted, some i⟩, heap)
    | (.error fault, heap) => (⟨.error fault, some adapted, none⟩, heap)

/-- Calls a method of the interface. -/
def callAdapted (p : Runner) (typeName method : String) (receiver : Option Value)
    (inputs : List Value) (heap : Heap) : StepResult × Heap :=
  match p.interface.methodNumber? method inputs.length with
  | none => (.fault (noMethod typeName method inputs.length), heap)
  | some number =>
    match p.binding.methods[number]? with
    | none => (.fault (noSuchMethod (typeName ++ "." ++ method)), heap)
    | some handle =>
      let served (r : Except Fault Value × Heap) : StepResult × Heap :=
        (⟨r.1, some handle.member.text, none⟩, r.2)
      match receiver with
      | none => served (handle.invoke p.host none inputs p.deadline heap)
      | some .null => served (.error (onNull typeName method), heap)
      | some v =>
        match v with
        | .object i =>
          if heap.isStandIn i then served (StandIn.dispatch p.host i number inputs p.deadline heap)
          else served (.error (.classCast (v.render ++ " is not a " ++ typeName)), heap)
        | _ => served (.error (.classCast (v.render ++ " is not a " ++ typeName)), heap)

/-- Calls a member as it is.  One that cannot be linked faults, one that is closed stops the run. -/
def callAsIs (p : Runner) (m : Member) (receiver : Option Instance) (inputs : List Value)
    (heap : Heap) : Except Error StepResult × Heap :=
  match (Handle.ofMember m).link p.host with
  | .error e =>
    if e.stopsRun then (.error e, heap)
    else (.ok (.fault ⟨"LinkageError", some e.message⟩), heap)
  | .ok handle =>
    let (output, heap) := handle.invoke p.host receiver inputs p.deadline heap
    (.ok ⟨output, some m.text, none⟩, heap)

/-- The constructor of a known component with that many parameters; one that declares none has one
without. -/
def constructorOf? (p : Runner) (typeName : String) (arity : Nat) : Option Member :=
  match p.catalog.findConstructor? typeName arity with
  | some m => some m
  | none =>
    let declaresNone :=
      match p.catalog.get? typeName with
      | some c => c.constructors.isEmpty
      | none => false
    if arity = 0 && declaresNone then
      some { name := Member.constructorName, kind := .constructor, declaring := typeName }
    else none

/-- Makes an instance of a component. -/
def constructComponent (p : Runner) (typeName : String) (inputs : List Value) (heap : Heap) :
    Except Error StepResult × Heap :=
  match p.constructorOf? typeName inputs.length with
  | none => (.ok (.fault (noConstructor typeName inputs.length)), heap)
  | some m => p.callAsIs m none inputs heap

/-- Calls the method that the type of the receiver has, or else the type that the step names. -/
def callComponent (p : Runner) (typeName method : String) (receiver : Option Value)
    (inputs : List Value) (heap : Heap) : Except Error StepResult × Heap :=
  let call (i : Option Instance) : Except Error StepResult × Heap :=
    let owner :=
      match i with
      | some i => i.typeName
      | none => typeName
    let found :=
      (p.catalog.findMethod? owner method inputs.length).or
        (p.catalog.findMethod? typeName method inputs.length)
    match found with
    | none => (.ok (.fault (noMethod owner method inputs.length)), heap)
    | some m => p.callAsIs m i inputs heap
  match receiver with
  | none => call none
  | some (.object i) => call (some i)
  | some .null => (.ok (.fault (onNull typeName method)), heap)
  | some v =>
    (.ok (.fault (.illegalArgument ("cannot call " ++ method ++ " on " ++ v.render))), heap)

/-- The earlier outputs and the names that an expression may refer to. -/
def context (p : Runner) (run : Run) : Expression.Context where
  results := run.steps.filterMap fun s => s.value?.map fun v => (s.step.position, v)
  names := p.names

/-- Runs one step whose receiver and inputs are known. -/
def runStep (p : Runner) (run : Run) (s : Step) (receiver : Option Value)
    (inputs : List Value) (heap : Heap) : Except Error StepResult × Heap :=
  match s.kind with
  | .construct typeName =>
    if typeName = p.interface.name then
      let (result, heap) := p.constructAdapted typeName inputs heap
      (.ok result, heap)
    else p.constructComponent typeName inputs heap
  | .call typeName method _ =>
    if typeName = p.interface.name || isStandIn heap receiver then
      let (result, heap) := p.callAdapted typeName method receiver inputs heap
      (.ok result, heap)
    else p.callComponent typeName method receiver inputs heap
  | .eval text => (.ok ⟨Expression.evaluate text (p.context run), none, none⟩, heap)

/-- The producers after a step: the stand-in that it made counts anew, one that it only returned
keeps its first producer. -/
def producersAfter (heap : Heap) (producers : List (Nat × Nat)) (position : Nat)
    (result : StepResult) : List (Nat × Nat) :=
  let producers :=
    match result.standIn with
    | some i => (i.id, position) :: producers.filter (·.1 ≠ i.id)
    | none => producers
  match result.output with
  | .ok (.object i) =>
    if heap.isStandIn i && (producers.lookup i.id).isNone then (i.id, position) :: producers
    else producers
  | _ => producers

/-- A step before it runs. -/
def prepared (p : Runner) (s : Step) (receiver : Except Fault (Option Value))
    (inputs : Except Fault (List Value)) : RunStep where
  step := s
  target :=
    match receiver with
    | .ok target => target
    | .error _ => none
  inputs :=
    match inputs with
    | .ok values => values
    | .error _ => []
  output := none
  nominal := p.nominal s
  adapted := none
  standIn := none

/-- Runs a step unless its receiver or its inputs are faulted. -/
def perform (p : Runner) (run : Run) (s : Step) (receiver : Except Fault (Option Value))
    (inputs : Except Fault (List Value)) (heap : Heap) : Except Error StepResult × Heap :=
  match receiver, inputs with
  | .error fault, _ => (.ok (.fault fault), heap)
  | .ok _, .error fault => (.ok (.fault fault), heap)
  | .ok receiver, .ok inputs => p.runStep run s receiver inputs heap

/-- The run after a step. -/
def extended (run : Run) (heap : Heap) (prepared : RunStep) (result : StepResult) : Run × RunStep :=
  let done :=
    { prepared with
      output := some result.output, adapted := result.adapted, standIn := result.standIn }
  let producers := producersAfter heap run.producers prepared.step.position result
  ({ run with producers, steps := run.steps ++ [done] }, done)

/-- What a run leaves: the heap, the state of the observer, and the run unless it was stopped. -/
structure Outcome (σ : Type) where
  heap : Heap
  visitor : σ
  result : Except Error Run

/-- Runs the steps that are left. -/
def executeFrom (p : Runner) (v : Observer σ) (run : Run) :
    List Step → Heap → σ → Outcome σ
  | [], heap, state => ⟨heap, state, .ok run⟩
  | s :: rest, heap, state =>
    let receiver := receiverOf run s
    let inputs := inputsOf run s.inputs
    let prepared := p.prepared s receiver inputs
    match v.before heap run prepared state with
    | (state, .error e) => ⟨heap, state, .error e⟩
    | (state, .ok _) =>
      match p.perform run s receiver inputs heap with
      | (.error e, heap) => ⟨heap, state, .error e⟩
      | (.ok result, heap) =>
        let (run, done) := extended run heap prepared result
        match v.after heap run done state with
        | (state, .error e) => ⟨heap, state, .error e⟩
        | (state, .ok _) => executeFrom p v run rest heap state

/-- Runs a sequence. -/
def execute (p : Runner) (v : Observer σ) (sequence : Sequence) (heap : Heap) (state : σ) :
    Outcome σ :=
  let adapter := p.binding.adapter
  p.executeFrom v ⟨sequence.name, adapter.adapterId, adapter.candidateId, [], []⟩ sequence.steps
    heap state

end Runner

end Refit
