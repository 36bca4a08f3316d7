import Refit.Error
import Refit.Value

/-!
# Sequences

A sequence is a named list of steps: constructions, calls and expressions.  The inputs of a step are
values or the outputs of earlier steps; a sequence that refers forward is refused.
-/

namespace Refit

/-- A value, or the output of a step. -/
inductive StepInput where
  | literal (v : Value)
  | ref (step : Nat)
  deriving Inhabited

inductive StepKind where
  | construct (typeName : String)
  /-- A call on the output of a step, or a static call. -/
  | call (typeName method : String) (receiver : Option Nat)
  | eval (text : String)
  deriving DecidableEq, Repr, Inhabited

structure Step where
  position : Nat
  kind : StepKind
  inputs : List StepInput
  deriving Inhabited

namespace Step

/-- The operation as sheets name it. -/
def operation (s : Step) : String :=
  match s.kind with
  | .construct _ => "create"
  | .call _ method _ => method
  | .eval _ => "eval"

def typeName? (s : Step) : Option String :=
  match s.kind with
  | .construct typeName | .call typeName _ _ => some typeName
  | .eval _ => none

def receiver? (s : Step) : Option Nat :=
  match s.kind with
  | .call _ _ receiver => receiver
  | _ => none

def inputRefs (s : Step) : List Nat :=
  s.inputs.filterMap fun
    | .ref step => some step
    | .literal _ => none

/-- The steps that the step refers to, its receiver first. -/
def references (s : Step) : List Nat := s.receiver?.toList ++ s.inputRefs

end Step

structure Sequence where
  name : String
  steps : List Step
  deriving Inhabited

namespace Sequence

/-- The steps in the order given, numbered from zero. -/
def ofKinds (name : String) (kinds : List (StepKind × List StepInput)) : Sequence :=
  ⟨name, kinds.zipIdx.map fun ((kind, inputs), position) => ⟨position, kind, inputs⟩⟩

/-- The first reference of the steps to one that does not come before, with the step that has it. -/
def forwardReference? : List Step → Option (Nat × Nat)
  | [] => none
  | s :: rest =>
    match s.references.find? (s.position ≤ ·) with
    | some bad => some (s.position, bad)
    | none => forwardReference? rest

/-- A sequence whose steps refer to earlier steps only. -/
def build (name : String) (kinds : List (StepKind × List StepInput)) : Except Error Sequence :=
  let sequence := ofKinds name kinds
  match forwardReference? sequence.steps with
  | some (step, bad) => .error (.forwardReference step name bad)
  | none => .ok sequence

end Sequence

end Refit
