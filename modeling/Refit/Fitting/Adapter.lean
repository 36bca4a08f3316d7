import Refit.Ranking.Combinations
import Refit.Signature.Interface

/-!
# Adapters

A fixed way to serve an interface with one component, and its description in reports.
-/

namespace Refit

structure Adapter where
  adapterId : Nat
  /-- The id of the component. -/
  candidateId : String
  /-- The name of the component. -/
  component : String
  interface : String
  /-- One for each constructor of the interface; a single one when it has none. -/
  initializers : List Initializer
  /-- One for each method of the interface. -/
  methods : List Candidate
  deriving Inhabited

/-- How one operation of an interface is served. -/
structure OperationReport where
  operation : String
  member : String
  declaring : String
  positions : List Nat
  conversions : List String
  returnConversion : String
  deriving DecidableEq, Repr

structure AdapterReport where
  adapterId : Nat
  candidateId : String
  component : String
  initializers : List OperationReport
  methods : List OperationReport
  deriving DecidableEq, Repr

/-- The adapters of one component for an interface. -/
structure FittingReport where
  interface : String
  adapters : List AdapterReport
  deriving DecidableEq, Repr

/-- The name reported where no instance is made. -/
def noInstanceMark : String := "_STATIC_INIT_"

def Candidate.report (operation : String) (c : Candidate) : OperationReport where
  operation
  member := c.member.text
  declaring := c.member.declaring
  positions := c.positions
  conversions := c.conversions.map (·.text)
  returnConversion := c.returnConversion.text

namespace Adapter

/-- The initializer for a construction with that many inputs. -/
def initializerTaking? (a : Adapter) (i : Interface) (arity : Nat) : Option Nat :=
  if i.constructors.isEmpty then
    if arity = 0 && !a.initializers.isEmpty then some 0 else none
  else i.constructorTaking? arity

def reportInitializer (a : Adapter) (i : Interface) (number : Nat) (init : Initializer) :
    OperationReport :=
  let operation :=
    match i.constructors[number]? with
    | some constructor => constructor.name ++ constructor.paramsText
    | none => i.name ++ "()"
  match init with
  | .constructor c => c.report operation
  | .static => ⟨operation, noInstanceMark, a.component, [], [], Conversion.identity.text⟩

def reportMethod (i : Interface) (c : Candidate) : OperationReport :=
  match i.methods[c.operation]? with
  | some method => c.report method.text
  | none => c.report c.member.name

def report (a : Adapter) (i : Interface) : AdapterReport where
  adapterId := a.adapterId
  candidateId := a.candidateId
  component := a.component
  initializers := a.initializers.zipIdx.map fun (init, number) => a.reportInitializer i number init
  methods := a.methods.map (reportMethod i)

end Adapter

def FittingReport.of (i : Interface) (adapters : List Adapter) : FittingReport :=
  ⟨i.describe, adapters.map (·.report i)⟩

end Refit
