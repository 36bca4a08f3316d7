import Refit.Sheet.Recorder
import Refit.Signature.Interface
import Refit.Trial.Similarity

/-!
# Trials

A trial fits all selected components to one interface and runs the same sequences on each of them.
This file holds what is asked for and what comes of it.
-/

namespace Refit

structure TrialRequest where
  executionId : String
  actionId : String
  interface : Interface
  sequences : List Sequence
  /-- The ids of the components to try; all classes when empty. -/
  candidates : List String := []

def TrialRequest.selects (r : TrialRequest) (c : Component) : Bool :=
  if r.candidates.isEmpty then c.kind ≠ .interface else r.candidates.contains c.id

/-- What came of a component. -/
inductive Verdict where
  | adapted (adapters : Nat)
  | notAdaptable
  /-- No adapter could be bound. -/
  | failed (reason : String)
  deriving DecidableEq, Repr, Inhabited

structure ComponentSummary where
  candidateId : String
  component : String
  status : Verdict
  deriving DecidableEq, Repr, Inhabited

/-- How the run of a sequence ended. -/
inductive RunEnding where
  | completed
  | aborted (reason : String)
  deriving DecidableEq, Repr, Inhabited

/-- One sequence on one adapter. -/
structure RunRecord where
  candidateId : String
  adapterId : Nat
  sequence : String
  outcome : RunEnding
  recording : Recording
  deriving DecidableEq, Repr

def RunRecord.systemId (r : RunRecord) : String :=
  r.candidateId ++ "#" ++ Nat.repr r.adapterId

structure TrialReport where
  executionId : String
  candidates : List ComponentSummary := []
  records : List RunRecord := []
  deriving Repr

namespace TrialReport

def verdictOf? (r : TrialReport) (candidateId : String) : Option Verdict :=
  (r.candidates.find? (·.candidateId == candidateId)).map (·.status)

def recordsFor (r : TrialReport) (candidateId : String) : List RunRecord :=
  r.records.filter (·.candidateId == candidateId)

/-- Adds a sheet to the observation of its system, behind all others when it is the first. -/
def observe (systemId : String) (s : Sheet) : List Observation → List Observation
  | [] => [⟨systemId, [s]⟩]
  | o :: rest =>
    if o.systemId = systemId then { o with sheets := o.sheets ++ [s] } :: rest
    else o :: observe systemId s rest

/-- What every system was seen to do. -/
def observations (r : TrialReport) : List Observation :=
  r.records.foldl (fun done record => observe record.systemId record.recording.actuation done) []

/-- The comparison of all other systems with one of them, if it was seen. -/
def similarity? (r : TrialReport) (oracle : String) (columns : List Nat) :
    Option (List Similarity) :=
  let (oracles, others) := r.observations.partition (·.systemId == oracle)
  oracles.head?.map fun o => Similarity.evaluate columns o others

end TrialReport

end Refit
