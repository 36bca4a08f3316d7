import Refit.Execution.Run
import Refit.Ranking.Combinations
import Refit.Trial.Similarity
import Refit.Wire.Hosts

/-!
# Runs and results as JSON

What was worked out, run or compared is only written, never read.
-/

namespace Refit.Wire

def writeHierarchy (h : Hierarchy) : Json :=
  .record [("supertypes", .texts h.supertypes), ("interfaces", .texts h.interfaces),
    ("inherited", .list (h.inherited.map writeMember))]

def writeAssignment (a : Assignment) : Json :=
  .record [("methods", .list (a.methods.map (Json.orNull fun c => .text c.brief))),
    ("complete", .bool a.isComplete), ("direct", .nat (directCount a.chosen)),
    ("distance", writeDouble (totalDistance a.chosen))]

def writeCall (call : LoggedCall) : Json :=
  .list [.nat call.method, .text call.member, writeOutcome call.output]

/-- An object with what stands behind it and the log of calls on it. -/
def writeStandIn (heap : Heap) (i : Instance) : Json :=
  .record [("proxy", .bool (heap.isStandIn i)),
    ("adaptee", Json.orNull writeObject (heap.adaptee? i)),
    ("calls", .list ((heap.calls i).map writeCall)), ("busy", .bool false),
    ("debug", .text i.shown)]

def writeRunStep (heap : Heap) (s : RunStep) : Json :=
  .record [("position", .nat s.step.position), ("target", Json.orNull writeValue s.target),
    ("inputs", .list (writeValues s.inputs)), ("output", Json.orNull writeOutcome s.output),
    ("nominal", .text s.nominal), ("adapted", Json.orNull .text s.adapted),
    ("proxy", Json.orNull (writeStandIn heap) s.standIn)]

/-- The cells of a sheet that refer to steps, with the steps. -/
def writeReferences (r : Run) (s : Sheet) : List Json :=
  s.cells.filterMap fun ((row, column), cell) =>
    if CellText.isReference cell then
      let position := (r.resolve? cell).map (·.step.position)
      some (.list [.nat row, .nat column, Json.orNull .nat position])
    else none

/-- A run with the references on its actuation sheet. -/
def writeRun (heap : Heap) (actuation : Sheet) (r : Run) : Json :=
  let producers := r.producers.mergeSort fun a b => a.1 ≤ b.1
  .record [("name", .text r.name), ("adapter", .nat r.adapterId),
    ("candidate", .text r.candidateId), ("steps", .list (r.steps.map (writeRunStep heap))),
    ("producers", .list (producers.map fun (id, row) => .list [.nat id, .nat row])),
    ("references", .list (writeReferences r actuation))]

def writeVisit (v : Observer.Visit) : Json :=
  .text ((if v.isBefore then "before " else "after ") ++ Nat.repr v.position ++
    if v.isFault then " true" else " false")

def writeSimilarity (s : Similarity) : Json :=
  .record [("system", .text s.systemId), ("matches", .nat s.agreements), ("total", .nat s.total),
    ("vector", .text (Similarity.bits s.vector)), ("empty", .bool s.vector.isEmpty),
    ("score", writeDouble s.score)]

end Refit.Wire
