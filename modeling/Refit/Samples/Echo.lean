import Refit.Execution.Run
import Refit.Execution.Script
import Refit.Fitting.Fitter

/-!
# A sample without instances

A class with one static method, the interface that asks for this method, and the
adapter between the two.  The adapter makes no instance, so nothing stands behind
its stand-ins.
-/

namespace Refit.Samples

def echo : Member :=
  { name := "echo", params := [.object], returnType := .object, isStatic := true
    declaring := "demo.Util" }

def util : Component := { name := "demo.Util", id := "util", members := [echo] }

def echoWanted : Operation := ⟨"echo", [.object], .object⟩

def echoing : Interface := ⟨"Echo", [], [echoWanted]⟩

def echoCandidate : Candidate :=
  { member := echo, positions := [0], conversions := [.identity]
    distance := .ofFloat (nameDistance "echo" "echo") }

def echoAdapter : Adapter :=
  { adapterId := 0, candidateId := "util", component := "demo.Util"
    interface := "Echo", initializers := [.static], methods := [echoCandidate] }

/-- The method does as told. -/
def echoHost (b : Behaviour) : HostScript :=
  { members := [⟨"demo.Util", "echo", [.object], .never, b, false⟩] }

def echoRunner (b : Behaviour) : Runner where
  interface := echoing
  binding := ⟨echoAdapter, [none], [.ofCandidate echoCandidate]⟩
  host := (echoHost b).host
  catalog := ⟨[]⟩

end Refit.Samples
