import Refit.Execution.Heap
import Refit.Json.Value

/-!
# Hosts

A host supplies the code behind the members of components.  That code is foreign: it may return,
fault, break down or never come back, and it may change the heap.  Whatever it does, a call ends
in a value or a fault.
-/

namespace Refit

/-- How a call of foreign code ends. -/
inductive Ending where
  | returned (v : Value)
  | faulted (f : Fault)
  /-- The code broke down, with a message or without. -/
  | broke (message : Option String)
  /-- The code never comes back. -/
  | stuck

/-- The code of a member: from the receiver, the arguments and the heap to how the call ends and the
heap it leaves. -/
abbrev EntryPoint := Option Instance → List Value → Heap → Ending × Heap

structure Host where
  /-- The code of a member, or why it cannot be had. -/
  entryPoint : Member → Except Error EntryPoint
  /-- A structured view of an object, for those types that have one. -/
  snapshot : Heap → Instance → Option Json

/-- A deadline in milliseconds, if there is one. -/
abbrev Deadline := Option Nat

/-- The outcome of a call.  A call that is stuck is given up at the deadline.  Without a deadline it
would not come back at all; the fault only stands for that, and no program sees it. -/
def Ending.outcome (deadline : Deadline) : Ending → Except Fault Value
  | returned v => .ok v
  | faulted f => .error f
  | broke (some message) => .error (.illegalState message)
  | broke none => .error (.illegalState "invocation panicked")
  | stuck =>
    match deadline with
    | some ms => .error (.timeout ("invocation exceeded " ++ Nat.repr ms ++ " ms"))
    | none => .error (.timeout "invocation without a deadline")

end Refit
