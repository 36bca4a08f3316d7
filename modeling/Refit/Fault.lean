/-!
# Faults

A failure of foreign code, or of the glue in front of it.  Faults are data: a run goes on after one.
-/

namespace Refit

structure Fault where
  kind : String
  message : Option String
  deriving DecidableEq, Repr

namespace Fault

/-- The fault as one line. -/
def text (f : Fault) : String :=
  match f.message with
  | some message => f.kind ++ ": " ++ message
  | none => f.kind

def bare (kind : String) : Fault := ⟨kind, none⟩

def nullPointer (message : String) : Fault := ⟨"NullPointerException", some message⟩

def classCast (message : String) : Fault := ⟨"ClassCastException", some message⟩

def illegalArgument (message : String) : Fault := ⟨"IllegalArgumentException", some message⟩

def illegalState (message : String) : Fault := ⟨"IllegalStateException", some message⟩

def arithmetic (message : String) : Fault := ⟨"ArithmeticException", some message⟩

def timeout (message : String) : Fault := ⟨"Timeout", some message⟩

def evaluation (message : String) : Fault := ⟨"EvalError", some message⟩

def input (message : String) : Fault := ⟨"InputFault", some message⟩

end Fault

end Refit
