import Refit.Error

/-!
# Settings

The knobs of a search: how many candidates are combined, which members are considered, and how long
a call may take.
-/

namespace Refit

/-- How candidates are combined to adapters: all combinations, or those of the best candidates. -/
inductive Generation where
  | exhaustive
  | capped
  deriving DecidableEq, Repr, Inhabited

namespace Generation

def word : Generation → String
  | exhaustive => "exhaustive"
  | capped => "capped"

def title : Generation → String
  | exhaustive => "Exhaustive"
  | capped => "Capped"

def all : List Generation := [exhaustive, capped]

end Generation

structure Settings where
  generation : Generation := .capped
  /-- The number of different members that one operation may use. -/
  methodMax : Nat := 5
  /-- How often one operation may use a single member. -/
  candidateMax : Nat := 5
  permutationCeiling : Nat := 250
  truncateOnOverflow : Bool := true
  /-- The number of adapters kept for a component. -/
  adapterLimit : Nat := 10
  /-- Parameters are reordered up to this number. -/
  maxParamsLength : Nat := 5
  filterAccessors : Bool := true
  includePrivate : Bool := false
  /-- The deadline of a call in milliseconds, if there is one. -/
  invocationTimeout : Option Nat := some 5000
  cacheCapacity : Nat := 64
  deriving DecidableEq, Repr, Inhabited

namespace Settings

/-- The limits that must not be zero, by name. -/
def limits (s : Settings) : List (String × Nat) :=
  [("method_max", s.methodMax), ("candidate_max", s.candidateMax),
   ("permutation_ceiling", s.permutationCeiling), ("adapter_limit", s.adapterLimit),
   ("cache_capacity", s.cacheCapacity)]

/-- Refuses settings under which nothing could ever be found or run. -/
def validate (s : Settings) : Except Error Unit :=
  match s.limits.find? (·.2 == 0) with
  | some (name, _) => .error (.belowOne name)
  | none => if s.invocationTimeout = some 0 then .error .zeroTimeout else .ok ()

/-- The settings that the adapters of a component depend on, as one text. -/
def searchKey (s : Settings) : String :=
  let flag (b : Bool) := if b then "true" else "false"
  "/".intercalate
    [s.generation.title, Nat.repr s.methodMax, Nat.repr s.candidateMax,
     Nat.repr s.permutationCeiling, flag s.truncateOnOverflow, Nat.repr s.adapterLimit,
     Nat.repr s.maxParamsLength, flag s.filterAccessors, flag s.includePrivate]

end Settings

end Refit
