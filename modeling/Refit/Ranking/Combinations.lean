import Refit.Ranking.Cap
import Refit.Settings.Basic

/-!
# Combinations of candidates

From one list of candidates per method to full assignments: one candidate for every method.  The
exhaustive way takes the whole product of the lists, the capped way that of their best parts.
-/

namespace Refit

/-- The elements that are equal to none of those that were seen, when each one that
is come across is seen from then on. -/
def unseen {α : Type _} (r : α → α → Bool) (seen : List α) : List α → List α
  | [] => []
  | a :: rest =>
    if seen.any (r · a) then unseen r seen rest else a :: unseen r (a :: seen) rest

/-- One initializer for every constructor of an interface and one candidate for every method, none
where there is no candidate at all. -/
structure Assignment where
  initializers : List Initializer
  methods : List (Option Candidate)
  deriving Inhabited

namespace Assignment

def isComplete (a : Assignment) : Bool := a.methods.all (·.isSome)

/-- The candidates that were chosen. -/
def chosen (a : Assignment) : List Candidate := a.methods.filterMap id

def sameChoice : Option Candidate → Option Candidate → Bool
  | none, none => true
  | some a, some b => a.same b
  | _, _ => false

/-- Two assignments are equal, however good they are. -/
def same (a b : Assignment) : Bool :=
  a.initializers.isEqv b.initializers Initializer.same && a.methods.isEqv b.methods sameChoice

end Assignment

/-- The number of candidates that need no converter. -/
def directCount (candidates : List Candidate) : Nat := candidates.countP (·.isDirect)

/-- The sum of the distances.  The sum of none is the negative zero, which is neutral. -/
def totalDistance (candidates : List Candidate) : Float :=
  candidates.foldl (fun sum c => sum + c.distance.toFloat) (-0.0)

namespace Combinations

/-- The rows with a choice from one more list: every candidate in turn, none from an empty list. -/
def extended (rows : List (List (Option Candidate))) (list : List Candidate) :
    List (List (Option Candidate)) :=
  if list.isEmpty then rows.map (· ++ [none])
  else rows.flatMap fun row => list.map fun c => row ++ [some c]

/-- The assignments to which the rows grow list by list, each where it comes up first. -/
def exhaustive (initializers : List Initializer) (lists : List (List Candidate)) :
    List Assignment :=
  unseen Assignment.same [] ((lists.foldl extended [[]]).map fun methods => ⟨initializers, methods⟩)

/-- The greatest number of 64 bits, at which products stop. -/
def greatestSize : Nat := Nat.pow 2 64 - 1

/-- The number of ways to choose, an empty list counting as one. -/
def choiceCount (lists : List (List Candidate)) : Nat :=
  lists.foldl (fun size list => min greatestSize (size * max list.length 1)) 1

/-- How many candidates are combined, and how many combinations there may be. -/
structure Caps where
  methodMax : Nat
  candidateMax : Nat
  ceiling : Nat
  truncate : Bool

namespace Caps

def ofSettings (s : Settings) : Caps :=
  ⟨s.methodMax, s.candidateMax, s.permutationCeiling, s.truncateOnOverflow⟩

/-- The best part of every list. -/
def filter (caps : Caps) (lists : List (List Candidate)) : List (List Candidate) :=
  let room := max lists.length caps.methodMax
  lists.map fun list =>
    Quota.keep ⟨caps.methodMax, caps.candidateMax, []⟩ room (Candidate.rank list)

/-- The length of the longest list. -/
def longest (lists : List (List Candidate)) : Nat := lists.foldl (fun n list => max n list.length) 0

/-- Drops the last candidate of the last list of this length. -/
def dropFromLast (length : Nat) : List (List Candidate) → List (List Candidate)
  | [] => []
  | list :: rest =>
    if rest.any (·.length == length) || list.length ≠ length then
      list :: dropFromLast length rest
    else list.dropLast :: rest

/-- Drops the worst candidates of the longest lists until the product is within the ceiling or no
list has two candidates left. -/
def shrink (ceiling : Nat) : Nat → List (List Candidate) → List (List Candidate)
  | 0, lists => lists
  | fuel + 1, lists =>
    if choiceCount lists ≤ ceiling then lists
    else if longest lists ≤ 1 then lists
    else shrink ceiling fuel (dropFromLast (longest lists) lists)

/-- Every turn drops one candidate, so their number bounds the turns. -/
def fit (caps : Caps) (lists : List (List Candidate)) : List (List Candidate) :=
  if caps.truncate then shrink caps.ceiling (lists.foldr (·.length + ·) 0) lists else lists

/-- Every assignment of the best parts of the lists. -/
def assignments (caps : Caps) (initializers : List Initializer)
    (lists : List (List Candidate)) : List Assignment :=
  exhaustive initializers (caps.fit (caps.filter lists))

end Caps

end Combinations

/-- The assignments that the settings ask for. -/
def Settings.assignments (s : Settings) (initializers : List Initializer)
    (lists : List (List Candidate)) : List Assignment :=
  match s.generation with
  | .exhaustive => Combinations.exhaustive initializers lists
  | .capped => (Combinations.Caps.ofSettings s).assignments initializers lists

end Refit
