import Refit.Matching.Conversion
import Refit.Ranking.Distance
import Refit.Signature.Member

/-!
# Candidates

A member considered for one operation of an interface, with the glue that the call needs: which
input feeds which parameter, and the conversions on the way in and out.
-/

namespace Refit

structure Candidate where
  /-- The number of the operation that is served. -/
  operation : Nat := 0
  member : Member
  /-- For each parameter of the member, the input that feeds it. -/
  positions : List Nat
  /-- For each parameter of the member, what happens to its input. -/
  conversions : List Conversion
  returnConversion : Conversion := .identity
  /-- How far the names are apart; a matcher finds distances from 0 to 1. -/
  distance : Distance := .zero
  deriving Inhabited

namespace Candidate

/-- No shape-changing conversion is involved. -/
def isDirect (c : Candidate) : Bool :=
  !c.conversions.any (·.isConverter) && !c.returnConversion.isConverter

/-- The number of parameters that an input from another position feeds. -/
def displaced (c : Candidate) : Nat :=
  (c.positions.zipIdx.filter fun (position, i) => position ≠ i).length

def convertedCount (c : Candidate) : Nat :=
  ((c.conversions ++ [c.returnConversion]).filter (!·.isIdentity)).length

/-- Two candidates are the same glue for the same member; how good it is plays no part. -/
def same (a b : Candidate) : Bool :=
  a.operation == b.operation && a.member == b.member && a.positions == b.positions &&
    a.conversions == b.conversions && a.returnConversion == b.returnConversion

/-- The candidate on one line. -/
def brief (c : Candidate) : String :=
  c.member.text ++ "|" ++ ",".intercalate (c.positions.map Nat.repr) ++ "|" ++
    ",".intercalate (c.conversions.map (·.text)) ++ "|" ++ c.returnConversion.text

end Candidate

/-- How an adapted instance comes to be. -/
inductive Initializer where
  | constructor (candidate : Candidate)
  /-- No instance is made; all methods are static. -/
  | static
  deriving Inhabited

namespace Initializer

def candidate? : Initializer → Option Candidate
  | constructor c => some c
  | static => none

def isConstructor (i : Initializer) : Bool := i.candidate?.isSome

/-- Two initializers make instances in the same way. -/
def same : Initializer → Initializer → Bool
  | constructor a, constructor b => a.same b
  | static, static => true
  | _, _ => false

end Initializer

end Refit
