import Refit.Matching.Candidate
import Refit.Matching.Orders
import Refit.Ranking.NameDistance
import Refit.Signature.Interface

/-!
# Matching

The ways in which a member can serve an operation.  Every order of the parameters that needs no
converter is one; only when there is none, converters may help in the given order.
-/

namespace Refit

/-- What decides whether one type passes for another, and how far parameters are reordered. -/
structure Matcher where
  catalog : Catalog
  longestReordered : Nat

namespace Matcher

/-- The implicit conversions from the inputs at `positions` to the parameters, if all exist. -/
def implicitAll? (m : Matcher) (wanted params : List ValueType) (positions : List Nat) :
    Option (List Conversion) :=
  (positions.zip params).mapM fun (p, real) =>
    match wanted[p]? with
    | some source => Conversion.implicit? m.catalog source real
    | none => none

/-- The conversions from the inputs to the parameters in the given order, converters included. -/
def convertedAll? (m : Matcher) (wanted params : List ValueType) : Option (List Conversion) :=
  (wanted.zip params).mapM fun (source, real) =>
    (Conversion.implicit? m.catalog source real).or (Conversion.converter? source real)

/-- The candidates that a member of the right arity gives, when its result may be taken by
`implicitReturn` or, with the help of converters, by `convertedReturn`. -/
def matchParams (m : Matcher) (operation : Nat) (wanted : Operation) (member : Member)
    (implicitReturn convertedReturn : Option Conversion) (distance : Distance) : List Candidate :=
  let direct :=
    match implicitReturn with
    | none => []
    | some result =>
      (orderings member.arity m.longestReordered).filterMap fun positions =>
        (m.implicitAll? wanted.params member.params positions).map fun conversions =>
          { operation, member, positions, conversions, returnConversion := result, distance }
  if direct.isEmpty then
    match convertedReturn, m.convertedAll? wanted.params member.params with
    | some result, some conversions =>
      [{ operation, member, positions := List.range member.arity, conversions
         returnConversion := result, distance }]
    | _, _ => []
  else direct

def matchMethod (m : Matcher) (operation : Nat) (wanted : Operation) (member : Member) :
    List Candidate :=
  if wanted.arity ≠ member.arity then []
  else
    let plain := Conversion.onReturn? m.catalog member.returnType wanted.returnType
    let converted := plain.or (Conversion.converter? member.returnType wanted.returnType)
    m.matchParams operation wanted member plain converted
      (.ofFloat (nameDistance wanted.name member.name))

def matchConstructor (m : Matcher) (operation : Nat) (wanted : Operation) (member : Member) :
    List Candidate :=
  if wanted.arity ≠ member.arity then []
  else m.matchParams operation wanted member (some .identity) (some .identity) .zero

def candidatesFor (m : Matcher) (operation : Nat) (wanted : Operation)
    (members : List Member) : List Candidate :=
  (members.filter (!·.isConstructor)).flatMap (m.matchMethod operation wanted)

def constructorsFor (m : Matcher) (operation : Nat) (wanted : Operation)
    (members : List Member) : List Candidate :=
  (members.filter (·.isConstructor)).flatMap (m.matchConstructor operation wanted)

end Matcher

end Refit
