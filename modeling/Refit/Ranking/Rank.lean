import Refit.Matching.Candidate

/-!
# Ranking

The order of the candidates for one operation, best first: without converters, then the nearer name,
fewer reordered parameters, fewer conversions.  What is left of ties is settled by the candidate
itself, so that the order does not depend on the order in which candidates were found.
-/

namespace Refit

namespace Candidate

/-- Better candidates are less. -/
def compareRank (a b : Candidate) : Ordering :=
  (compare b.isDirect a.isDirect).then <|
  (compare a.distance b.distance).then <|
  (compare a.displaced b.displaced).then <|
  (compare a.convertedCount b.convertedCount).then <|
  (compare a.member b.member).then <|
  (List.compareLex compare a.positions b.positions).then <|
  List.compareLex compare a.conversions b.conversions

/-- The candidates from best to worst; equals keep their order. -/
def rank (candidates : List Candidate) : List Candidate :=
  candidates.mergeSort fun a b => (compareRank a b).isLE

end Candidate

end Refit
