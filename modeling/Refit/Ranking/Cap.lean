import Refit.Ranking.Rank

/-!
# Caps

A counter lets through a limited number of different members, and each of them a limited number of
times.
-/

namespace Refit

structure Quota where
  methodMax : Nat
  candidateMax : Nat
  /-- The members let through so far and how often each was. -/
  seen : List (Member × Nat) := []

namespace Quota

def count? (c : Quota) (m : Member) : Option Nat :=
  (c.seen.find? (·.1 == m)).map (·.2)

/-- Whether one more use of a member is let through, and the counter after it. -/
def offer (c : Quota) (m : Member) : Bool × Quota :=
  match c.count? m with
  | some count =>
    if c.candidateMax ≤ count then (false, c)
    else
      (true, { c with seen := c.seen.map fun (other, n) =>
        if other = m then (other, n + 1) else (other, n) })
  | none =>
    if c.methodMax ≤ c.seen.length then (false, c)
    else (true, { c with seen := c.seen ++ [(m, 1)] })

/-- The answers to a list of offers. -/
def offers (c : Quota) : List Member → List Bool
  | [] => []
  | m :: rest =>
    let (ok, next) := c.offer m
    ok :: next.offers rest

/-- The candidates whose members are let through, at most `room` of them. -/
def keep (c : Quota) : Nat → List Candidate → List Candidate
  | 0, _ => []
  | _ + 1, [] => []
  | room + 1, candidate :: rest =>
    let (ok, next) := c.offer candidate.member
    if ok then candidate :: next.keep room rest else next.keep (room + 1) rest

end Quota

end Refit
