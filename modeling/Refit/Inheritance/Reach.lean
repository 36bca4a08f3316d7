/-!
# Reachable names

A depth-first walk over names.  The names come in the order in which the walk enters them; of the
successors of a name the last is entered first.
-/

namespace Refit.Reach

/-- Goes on from the names on the `stack`, topmost first; `entered` holds those already entered,
the latest first.  Every turn takes one name off the stack. -/
def walk (next : String → List String) : Nat → List String → List String → List String
  | 0, entered, _ => entered
  | _ + 1, entered, [] => entered
  | fuel + 1, entered, name :: stack =>
    if entered.contains name then walk next fuel entered stack
    else
      let entered := name :: entered
      walk next fuel entered (((next name).filter (!entered.contains ·)).reverse ++ stack)

/-- The names reachable from `starts`, in the order in which they are entered.  `bound` is at least
the number of successors of all names together. -/
def reachable (next : String → List String) (bound : Nat) (starts : List String) : List String :=
  (walk next (bound + starts.length + 1) [] starts).reverse

end Refit.Reach
