import Refit.Inheritance.Resolution

/-!
# A pool of components

Components are shared: what is handed over for resolution is a part of one pool, and a hierarchy
that is attached to a component stays attached for all parts that it belongs to.  A part is resolved
as a whole, where no component may be resolved already, or as far as it is not resolved yet.
-/

namespace Refit

namespace Pool

/-- Attaches the hierarchies, one component after the other, and counts them; a component without
one is passed over.  The first component that refuses ends it, and what was attached before
stays. -/
def attachEach : List (Component × Option Hierarchy) → List Component × Except Error Nat
  | [] => ([], .ok 0)
  | (c, none) :: rest =>
    let (cs, count) := attachEach rest
    (c :: cs, count)
  | (c, some h) :: rest =>
    match c.attach h with
    | .error e => (c :: rest.map (·.1), .error e)
    | .ok c =>
      let (cs, count) := attachEach rest
      (c :: cs, count.map (· + 1))

/-- Resolves all components of a part; if one of them is resolved already, none is changed. -/
def resolveAll (part : List Component) : List Component × Except Error Unit :=
  match part.find? (·.hierarchy.isSome) with
  | some done => (part, .error (.listResolved done.name))
  | none =>
    let (part, count) := attachEach (part.map fun c => (c, some (Resolution.resolve part c)))
    (part, count.map fun _ => ())

/-- Resolves the components of a part that are not resolved yet, and counts them. -/
def resolveRest (part : List Component) : List Component × Except Error Nat :=
  attachEach (part.map fun c =>
    (c, if c.hierarchy.isSome then none else some (Resolution.resolve part c)))

/-- Asks to resolve the components from `first` on, `last` not included. -/
inductive Request where
  | all (first last : Nat)
  | rest (first last : Nat)
  deriving DecidableEq, Repr

/-- What comes back, with the number of components where they are counted. -/
abbrev Answer := Except Error (Option Nat)

/-- Changes the part of a pool between two places. -/
def within {α : Type} (pool : List Component) (first last : Nat)
    (change : List Component → List Component × α) : List Component × α :=
  let last := min last pool.length
  let first := min first last
  let (part, answer) := change ((pool.drop first).take (last - first))
  (pool.take first ++ part ++ pool.drop last, answer)

def step (pool : List Component) : Request → List Component × Answer
  | .all first last =>
    let (pool, answer) := within pool first last resolveAll
    (pool, answer.map fun _ => none)
  | .rest first last =>
    let (pool, answer) := within pool first last resolveRest
    (pool, answer.map some)

/-- Serves the requests one after the other. -/
def run (pool : List Component) : List Request → List Component × List Answer
  | [] => (pool, [])
  | request :: requests =>
    let (pool, answer) := step pool request
    let (pool, answers) := run pool requests
    (pool, answer :: answers)

end Pool

end Refit
