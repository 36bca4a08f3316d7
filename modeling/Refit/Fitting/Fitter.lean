import Refit.Fitting.Adapter
import Refit.Matching.Matcher
import Refit.Matching.Rule

/-!
# The search for adapters

From a component and an interface to the adapters between them, the best one first.
-/

namespace Refit

/-- The settings of the search and the rules in force. -/
structure Fitter where
  settings : Settings
  rules : List MemberRule

namespace Fitter

def ofSettings (s : Settings) : Fitter := ⟨s, MemberRule.ofSettings s⟩

/-- The ranked candidates for every method of the interface. -/
def rankedLists (s : Fitter) (m : Matcher) (c : Component) (i : Interface) :
    List (List Candidate) :=
  let visible := c.visibleMethods
  i.methods.zipIdx.map fun (wanted, number) =>
    Candidate.rank
      (m.candidatesFor number wanted
        (visible.filter (MemberRule.allAccept s.rules wanted)))

/-- Whether every method has candidates and all of them are static. -/
def allStatic (lists : List (List Candidate)) : Bool :=
  !lists.isEmpty && lists.all fun list => !list.isEmpty && list.all (·.member.isStatic)

/-- The constructor of a component that declares none. -/
def defaultConstructor (c : Component) : Member :=
  { name := Member.constructorName, kind := .constructor, declaring := c.name }

/-- The constructors that may make an instance.  Only classes have any. -/
def usableConstructors (s : Fitter) (c : Component) : List Member :=
  if c.canBeMade then
    c.constructors.filter (fun m => s.settings.includePrivate || m.visibility ≠ .nowhere) ++
      if c.constructors.isEmpty then [defaultConstructor c] else []
  else []

/-- The use of a constructor without parameters. -/
def noArgument? (constructors : List Member) : Option Candidate :=
  (constructors.find? (·.arity == 0)).map fun m =>
    { member := m, positions := [], conversions := [] }

/-- The initializer for one constructor of the interface.  A constructor with inputs falls back on
one that takes none. -/
def initializer? (m : Matcher) (constructors : List Member) (static : Bool) (number : Nat)
    (wanted : Operation) : Option Initializer :=
  match Candidate.rank (m.constructorsFor number wanted constructors) with
  | best :: _ => some (.constructor best)
  | [] =>
    match noArgument? constructors with
    | some fallback =>
      if 0 < wanted.arity then some (.constructor { fallback with operation := number })
      else if static then some .static else none
    | none => if static then some .static else none

/-- One initializer for each constructor of the interface, or none when the component cannot be
brought into being for it. -/
def initializers? (s : Fitter) (m : Matcher) (c : Component) (i : Interface)
    (lists : List (List Candidate)) : Option (List Initializer) :=
  let static := allStatic lists
  let constructors := s.usableConstructors c
  if i.constructors.isEmpty then
    if static then some [.static]
    else (noArgument? constructors).map fun candidate => [.constructor candidate]
  else
    i.constructors.zipIdx.mapM fun (wanted, number) =>
      initializer? m constructors static number wanted

/-- The order of assignments: more direct matches first, then the nearer names. -/
def compareAssignments (a b : Assignment) : Ordering :=
  (compare (directCount b.chosen) (directCount a.chosen)).then
    (compare (Distance.ofFloat (totalDistance a.chosen)) (.ofFloat (totalDistance b.chosen)))

/-- The complete assignments from best to worst; equals keep their order. -/
def rankAssignments (assignments : List Assignment) : List Assignment :=
  (assignments.filter (·.isComplete)).mergeSort fun a b => (compareAssignments a b).isLE

/-- At most `limit` adapters, the best first; none when the component cannot serve the interface. -/
def adapters (s : Fitter) (catalog : Catalog) (c : Component) (i : Interface) (limit : Nat) :
    List Adapter :=
  if c.kind = .interface then []
  else
    let matcher : Matcher := ⟨catalog, s.settings.maxParamsLength⟩
    let lists := s.rankedLists matcher c i
    if !i.methods.isEmpty && lists.all (·.isEmpty) then []
    else
      match s.initializers? matcher c i lists with
      | none => []
      | some initializers =>
        ((rankAssignments (s.settings.assignments initializers lists)).take limit).zipIdx.map
          fun (assignment, adapterId) =>
            { adapterId, candidateId := c.id, component := c.name, interface := i.name
              initializers := assignment.initializers, methods := assignment.chosen }

end Fitter

end Refit
