import Refit.Inheritance.Reach
import Refit.Signature.Component

/-!
# Resolution of hierarchies

A list of components determines for each of its members all types above it and all methods it
inherits.  The types it extends are found by a walk along declared edges; its interfaces are gathered
in one growing set, each with the types it extends and with their interfaces.  Cycles, repeated and
unknown names do no harm.
-/

namespace Refit

namespace Resolution

/-- The last component with a name. -/
def lookup? (components : List Component) (name : String) : Option Component :=
  components.reverse.find? (·.name == name)

/-- The types that components with this name extend directly.  The root type extends nothing. -/
def directSupertypes (components : List Component) (name : String) : List String :=
  if name = rootType then []
  else
    ((components.filter (·.name == name)).map fun c => c.superName.getD rootType).eraseDups

def declaredInterfaces (components : List Component) (name : String) : List String :=
  match lookup? components name with
  | some c => c.interfaces
  | none => []

/-- The component with this name and all it extends, nearest first. -/
def ancestors (components : List Component) (name : String) : List String :=
  Reach.reachable (directSupertypes components) components.length [name]

/-- Adds one type, and by `add` the interfaces declared for it.  The root type is never added, and a
type that was found before is left alone. -/
def enter (components : List Component) (add : NameSet → String → NameSet) (found : NameSet)
    (name : String) : NameSet :=
  if name = rootType || found.contains name then found
  else (declaredInterfaces components name).foldl add (found.insert name)

/-- Adds an interface and everything that follows from implementing it.  Each turn inside another
one follows the finding of a component, so their number bounds the turns. -/
def collect (components : List Component) : Nat → NameSet → String → NameSet
  | 0, found, _ => found
  | fuel + 1, found, name =>
    if name = rootType || found.contains name then found
    else (ancestors components name).foldl (enter components (collect components fuel)) found

/-- Everything that follows from implementing the interfaces `starts`. -/
def interfaceClosure (components : List Component) (starts : List String) : NameSet :=
  starts.foldl (collect components (components.length + 1)) []

/-- Adds the inheritable methods of one ancestor behind those of nearer ones, which shadow them. -/
def inheritFrom (package : String) (inherited : List Member) (ancestor : Component) :
    List Member :=
  Component.addUnlessOverridden inherited (ancestor.methods.filter (·.isOpenTo package))

def resolve (components : List Component) (subject : Component) : Hierarchy :=
  let above := ancestors components subject.name
  let known := (above.filter (· ≠ subject.name)).filterMap (lookup? components)
  let declared := subject.interfaces ++ known.flatMap (·.interfaces)
  { supertypes := ((NameSet.ofList above).erase subject.name).insert rootType
    interfaces :=
      ((interfaceClosure components declared).erase rootType).erase subject.name
    inherited := known.foldl (inheritFrom subject.package) [] }

/-- Resolves all components; if one of them is resolved already, none is changed. -/
def resolveAll (components : List Component) : Except Error (List Component) :=
  match components.find? (·.hierarchy.isSome) with
  | some done => .error (.listResolved done.name)
  | none => .ok (components.map fun c => { c with hierarchy := some (resolve components c) })

/-- Resolves the components that are not resolved yet. -/
def resolveRest (components : List Component) : List Component :=
  components.map fun c =>
    if c.hierarchy.isSome then c else { c with hierarchy := some (resolve components c) }

def unresolvedCount (components : List Component) : Nat :=
  components.countP (·.hierarchy.isNone)

end Resolution

/-- Look-up by name over components; of several with one name the last counts. -/
structure Catalog where
  components : List Component

namespace Catalog

def get? (catalog : Catalog) (name : String) : Option Component :=
  Resolution.lookup? catalog.components name

/-- The names of all components, ascending. -/
def names (catalog : Catalog) : NameSet := NameSet.ofList (catalog.components.map (·.name))

def isSubtype (catalog : Catalog) (sub sup : String) : Bool :=
  sub == sup || sup == rootType ||
    match catalog.get? sub with
    | some c => c.isSubtypeOf sup
    | none => false

/-- The first visible method with that name and that many parameters. -/
def findMethod? (catalog : Catalog) (typeName name : String) (arity : Nat) : Option Member :=
  match catalog.get? typeName with
  | some c => c.visibleMethods.find? fun m => m.name == name && m.arity == arity
  | none => none

def findConstructor? (catalog : Catalog) (typeName : String) (arity : Nat) : Option Member :=
  match catalog.get? typeName with
  | some c => c.constructors.find? (·.arity == arity)
  | none => none

end Catalog

end Refit
