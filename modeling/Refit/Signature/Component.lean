import Refit.Signature.Member
import Refit.Signature.NameSet

/-!
# Components

A component is a class or an interface with its declared members.  What it inherits is worked out
from all components together and attached to it afterwards, once.
-/

namespace Refit

inductive ComponentKind where
  | concrete
  | abstract
  | interface
  deriving DecidableEq, Repr, Inhabited

namespace ComponentKind

def word : ComponentKind → String
  | concrete => "class"
  | abstract => "abstract"
  | interface => "interface"

def all : List ComponentKind := [concrete, abstract, interface]

end ComponentKind

/-- What a component has from others. -/
structure Hierarchy where
  /-- All types it extends, the root type always among them and the component itself never. -/
  supertypes : NameSet := []
  /-- All interfaces it implements; the root type is never among them. -/
  interfaces : NameSet := []
  /-- The methods it inherits, nearest first. -/
  inherited : List Member := []
  deriving DecidableEq, Repr, Inhabited

structure Component where
  name : String
  id : String
  kind : ComponentKind := .concrete
  superName : Option String := none
  interfaces : List String := []
  members : List Member := []
  hierarchy : Option Hierarchy := none
  deriving DecidableEq, Repr, Inhabited

namespace Component

/-- Adds a member; one without a declaring component is declared by this one. -/
def withMember (c : Component) (m : Member) : Component :=
  let m := if m.declaring.isEmpty then { m with declaring := c.name } else m
  { c with members := c.members ++ [m] }

def package (c : Component) : String := packageName c.name

def canBeMade (c : Component) : Bool := c.kind == .concrete

def constructors (c : Component) : List Member := c.members.filter (·.isConstructor)

def methods (c : Component) : List Member := c.members.filter (!·.isConstructor)

def attach (c : Component) (h : Hierarchy) : Except Error Component :=
  match c.hierarchy with
  | some _ => .error (.alreadyResolved c.name)
  | none => .ok { c with hierarchy := some h }

/-- Adds the methods of `more` one by one, each unless one before it overrides it. -/
def addUnlessOverridden (methods : List Member) : List Member → List Member
  | [] => methods
  | m :: more =>
    addUnlessOverridden (if methods.any (·.overrides m) then methods else methods ++ [m]) more

/-- The declared methods and, behind them, the inherited ones that they do not override. -/
def visibleMethods (c : Component) : List Member :=
  match c.hierarchy with
  | some h => addUnlessOverridden c.methods h.inherited
  | none => c.methods

/-- Whether the component is known to be below a type. -/
def isSubtypeOf (c : Component) (typeName : String) : Bool :=
  c.name == typeName ||
    match c.hierarchy with
    | some h => h.supertypes.contains typeName || h.interfaces.contains typeName
    | none => c.superName == some typeName || c.interfaces.contains typeName

end Component

end Refit
