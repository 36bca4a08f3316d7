import Refit.Signature.ValueType

/-!
# Members

A constructor or a method of a component.  Two methods with the same name and parameters override
each other; visibility decides which components inherit one.
-/

namespace Refit

inductive Visibility where
  | everywhere
  | family
  | package
  | nowhere
  deriving DecidableEq, Repr, Inhabited

namespace Visibility

def rank : Visibility → Nat
  | everywhere => 0
  | family => 1
  | package => 2
  | nowhere => 3

def word : Visibility → String
  | everywhere => "public"
  | family => "protected"
  | package => "package"
  | nowhere => "private"

def all : List Visibility := [everywhere, family, package, nowhere]

end Visibility

inductive MemberKind where
  | constructor
  | method
  deriving DecidableEq, Repr, Inhabited

namespace MemberKind

def rank : MemberKind → Nat
  | constructor => 0
  | method => 1

def word : MemberKind → String
  | constructor => "constructor"
  | method => "method"

def all : List MemberKind := [constructor, method]

end MemberKind

structure Member where
  name : String
  params : List ValueType := []
  returnType : ValueType := .void
  visibility : Visibility := .everywhere
  isStatic : Bool := false
  kind : MemberKind := .method
  /-- The qualified name of the declaring component. -/
  declaring : String := ""
  deriving DecidableEq, Repr, Inhabited

/-- The part of a qualified name before its last point, empty when it has none. -/
def packageName (qualified : String) : String :=
  let reversed := qualified.toList.reverse
  if reversed.contains '.' then String.ofList ((reversed.dropWhile (· ≠ '.')).drop 1).reverse
  else ""

namespace Member

/-- The name under which constructors are declared. -/
def constructorName : String := "<init>"

def isConstructor (m : Member) : Bool := m.kind == .constructor

def arity (m : Member) : Nat := m.params.length

def package (m : Member) : String := packageName m.declaring

/-- Whether components of a package inherit the member. -/
def isOpenTo (m : Member) (package : String) : Bool :=
  !m.isConstructor &&
    match m.visibility with
    | .everywhere | .family => true
    | .package => m.package == package
    | .nowhere => false

/-- Name and parameters, the part that an overriding method repeats. -/
def signature (m : Member) : String := m.name ++ "(" ++ ValueType.texts m.params ++ ")"

def overrides (m other : Member) : Bool := m.name == other.name && m.params == other.params

/-- The declaration as one line. -/
def text (m : Member) : String :=
  let visibility :=
    match m.visibility with
    | .package => ""
    | v => v.word ++ " "
  let static := if m.isStatic then "static " else ""
  let params := "(" ++ ValueType.texts m.params ++ ")"
  visibility ++ static ++
    if m.isConstructor then m.declaring ++ params
    else m.returnType.text ++ " " ++ m.declaring ++ "." ++ m.name ++ params

/-- Members are ordered by their fields, in the order of the declaration. -/
instance : Ord Member where
  compare a b :=
    (compare a.name b.name).then <|
    (List.compareLex compare a.params b.params).then <|
    (compare a.returnType b.returnType).then <|
    (compare a.visibility.rank b.visibility.rank).then <|
    (compare a.isStatic b.isStatic).then <|
    (compare a.kind.rank b.kind.rank).then <|
    compare a.declaring b.declaring

end Member

end Refit
