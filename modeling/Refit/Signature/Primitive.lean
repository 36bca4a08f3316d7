/-!
# Primitive types

The eight primitive types, their keywords and wrappers, and the two relations between them.
Widening never loses the magnitude of a number; narrowing is every other conversion between two
different primitives that are not `boolean`.
-/

namespace Refit

inductive Primitive where
  | boolean
  | byte
  | short
  | char
  | int
  | long
  | float
  | double
  deriving DecidableEq, Repr, Inhabited

namespace Primitive

/-- All primitives in their order. -/
def all : List Primitive := [boolean, byte, short, char, int, long, float, double]

/-- The place in the order. -/
def rank : Primitive → Nat
  | boolean => 0
  | byte => 1
  | short => 2
  | char => 3
  | int => 4
  | long => 5
  | float => 6
  | double => 7

def keyword : Primitive → String
  | boolean => "boolean"
  | byte => "byte"
  | short => "short"
  | char => "char"
  | int => "int"
  | long => "long"
  | float => "float"
  | double => "double"

/-- The name of the reference type that boxes the primitive. -/
def wrapper : Primitive → String
  | boolean => "Boolean"
  | byte => "Byte"
  | short => "Short"
  | char => "Character"
  | int => "Integer"
  | long => "Long"
  | float => "Float"
  | double => "Double"

/-- The name of the primitive itself, capitalised, as messages show it. -/
def title : Primitive → String
  | boolean => "Boolean"
  | byte => "Byte"
  | short => "Short"
  | char => "Char"
  | int => "Int"
  | long => "Long"
  | float => "Float"
  | double => "Double"

def ofKeyword? (s : String) : Option Primitive := all.find? (·.keyword == s)

/-- The package of the wrappers. -/
def wrapperPackage : String := "java.lang."

/-- The name without the package of the wrappers, which may be left out. -/
def withoutPackage (s : String) : String :=
  if wrapperPackage.toList.isPrefixOf s.toList then
    String.ofList (s.toList.drop wrapperPackage.length)
  else s

/-- The primitive that a wrapper boxes; the wrapper may be named with its package. -/
def ofWrapper? (s : String) : Option Primitive := all.find? (·.wrapper == withoutPackage s)

def isNumeric : Primitive → Bool
  | boolean | char => false
  | _ => true

/-- Widening conversion, which excludes the identity. -/
def widensTo : Primitive → Primitive → Bool
  | byte, q => q = short || q = int || q = long || q = float || q = double
  | short, q | char, q => q = int || q = long || q = float || q = double
  | int, q => q = long || q = float || q = double
  | long, q => q = float || q = double
  | float, q => q = double
  | boolean, _ | double, _ => false

/-- Narrowing conversion, which excludes the identity. -/
def narrowsTo (source target : Primitive) : Bool :=
  source ≠ target && source ≠ boolean && target ≠ boolean && !source.widensTo target

theorem ofKeyword?_keyword (p : Primitive) : ofKeyword? p.keyword = some p := by
  cases p <;> decide

theorem ofWrapper?_wrapper (p : Primitive) : ofWrapper? p.wrapper = some p := by
  cases p <;> decide

end Primitive

end Refit
