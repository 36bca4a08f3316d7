import Refit.Error
import Refit.Signature.Primitive
import Refit.Text.Blank
import Refit.Text.Letter

/-!
# Types

A type is a primitive, its box, one of the few types with rules of their own, an array, or anything
else by its name.  Types are written as short texts; reading one drops type arguments and the
packages of the types that have rules.
-/

namespace Refit

inductive ValueType where
  | primitive (p : Primitive)
  | boxed (p : Primitive)
  | void
  | string
  /-- The type above all others. -/
  | object
  | list
  | named (name : String)
  | array (element : ValueType)
  deriving DecidableEq, Repr, Inhabited

/-- The name of the type above all others. -/
def rootType : String := "Object"

namespace ValueType

/-- The written form of a type. -/
def text : ValueType → String
  | primitive p => p.keyword
  | boxed p => p.wrapper
  | void => "void"
  | string => "String"
  | object => rootType
  | list => "List"
  | named name => name
  | array element => element.text ++ "[]"

def isVoid : ValueType → Bool
  | void => true
  | _ => false

def isPrimitive : ValueType → Bool
  | primitive _ => true
  | _ => false

/-- The steps by which types are ordered: kind, primitive and name, from the outermost array in. -/
def sortKey : ValueType → List (Nat × Nat × String)
  | primitive p => [(0, p.rank, "")]
  | boxed p => [(1, p.rank, "")]
  | void => [(2, 0, "")]
  | string => [(3, 0, "")]
  | object => [(4, 0, "")]
  | list => [(5, 0, "")]
  | named name => [(6, 0, name)]
  | array element => (7, 0, "") :: element.sortKey

def compareStep (a b : Nat × Nat × String) : Ordering :=
  ((compare a.1 b.1).then (compare a.2.1 b.2.1)).then (compare a.2.2 b.2.2)

instance : Ord ValueType where
  compare a b := List.compareLex compareStep a.sortKey b.sortKey

/-- The written types between commas. -/
def texts (types : List ValueType) : String := ",".intercalate (types.map text)

/-- The words that stand for a type of their own rather than for a name. -/
def ofWord? (word : String) : Option ValueType :=
  match Primitive.ofKeyword? word with
  | some p => some (primitive p)
  | none =>
    match Primitive.ofWrapper? word with
    | some p => some (boxed p)
    | none =>
      if word = "void" then some void
      else if word = "String" || word = "java.lang.String" then some string
      else if word = "Object" || word = "java.lang.Object" then some object
      else if word = "List" || word = "java.util.List" then some list
      else none

/-- Names are made of letters, numerals, points, underscores and dollar signs. -/
def isNameChar (c : Char) : Bool := Text.isLetterOrNumeral c || c = '.' || c = '_' || c = '$'

/-- Reads a type without array brackets; everything from the first angle bracket on is dropped. -/
def ofElement (cs : List Char) : Except ParseFault ValueType :=
  let raw := if cs.contains '<' then Text.trim (cs.takeWhile (· ≠ '<')) else cs
  if raw.isEmpty then .error .emptyTypeName
  else
    match ofWord? (String.ofList raw) with
    | some t => .ok t
    | none =>
      if raw.all isNameChar then .ok (named (String.ofList raw))
      else .error (.invalidTypeName (String.ofList raw))

/-- The text without the array brackets at its end, if it has them. -/
def withoutBrackets? (cs : List Char) : Option (List Char) :=
  match cs.reverse with
  | ']' :: '[' :: rest => some rest.reverse
  | _ => none

/-- Reads a type with at most `fuel - 1` pairs of array brackets. -/
def ofCharsWithin : Nat → List Char → Except ParseFault ValueType
  | 0, _ => .error .emptyTypeName
  | fuel + 1, cs =>
    let cs := Text.trim cs
    match withoutBrackets? cs with
    | some element => (ofCharsWithin fuel element).map array
    | none => ofElement cs

/-- Reads a type.  A pair of brackets takes two characters, so the length bounds their number. -/
def ofChars (cs : List Char) : Except ParseFault ValueType := ofCharsWithin (cs.length + 1) cs

def parse (s : String) : Except ParseFault ValueType := ofChars s.toList

end ValueType

end Refit
