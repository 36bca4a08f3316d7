import Refit.Fault
import Refit.Inheritance.Resolution
import Refit.Value

/-!
# Conversions

The steps by which a value of one type is handed on as a value of another.  Every step that the glue
takes is one of these; nothing else is converted on a call.  A converter changes the shape of a
value, the other steps its width or nothing at all.
-/

namespace Refit

inductive Conversion where
  | identity
  | widen (source target : Primitive)
  /-- Only on results. -/
  | narrow (source target : Primitive)
  | box (p : Primitive)
  | unbox (p : Primitive)
  /-- Drops a result that nobody asked for. -/
  | discard
  | textToChars
  | charsToText
  | listToArray
  | arrayToList
  deriving DecidableEq, Repr, Inhabited

namespace Conversion

def isIdentity : Conversion → Bool
  | identity => true
  | _ => false

def isConverter : Conversion → Bool
  | textToChars | charsToText | listToArray | arrayToList => true
  | _ => false

/-- The place in the order of conversions: kind, then the primitives. -/
def sortKey : Conversion → Nat × Nat × Nat
  | identity => (0, 0, 0)
  | widen s t => (1, s.rank, t.rank)
  | narrow s t => (2, s.rank, t.rank)
  | box p => (3, p.rank, 0)
  | unbox p => (4, p.rank, 0)
  | discard => (5, 0, 0)
  | textToChars => (6, 0, 0)
  | charsToText => (7, 0, 0)
  | listToArray => (8, 0, 0)
  | arrayToList => (9, 0, 0)

instance : Ord Conversion where
  compare a b :=
    (compare a.sortKey.1 b.sortKey.1).then <|
    (compare a.sortKey.2.1 b.sortKey.2.1).then <|
    compare a.sortKey.2.2 b.sortKey.2.2

def text : Conversion → String
  | identity => "identity"
  | widen s t => "widen:" ++ s.keyword ++ "->" ++ t.keyword
  | narrow s t => "narrow:" ++ s.keyword ++ "->" ++ t.keyword
  | box p => "box:" ++ p.keyword
  | unbox p => "unbox:" ++ p.keyword
  | discard => "discard"
  | textToChars => "string->char[]"
  | charsToText => "char[]->string"
  | listToArray => "list->array"
  | arrayToList => "array->list"

/-- The conversion as debug texts show it. -/
def shown : Conversion → String
  | identity => "Identity"
  | widen s t => "Widen \x7b from: " ++ s.title ++ ", to: " ++ t.title ++ " \x7d"
  | narrow s t => "Narrow \x7b from: " ++ s.title ++ ", to: " ++ t.title ++ " \x7d"
  | box p => "Box(" ++ p.title ++ ")"
  | unbox p => "Unbox(" ++ p.title ++ ")"
  | discard => "Discard"
  | textToChars => "StringToChars"
  | charsToText => "CharsToString"
  | listToArray => "ListToArray"
  | arrayToList => "ArrayToList"

def mismatch (v : Value) (expected : String) : Fault :=
  .classCast (v.render ++ " is not a " ++ expected)

/-- The number of a value as the primitive that is wanted; null is no number. -/
def castTo (target : Primitive) (v : Value) : Except Fault Value :=
  if v.isNull then .error (.nullPointer ("cannot convert null to " ++ target.keyword))
  else
    match v.cast? target with
    | some w => .ok w
    | none => .error (.classCast (v.render ++ " is not convertible to " ++ target.keyword))

/-- The characters in a list of values, which must hold nothing else. -/
def charsOf : List Value → Except Fault (List Char)
  | [] => .ok []
  | .char c :: rest =>
    match charsOf rest with
    | .ok cs => .ok (c :: cs)
    | .error fault => .error fault
  | v :: _ => .error (mismatch v "char")

def apply : Conversion → Value → Except Fault Value
  | identity, v | box _, v => .ok v
  | discard, _ => .ok .void
  | widen _ target, v | narrow _ target, v | unbox target, v => castTo target v
  | textToChars, .text s => .ok (.array (s.toList.map .char))
  | textToChars, .null => .ok .null
  | textToChars, v => .error (mismatch v "String")
  | charsToText, .array items | charsToText, .list items =>
    match charsOf items with
    | .ok cs => .ok (.text (String.ofList cs))
    | .error fault => .error fault
  | charsToText, .null => .ok .null
  | charsToText, v => .error (mismatch v "char[]")
  | listToArray, .list items | listToArray, .array items => .ok (.array items)
  | listToArray, .null => .ok .null
  | listToArray, v => .error (mismatch v "List")
  | arrayToList, .array items | arrayToList, .list items => .ok (.list items)
  | arrayToList, .null => .ok .null
  | arrayToList, v => .error (mismatch v "array")

/-- How a value of one type becomes one of another without a converter.  Below the root type and
between components that is subtyping, and arrays of references follow their elements. -/
def implicit? (catalog : Catalog) (source target : ValueType) : Option Conversion :=
  if source = target then some identity
  else
    match source, target with
    | .void, _ | _, .void => none
    | .primitive a, .primitive b => if a.widensTo b then some (widen a b) else none
    | .primitive a, .boxed b => if a = b then some (box a) else none
    | .primitive a, .object => some (box a)
    | .primitive _, _ => none
    | .boxed a, .primitive b =>
      if a = b then some (unbox a) else if a.widensTo b then some (widen a b) else none
    | _, .object => some identity
    | .named a, .named b => if catalog.isSubtype a b then some identity else none
    | .array a, .array b =>
      if !a.isPrimitive && !b.isPrimitive then (implicit? catalog a b).filter (·.isIdentity)
      else none
    | _, _ => none

/-- How a value of one type becomes one of another by a change of shape. -/
def converter? (source target : ValueType) : Option Conversion :=
  match source, target with
  | .string, .array (.primitive .char) => some textToChars
  | .array (.primitive .char), .string => some charsToText
  | .list, .array _ => some listToArray
  | .array _, .list => some arrayToList
  | _, _ => none

/-- How a result becomes the result that is wanted.  Numbers may be narrowed here, and a result that
is not wanted is dropped. -/
def onReturn? (catalog : Catalog) (real wanted : ValueType) : Option Conversion :=
  if wanted.isVoid then some (if real.isVoid then identity else discard)
  else if real.isVoid then none
  else
    match implicit? catalog real wanted with
    | some c => some c
    | none =>
      match real, wanted with
      | .primitive a, .primitive b | .boxed a, .primitive b =>
        if a.narrowsTo b then some (narrow a b) else none
      | _, _ => none

end Conversion

end Refit
