import Refit.Decimal.Layout
import Refit.Decimal.Single
import Refit.Signature.Primitive

/-!
# Values

What flows into and out of calls.  An object is only named here, by its number and its type; what it
holds is a matter of the heap.
-/

namespace Refit

/-- The name of an object. -/
structure Instance where
  id : Nat
  typeName : String
  deriving DecidableEq, Repr

/-- The object as messages show it. -/
def Instance.text (i : Instance) : String := i.typeName ++ "#" ++ Nat.repr i.id

/-- The object as debug texts show it. -/
def Instance.shown (i : Instance) : String := "Instance(" ++ i.text ++ ")"

inductive Value where
  | null
  | void
  | bool (b : Bool)
  | char (c : Char)
  | byte (n : Int8)
  | short (n : Int16)
  | int (n : Int32)
  | long (n : Int64)
  | float (x : Float32)
  | double (x : Float)
  | text (s : String)
  | array (items : List Value)
  | list (items : List Value)
  | object (instance_ : Instance)
  deriving Inhabited

namespace Value

def isNull : Value → Bool
  | null => true
  | _ => false

def primitive? : Value → Option Primitive
  | bool _ => some .boolean
  | char _ => some .char
  | byte _ => some .byte
  | short _ => some .short
  | int _ => some .int
  | long _ => some .long
  | float _ => some .float
  | double _ => some .double
  | _ => none

/-- The number of an integral value; a character counts as its code point. -/
def integer? : Value → Option Int
  | char c => some c.toNat
  | byte n => some n.toInt
  | short n => some n.toInt
  | int n => some n.toInt
  | long n => some n.toInt
  | _ => none

/-- The double nearest to a whole number. -/
def doubleOfInt (n : Int) : Float := Decimal.nearest (n < 0) n.natAbs 1

/-- The number of a numeric value as a double. -/
def real? : Value → Option Float
  | float x => some (Decimal.ofSingle x)
  | double x => some x
  | v => v.integer?.map doubleOfInt

def instance? : Value → Option Instance
  | object i => some i
  | _ => none

/-- The character whose code is the last 16 bits of `n`; half of a surrogate pair is replaced. -/
def charOfInt (n : Int) : Char :=
  let code := (n % 65536).toNat
  if 0xD800 ≤ code && code < 0xE000 then '\ufffd' else Char.ofNat code

/-- The whole number next to `x` on the way to zero, held between the bounds. -/
def clampedDouble (low high : Int) (x : Float) : Int :=
  match Decimal.Reading.ofDouble x with
  | .nan => 0
  | .infinite negative => if negative then low else high
  | .finite b =>
    let size : Int := Decimal.shifted b.mantissa b.exponent
    max low (min high (if b.negative then -size else size))

/-- The number as an integer of `bits` bits: integral values wrap around, other numbers are cut to a
whole number and held within the range. -/
def toWidth (bits : Nat) (integral : Option Int) (real : Float) : Int :=
  match integral with
  | some n => n
  | none => clampedDouble (-(Nat.pow 2 (bits - 1))) (Nat.pow 2 (bits - 1) - 1) real

/-- The numeric value as another primitive.  Booleans are no numbers. -/
def cast? (v : Value) (target : Primitive) : Option Value :=
  match target, v with
  | .boolean, bool b => some (bool b)
  | .boolean, _ => none
  | _, _ =>
    match v.real? with
    | none => none
    | some x =>
      let n := v.integer?
      match target with
      | .boolean => none
      | .byte => some (byte (Int8.ofInt (toWidth 8 n x)))
      | .short => some (short (Int16.ofInt (toWidth 16 n x)))
      | .char => some (char (charOfInt (toWidth 64 n x)))
      | .int => some (int (Int32.ofInt (toWidth 32 n x)))
      | .long => some (long (Int64.ofInt (toWidth 64 n x)))
      | .float => some (float (Decimal.toSingle x))
      | .double => some (double x)

mutual

/-- The plain text of a value, as concatenation uses it. -/
def render : Value → String
  | null => "null"
  | void => ""
  | bool b => if b then "true" else "false"
  | char c => String.singleton c
  | byte n => toString n.toInt
  | short n => toString n.toInt
  | int n => toString n.toInt
  | long n => toString n.toInt
  | float x => Decimal.rendered (Decimal.ofSingle x)
  | double x => Decimal.rendered x
  | text s => s
  | array items => "[" ++ renderItems items ++ "]"
  | list items => "[" ++ renderItems items ++ "]"
  | object i => i.typeName ++ "@" ++ Nat.repr i.id

/-- The plain texts of the items between commas. -/
def renderItems : List Value → String
  | [] => ""
  | [item] => item.render
  | item :: rest => item.render ++ ", " ++ renderItems rest

end

mutual

/-- Equality as the program sees it: the kinds agree and so do the contents, floats by their number
and objects by their id. -/
def same : Value → Value → Bool
  | null, null => true
  | void, void => true
  | bool a, bool b => a == b
  | char a, char b => a == b
  | byte a, byte b => a == b
  | short a, short b => a == b
  | int a, int b => a == b
  | long a, long b => a == b
  | float a, float b => a == b
  | double a, double b => a == b
  | text a, text b => a == b
  | array a, array b => sameItems a b
  | list a, list b => sameItems a b
  | object a, object b => a.id == b.id
  | _, _ => false

def sameItems : List Value → List Value → Bool
  | [], [] => true
  | a :: as, b :: bs => same a b && sameItems as bs
  | _, _ => false

end

end Value

end Refit
