import Refit.Decimal.Shortest

/-!
# Number texts

How a double is written: positionally or with an exponent, with or without a point after a whole
number.  The three layouts of the program are records of the same few decisions.
-/

namespace Refit.Decimal

/-- The decisions of a number format.  A number whose leading digit has an exponent from `least` to
`most` is written positionally, any other with an exponent. -/
structure Layout where
  tie : Tie
  least : Int
  most : Int
  /-- Whether a whole number written positionally ends in `.0`. -/
  point : Bool
  /-- Whether a positive exponent has a sign. -/
  plus : Bool

/-- Floats inside messages and rendered values: never an exponent. -/
def Layout.plain : Layout := ⟨.up, -400, 400, false, false⟩

/-- Floats inside the tokens that messages show. -/
def Layout.token : Layout := ⟨.up, -4, 15, true, false⟩

/-- Floats inside the cells of a sheet. -/
def Layout.cell : Layout := ⟨.toEven, -5, 15, true, true⟩

/-- The digits with a point after the first `whole` of them, zeros filling both sides. -/
def positional (point : Bool) (digits : List Char) (whole : Int) : List Char :=
  if (digits.length : Int) ≤ whole then
    digits ++ List.replicate (whole - digits.length).toNat '0' ++ (if point then ['.', '0'] else [])
  else if 0 < whole then
    digits.take whole.toNat ++ '.' :: digits.drop whole.toNat
  else '0' :: '.' :: List.replicate (-whole).toNat '0' ++ digits

/-- The digits with a point after the first one, and the exponent `k` of that digit. -/
def scientific (plus : Bool) (digits : List Char) (k : Int) : List Char :=
  let mantissa :=
    match digits with
    | d :: rest => if rest.isEmpty then [d] else d :: '.' :: rest
    | [] => []
  let sign := if k < 0 then ['-'] else if plus then ['+'] else []
  mantissa ++ 'e' :: sign ++ (Nat.repr k.natAbs).toList

/-- The text of a nonnegative finite number. -/
def Layout.digits (l : Layout) (b : Binary) : List Char :=
  if b.mantissa = 0 then positional l.point ['0'] 1
  else
    let d := b.shortest l.tie
    let digits := (Nat.repr d.digits).toList
    let k : Int := d.exponent + digits.length - 1
    if l.least ≤ k && k ≤ l.most then positional l.point digits (k + 1)
    else scientific l.plus digits k

def signed (negative : Bool) (digits : List Char) : String :=
  String.ofList (if negative then '-' :: digits else digits)

def Layout.write (l : Layout) (x : Float) : String :=
  match Reading.ofDouble x with
  | .nan => "NaN"
  | .infinite negative => signed negative ['i', 'n', 'f']
  | .finite b => signed b.negative (l.digits b)

/-- The text of a float inside a rendered value: a whole number with all of its digits and `.0`, any
other number in the plain layout. -/
def rendered (x : Float) : String :=
  match Reading.ofDouble x with
  | .finite b =>
    if b.isWhole then
      signed b.negative ((Nat.repr (shifted b.mantissa b.exponent)).toList ++ ['.', '0'])
    else Layout.plain.write x
  | _ => Layout.plain.write x

/-- The double nearest to `± digits · 10 ^ exponent`.  Exponents far outside the range of doubles
are not multiplied out. -/
def ofDecimal (negative : Bool) (digits : Nat) (exponent : Int) : Float :=
  let size : Int := (Nat.repr digits).length + exponent
  if digits = 0 || size < -330 then nearest negative 0 1
  else if 310 < size then nearest negative (Nat.pow 2 1024) 1
  else if 0 ≤ exponent then nearest negative (digits * Nat.pow 10 exponent.toNat) 1
  else nearest negative digits (Nat.pow 10 (-exponent).toNat)

end Refit.Decimal
