/-!
# Doubles as binary fractions

A finite double is `± mantissa · 2 ^ exponent`.  This file takes doubles apart into that form,
rounds a ratio of natural numbers to the nearest double, and computes the exact remainder of two
doubles.  Everything but the two ends is arithmetic on `Nat` and `Int`.
-/

namespace Refit.Decimal

/-- The number `± mantissa · 2 ^ exponent`. -/
structure Binary where
  negative : Bool
  mantissa : Nat
  exponent : Int
  deriving DecidableEq, Repr

/-- What a double stands for. -/
inductive Reading where
  | nan
  | infinite (negative : Bool)
  | finite (value : Binary)
  deriving DecidableEq, Repr

/-- The number of explicit bits of a double's mantissa, as a power of two. -/
def hiddenBit : Nat := Nat.pow 2 52

/-- The exponent of the least positive double. -/
def leastExponent : Int := -1074

/-- The first bit pattern, sign aside, that is no finite double. -/
def infinityBits : Nat := 2047 * Nat.pow 2 52

def Reading.ofBits (bits : Nat) : Reading :=
  let negative := bits / Nat.pow 2 63 % 2 == 1
  let biased := bits / Nat.pow 2 52 % Nat.pow 2 11
  let fraction := bits % Nat.pow 2 52
  if biased = 2047 then
    if fraction = 0 then .infinite negative else .nan
  else if biased = 0 then .finite ⟨negative, fraction, leastExponent⟩
  else .finite ⟨negative, hiddenBit + fraction, leastExponent + (biased - 1 : Nat)⟩

def Reading.ofDouble (x : Float) : Reading := .ofBits x.toBits.toNat

/-- `n · 2 ^ e`, rounded down. -/
def shifted (n : Nat) (e : Int) : Nat :=
  if 0 ≤ e then n * Nat.pow 2 e.toNat else n / Nat.pow 2 (-e).toNat

/-- Whether the number has no fractional part. -/
def Binary.isWhole (b : Binary) : Bool :=
  0 ≤ b.exponent || b.mantissa % Nat.pow 2 (-b.exponent).toNat == 0

/-- The quotient rounded to the nearest whole number, a half to the even neighbour. -/
def roundedQuotient (num den : Nat) : Nat :=
  let q := num / den
  let r := num % den
  if den < 2 * r || (2 * r == den && q % 2 == 1) then q + 1 else q

/-- The exponent at which the ratio `num / den` keeps 53 bits, or the least there is. -/
def ratioExponent (num den : Nat) : Int :=
  let e : Int := (num.log2 : Int) - den.log2 - 52
  let full :=
    if 0 ≤ e then hiddenBit * (den * Nat.pow 2 e.toNat) ≤ num
    else hiddenBit * den ≤ num * Nat.pow 2 (-e).toNat
  max leastExponent (if full then e else e - 1)

/-- The bit pattern of the double nearest to `num / den`.  A mantissa that rounds up to the next
power of two carries into the exponent, and one that overflows ends as infinity. -/
def nearestBits (num den : Nat) : Nat :=
  if num = 0 then 0
  else
    let e := ratioExponent num den
    let mantissa :=
      if 0 ≤ e then roundedQuotient num (den * Nat.pow 2 e.toNat)
      else roundedQuotient (num * Nat.pow 2 (-e).toNat) den
    min infinityBits ((e - leastExponent).toNat * Nat.pow 2 52 + mantissa)

/-- The double nearest to `± num / den`. -/
def nearest (negative : Bool) (num den : Nat) : Float :=
  Float.ofBits (UInt64.ofNat (nearestBits num den + if negative then Nat.pow 2 63 else 0))

/-- The remainder of two nonzero finite numbers with the sign of the first, as a whole number of
steps of the smaller exponent. -/
def Binary.remainder (a b : Binary) : Binary :=
  let e := min a.exponent b.exponent
  ⟨a.negative, shifted a.mantissa (a.exponent - e) % shifted b.mantissa (b.exponent - e), e⟩

def Binary.toDouble (b : Binary) : Float :=
  if 0 ≤ b.exponent then nearest b.negative (shifted b.mantissa b.exponent) 1
  else nearest b.negative b.mantissa (Nat.pow 2 (-b.exponent).toNat)

def notANumber : Float := Float.ofBits 0x7ff8000000000000

/-- The remainder of the division that truncates toward zero.  It has the sign of the dividend, and
the exact value is always a double. -/
def remainder (x y : Float) : Float :=
  match Reading.ofDouble x, Reading.ofDouble y with
  | .finite a, .finite b =>
    if b.mantissa = 0 then notANumber else if a.mantissa = 0 then x else (a.remainder b).toDouble
  | .finite _, .infinite _ => x
  | _, _ => notANumber

end Refit.Decimal
