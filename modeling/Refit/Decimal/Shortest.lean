import Refit.Decimal.Binary

/-!
# The fewest digits that read back

A double stands for all reals that round to it.  Among the decimals `digits · 10 ^ exponent` in
that interval, this file finds one with the fewest digits, the nearest one where there are several.
On each decimal grid only the two neighbours of the exact value can be nearest, so those two are
tried, from one digit to seventeen.
-/

namespace Refit.Decimal

/-- Which of two decimals is taken when the exact value lies halfway between them. -/
inductive Tie where
  | up
  | toEven
  deriving DecidableEq, Repr

/-- The number `digits · 10 ^ exponent`. -/
structure Digits where
  digits : Nat
  exponent : Int
  deriving DecidableEq, Repr

/-- A positive double in quarters of its last place: it is `4 · mantissa · 2 ^ (exponent - 2)`, and
the reals that round to it lie between the two bounds in the same unit. -/
structure Span where
  value : Nat
  low : Nat
  high : Nat
  exponent : Int
  closed : Bool

/-- Just above a power of two the neighbour below is at half the distance. -/
def Binary.span (b : Binary) : Span where
  value := 4 * b.mantissa
  low :=
    if b.mantissa = hiddenBit ∧ leastExponent < b.exponent then 4 * b.mantissa - 1
    else 4 * b.mantissa - 2
  high := 4 * b.mantissa + 2
  exponent := b.exponent - 2
  closed := b.mantissa % 2 == 0

/-- The decimal on the grid `10 ^ e` that reads back, if one does. -/
def Span.onGrid? (s : Span) (tie : Tie) (e : Int) : Option Nat :=
  let up := Nat.pow 2 s.exponent.toNat * Nat.pow 10 (-e).toNat
  let down := Nat.pow 2 (-s.exponent).toNat * Nat.pow 10 e.toNat
  let d := s.value * up / down
  let r := s.value * up % down
  let belowOk := if s.closed then s.low * up ≤ d * down else s.low * up < d * down
  let aboveOk := if s.closed then (d + 1) * down ≤ s.high * up else (d + 1) * down < s.high * up
  let preferAbove :=
    down < 2 * r || (2 * r == down && (match tie with | .up => true | .toEven => d % 2 == 1))
  if belowOk then
    if aboveOk && preferAbove then some (d + 1) else some d
  else if aboveOk then some (d + 1)
  else none

/-- The exponent of the leading decimal digit of `mantissa · 2 ^ exponent`.  Scaling by `10 ^ 343`
makes every positive double at least one, so that the digits can be counted. -/
def leadingExponent (mantissa : Nat) (exponent : Int) : Int :=
  let scaled := shifted (mantissa * Nat.pow 10 343) exponent
  (scaled.repr.length : Int) - 344

/-- Drops the zeros at the end of the digits. -/
def Digits.stripped (fuel : Nat) (d : Digits) : Digits :=
  match fuel with
  | 0 => d
  | fuel + 1 =>
    if d.digits % 10 = 0 then Digits.stripped fuel ⟨d.digits / 10, d.exponent + 1⟩ else d

/-- The shortest decimal of a positive double. -/
def Binary.shortest (tie : Tie) (b : Binary) : Digits :=
  let span := b.span
  let k := leadingExponent b.mantissa b.exponent
  let found := (List.range 17).findSome? fun (n : Nat) =>
    (span.onGrid? tie (k - n)).map fun d => (⟨d, k - n⟩ : Digits)
  match found with
  | some d => d.stripped 20
  | none => ⟨0, 0⟩

end Refit.Decimal
