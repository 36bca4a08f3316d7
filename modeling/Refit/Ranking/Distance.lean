/-!
# Distances

How far two names are apart: a double, kept by its bit pattern.  Distances are ordered by the sign
and the magnitude of the pattern, so that different patterns have different places: the two zeros
differ, and the patterns that are no number stand beyond the infinities, by sign and payload.
-/

namespace Refit

structure Distance where
  bits : UInt64
  deriving DecidableEq, Inhabited

namespace Distance

def zero : Distance := ⟨0⟩

def ofFloat (x : Float) : Distance := ⟨x.toBits⟩

def toFloat (d : Distance) : Float := Float.ofBits d.bits

/-- The place in the total order of doubles. -/
def rank (d : Distance) : Int :=
  let bits := d.bits.toNat
  if bits < Nat.pow 2 63 then bits else -1 - (bits - Nat.pow 2 63 : Nat)

theorem rank_inj {a b : Distance} : a.rank = b.rank ↔ a = b := by
  constructor
  · intro h
    have hbits : a.bits.toNat = b.bits.toNat := by
      simp only [rank] at h
      split at h <;> split at h <;> omega
    cases a
    cases b
    exact congrArg mk (UInt64.toNat_inj.1 hbits)
  · intro h
    rw [h]

instance : Ord Distance := ⟨fun a b => compare a.rank b.rank⟩

end Distance

end Refit
