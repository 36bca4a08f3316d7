import Mathlib

/-!
# Rounding to doubles

Every finite double is a whole number of steps of `2 ^ (-1074)`.  The double
nearest to `n` steps is found by dropping all but 53 binary digits of `n` and
rounding to even; its bit pattern without the sign is a monotone function of
`n`.  The arithmetic of doubles rounds with a round bit and a sticky bit, which
comes to the same.
-/

namespace Refit.Double

open Float.Model Float.Model.UnpackedFloat

/-- `n / 2 ^ k` as the nearest whole number, the even one of two. -/
def nearestEven (n k : ℕ) : ℕ :=
  if 2 * (n % 2 ^ k) < 2 ^ k then n / 2 ^ k
  else if 2 ^ k < 2 * (n % 2 ^ k) then n / 2 ^ k + 1
  else n / 2 ^ k + n / 2 ^ k % 2

theorem nearestEven_zero (n : ℕ) : nearestEven n 0 = n := by
  simp [nearestEven, Nat.mod_one]

theorem div_le_nearestEven (n k : ℕ) : n / 2 ^ k ≤ nearestEven n k := by
  unfold nearestEven
  split_ifs <;> omega

theorem nearestEven_le_div_succ (n k : ℕ) : nearestEven n k ≤ n / 2 ^ k + 1 := by
  unfold nearestEven
  split_ifs <;> omega

theorem nearestEven_mono {n m : ℕ} (hnm : n ≤ m) (k : ℕ) :
    nearestEven n k ≤ nearestEven m k := by
  have hquot : n / 2 ^ k ≤ m / 2 ^ k := Nat.div_le_div_right hnm
  rcases hquot.lt_or_eq with hlt | heq
  · calc
      nearestEven n k ≤ n / 2 ^ k + 1 := nearestEven_le_div_succ n k
      _ ≤ m / 2 ^ k := hlt
      _ ≤ nearestEven m k := div_le_nearestEven m k
  · have hn := Nat.div_add_mod n (2 ^ k)
    have hm := Nat.div_add_mod m (2 ^ k)
    rw [heq] at hn
    have hrest : n % 2 ^ k ≤ m % 2 ^ k := by omega
    unfold nearestEven
    rw [heq]
    split_ifs <;> omega

theorem nearestEven_mul_pow (n k j : ℕ) :
    nearestEven (n * 2 ^ j) (k + j) = nearestEven n k := by
  have hpos : 0 < 2 ^ j := by positivity
  have hquot : n * 2 ^ j / 2 ^ (k + j) = n / 2 ^ k := by
    rw [pow_add, Nat.mul_div_mul_right _ _ hpos]
  have hrest : n * 2 ^ j % 2 ^ (k + j) = n % 2 ^ k * 2 ^ j := by
    rw [pow_add, Nat.mul_mod_mul_right]
  have hless : 2 * (n % 2 ^ k * 2 ^ j) < 2 ^ (k + j) ↔ 2 * (n % 2 ^ k) < 2 ^ k := by
    rw [pow_add, ← mul_assoc, Nat.mul_lt_mul_right hpos]
  have hmore : 2 ^ (k + j) < 2 * (n % 2 ^ k * 2 ^ j) ↔ 2 ^ k < 2 * (n % 2 ^ k) := by
    rw [pow_add, ← mul_assoc, Nat.mul_lt_mul_right hpos]
  simp only [nearestEven, hquot, hrest, hless, hmore]

/-- The number of binary digits of `n` that a double has no room for. -/
def excess (n : ℕ) : ℕ := n.log2 - 52

/-- The bit pattern of infinity, which stands for all that is too large. -/
def infinite : ℕ := 2047 * 2 ^ 52

/-- The bit pattern of the double nearest to `n` steps, without the sign. -/
def magnitude (n : ℕ) : ℕ :=
  min infinite (excess n * 2 ^ 52 + nearestEven n (excess n))

theorem magnitude_le (n : ℕ) : magnitude n ≤ infinite := min_le_left _ _

theorem pow_le_nearestEven {n : ℕ} (hn : 0 < excess n) :
    2 ^ 52 ≤ nearestEven n (excess n) := by
  unfold excess at hn ⊢
  have hne : n ≠ 0 := by
    rintro rfl
    simp at hn
  have hlow : 2 ^ n.log2 ≤ n := (Nat.le_log2 hne).mp le_rfl
  calc
    2 ^ 52 = 2 ^ n.log2 / 2 ^ (n.log2 - 52) := by
      rw [Nat.pow_div (by omega) (by norm_num)]
      congr 1
      omega
    _ ≤ n / 2 ^ (n.log2 - 52) := Nat.div_le_div_right hlow
    _ ≤ nearestEven n (n.log2 - 52) := div_le_nearestEven _ _

theorem nearestEven_excess_le (n : ℕ) :
    nearestEven n (excess n) ≤ 2 ^ 53 := by
  unfold excess
  have hhigh : n < 2 ^ (n.log2 + 1) := Nat.lt_log2_self
  have hquot : n / 2 ^ (n.log2 - 52) < 2 ^ 53 := by
    rw [Nat.div_lt_iff_lt_mul (by positivity), ← pow_add]
    exact hhigh.trans_le (Nat.pow_le_pow_right (by norm_num) (by omega))
  have hround := nearestEven_le_div_succ n (n.log2 - 52)
  omega

theorem magnitude_mono {n m : ℕ} (hnm : n ≤ m) : magnitude n ≤ magnitude m := by
  have hexcess : excess n ≤ excess m := by
    unfold excess
    have hlog : n.log2 ≤ m.log2 := by
      rw [Nat.log2_eq_log_two, Nat.log2_eq_log_two]
      exact Nat.log_mono_right hnm
    omega
  unfold magnitude
  apply min_le_min le_rfl
  rcases hexcess.lt_or_eq with hlt | heq
  · have hn := nearestEven_excess_le n
    have hm : 2 ^ 52 ≤ nearestEven m (excess m) := pow_le_nearestEven (by omega)
    omega
  · rw [heq]
    have hround := nearestEven_mono hnm (excess m)
    omega

theorem magnitude_zero : magnitude 0 = 0 := by decide

theorem magnitude_pos {n : ℕ} (hn : 0 < n) : 0 < magnitude n := by
  have hone : magnitude 1 = 1 := by decide
  have hmono : magnitude 1 ≤ magnitude n := magnitude_mono hn
  omega

section Bits

/-- What is left of a whole number, with its round bit and its sticky bit. -/
def shifted (m : ℕ) : ℕ → ExtendedMantissa
  | 0 => ⟨m, false, false⟩
  | k + 1 => ⟨m / 2 ^ (k + 1), m / 2 ^ k % 2 != 0, m % 2 ^ k != 0⟩

theorem shiftRightOne_shifted (m k : ℕ) :
    (shifted m k).shiftRightOne = shifted m (k + 1) := by
  cases k with
  | zero => simp [shifted, ExtendedMantissa.shiftRightOne, Nat.mod_one]
  | succ k =>
      have hhalf : m / 2 ^ (k + 1) / 2 = m / 2 ^ (k + 1 + 1) := by
        rw [Nat.div_div_eq_div_mul, ← pow_succ]
      have hsticky : (m / 2 ^ k % 2 != 0 || m % 2 ^ k != 0) =
          (m % 2 ^ (k + 1) != 0) := by
        rw [Nat.mod_pow_succ, Bool.eq_iff_iff]
        simp only [Bool.or_eq_true, bne_iff_ne, ne_eq, Nat.add_eq_zero_iff,
          Nat.mul_eq_zero, pow_eq_zero_iff']
        omega
      simp only [shifted, ExtendedMantissa.shiftRightOne, hhalf, hsticky]

theorem shiftRight_exact (m k : ℕ) :
    ExtendedMantissa.ofMantissaAndAccuracy m .exact >>> k = shifted m k := by
  change Nat.repeat ExtendedMantissa.shiftRightOne k _ = _
  induction k with
  | zero => rfl
  | succ k ih => rw [Nat.repeat, ih, shiftRightOne_shifted]

theorem roundedMantissa_eq (em : ExtendedMantissa) :
    em.roundedMantissa =
      if em.roundBit = true then
        if em.stickyBit = true then em.mantissa + 1
        else em.mantissa + em.mantissa % 2
      else em.mantissa := by
  obtain ⟨m, round, sticky⟩ := em
  cases round <;> cases sticky <;> rfl

theorem roundedMantissa_shifted (m k : ℕ) :
    (shifted m k).roundedMantissa = nearestEven m k := by
  cases k with
  | zero =>
      rw [nearestEven_zero]
      rfl
  | succ k =>
      have hrest : m % 2 ^ (k + 1) = m % 2 ^ k + 2 ^ k * (m / 2 ^ k % 2) :=
        Nat.mod_pow_succ
      have hlt : m % 2 ^ k < 2 ^ k := Nat.mod_lt _ (by positivity)
      have hpow : 2 ^ (k + 1) = 2 * 2 ^ k := by rw [pow_succ, mul_comm]
      rw [roundedMantissa_eq]
      simp only [shifted, bne_iff_ne, ne_eq]
      unfold nearestEven
      rcases Nat.mod_two_eq_zero_or_one (m / 2 ^ k) with hround | hround
      · rw [hround, mul_zero] at hrest
        rw [hround, hrest, if_neg (by decide)]
        split_ifs <;> omega
      · rw [hround, mul_one] at hrest
        rw [hround, hrest, if_pos (by decide)]
        split_ifs <;> omega

end Bits

section Exponents

theorem log2_mul_pow {m : ℕ} (hm : 0 < m) (k : ℕ) :
    (m * 2 ^ k).log2 = m.log2 + k := by
  have hlow : 2 ^ m.log2 ≤ m := (Nat.le_log2 hm.ne').mp le_rfl
  have hhigh : m < 2 ^ (m.log2 + 1) := Nat.lt_log2_self
  have hpos : 0 < m * 2 ^ k := by positivity
  rw [Nat.log2_eq_iff hpos.ne']
  constructor
  · rw [pow_add]
    exact Nat.mul_le_mul_right _ hlow
  · rw [show m.log2 + k + 1 = (m.log2 + 1) + k by omega, pow_add]
    exact Nat.mul_lt_mul_of_pos_right hhigh (by positivity)

theorem excess_mul_pow {m : ℕ} (hm : 0 < m) (k : ℕ) :
    excess (m * 2 ^ k) = m.log2 + k - 52 := by
  unfold excess
  rw [log2_mul_pow hm]

theorem targetExponent_eq (m k : ℕ) :
    Format.binary64.targetExponent (totalExponent m ((k : ℤ) - 1074)) =
      ((m.log2 + k - 52 : ℕ) : ℤ) - 1074 := by
  change max ((m.log2 : ℤ) + 1 + (k - 1074) - 53) (-1074) = _
  omega

theorem shiftToTargetExponent_eq (m k : ℕ) :
    shiftToTargetExponent Format.binary64 m ((k : ℤ) - 1074) .exact =
      (shifted m (m.log2 + k - 52 - k),
        ((max k (m.log2 + k - 52) : ℕ) : ℤ) - 1074) := by
  have hamount : (((m.log2 + k - 52 : ℕ) : ℤ) - 1074 - ((k : ℤ) - 1074)).toNat =
      m.log2 + k - 52 - k := by omega
  have hexponent : (k : ℤ) - 1074 + ((m.log2 + k - 52 - k : ℕ) : ℤ) =
      ((max k (m.log2 + k - 52) : ℕ) : ℤ) - 1074 := by omega
  simp only [shiftToTargetExponent, shiftToExponent, targetExponent_eq, hamount,
    shiftRight_exact, hexponent]

theorem roundWithAccuracy_eq
    {s : Sign} {m k q l l' : ℕ} {first final : ExtendedMantissa} (hq : 0 < q)
    (hfirst : shiftToTargetExponent Format.binary64 m ((k : ℤ) - 1074) .exact =
      (first, (l : ℤ) - 1074))
    (hfinal : shiftToTargetExponent Format.binary64 first.roundedMantissa
      ((l : ℤ) - 1074) .exact = (final, (l' : ℤ) - 1074))
    (hmantissa : final.mantissa = q) :
    roundWithAccuracy Format.binary64 s m ((k : ℤ) - 1074) .exact =
      .finite s q ((l' : ℤ) - 1074) hq := by
  subst hmantissa
  unfold roundWithAccuracy
  simp only [hfirst, hfinal]
  rw [dif_neg hq.ne']

/-- The mantissa of some steps with as many zeros behind it as its exponent can
give away, and the exponent that is left. -/
def moved (m k : ℕ) : ℕ × ℕ :=
  (m * 2 ^ (k - excess (m * 2 ^ k)), k - (k - excess (m * 2 ^ k)))

theorem round_moved (s : Sign) {m : ℕ} (hm : 0 < m) (k : ℕ) :
    UnpackedFloat.round Format.binary64 s m ((k : ℤ) - 1074) =
      roundWithAccuracy Format.binary64 s (moved m k).1
        (((moved m k).2 : ℤ) - 1074) .exact := by
  unfold moved
  have htarget := targetExponent_eq m k
  rw [← excess_mul_pow hm] at htarget
  set l := excess (m * 2 ^ k)
  have hamount : ((k : ℤ) - 1074 - ((l : ℤ) - 1074)).toNat = k - l := by omega
  have hexponent : (k : ℤ) - 1074 - ((k - l : ℕ) : ℤ) =
      ((k - (k - l) : ℕ) : ℤ) - 1074 := by omega
  unfold UnpackedFloat.round
  simp only [htarget, decreaseExponent, hamount, hexponent, Nat.shiftLeft_eq]

theorem shift_moved {m : ℕ} (hm : 0 < m) (k : ℕ) :
    ∃ first, shiftToTargetExponent Format.binary64 (moved m k).1
        (((moved m k).2 : ℤ) - 1074) .exact =
          (first, (excess (m * 2 ^ k) : ℤ) - 1074) ∧
      first.roundedMantissa =
        nearestEven (m * 2 ^ k) (excess (m * 2 ^ k)) := by
  unfold moved
  have hexcess := excess_mul_pow hm k
  set l := excess (m * 2 ^ k)
  have hlog : (m * 2 ^ (k - l)).log2 + (k - (k - l)) - 52 = l := by
    rw [log2_mul_pow hm]
    omega
  refine ⟨shifted (m * 2 ^ (k - l)) (l - (k - (k - l))), ?_, ?_⟩
  · rw [shiftToTargetExponent_eq, hlog]
    congr 3
    omega
  · have hsteps : m * 2 ^ k = m * 2 ^ (k - l) * 2 ^ (k - (k - l)) := by
      rw [mul_assoc, ← pow_add]
      congr 2
      omega
    have hsplit : l - (k - (k - l)) + (k - (k - l)) = l := by omega
    have hsame := nearestEven_mul_pow (m * 2 ^ (k - l)) (l - (k - (k - l)))
      (k - (k - l))
    rw [← hsteps, hsplit] at hsame
    rw [roundedMantissa_shifted, hsame]

/-- A number of steps, given as a mantissa with an exponent, is rounded to a
mantissa of at most 53 digits; unless all its digits are taken, the exponent is
the least one. -/
theorem round_eq (s : Sign) {m : ℕ} (hm : 0 < m) (k : ℕ) :
    ∃ q l : ℕ, ∃ hq : 0 < q,
      UnpackedFloat.round Format.binary64 s m ((k : ℤ) - 1074) =
        .finite s q ((l : ℤ) - 1074) hq ∧
      q < 2 ^ 53 ∧ (0 < l → 2 ^ 52 ≤ q) ∧
      l * 2 ^ 52 + q =
        excess (m * 2 ^ k) * 2 ^ 52 +
          nearestEven (m * 2 ^ k) (excess (m * 2 ^ k)) := by
  obtain ⟨first, hfirst, hrounded⟩ := shift_moved hm k
  rw [round_moved s hm k]
  have hbound := nearestEven_excess_le (m * 2 ^ k)
  have hlow := @pow_le_nearestEven (m * 2 ^ k)
  have hpos : 0 < nearestEven (m * 2 ^ k) (excess (m * 2 ^ k)) := by
    rcases Nat.eq_zero_or_pos (excess (m * 2 ^ k)) with hzero | hsome
    · rw [hzero, nearestEven_zero]
      positivity
    · have hbig := hlow hsome
      omega
  set l := excess (m * 2 ^ k)
  set q := nearestEven (m * 2 ^ k) l
  have hfinal := shiftToTargetExponent_eq q l
  rcases hbound.lt_or_eq with hlt | heq
  · have hlog : q.log2 < 53 := (Nat.log2_lt hpos.ne').mpr hlt
    rw [show q.log2 + l - 52 - l = 0 by omega,
      show max l (q.log2 + l - 52) = l by omega, ← hrounded] at hfinal
    exact ⟨q, l, hpos, roundWithAccuracy_eq hpos hfirst hfinal hrounded, hlt,
      hlow, rfl⟩
  · -- All digits were ones, and rounding carried into one more.
    have hlog : q.log2 = 53 := by rw [heq, Nat.log2_two_pow]
    rw [hlog, show 53 + l - 52 - l = 1 by omega,
      show max l (53 + l - 52) = l + 1 by omega, ← hrounded] at hfinal
    have hhalf : (shifted first.roundedMantissa 1).mantissa = 2 ^ 52 := by
      rw [hrounded, heq]
      rfl
    refine ⟨2 ^ 52, l + 1, by positivity,
      roundWithAccuracy_eq (by positivity) hfirst hfinal hhalf, by norm_num,
      fun _ => le_rfl, ?_⟩
    rw [heq]
    ring

end Exponents

end Refit.Double
