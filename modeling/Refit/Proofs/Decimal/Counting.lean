import Refit.Proofs.Decimal.Addition

/-!
# Whole numbers as doubles

A whole number becomes the double nearest to it, infinity if it is too large: small ones
by a product with one, which is exact, large ones by one rounding.  Zero divided by any
other number of these is zero.
-/

namespace Refit.Double

open Float.Model Float.Model.UnpackedFloat

section Rounding

/-- With all digits taken, nothing is moved into the mantissa before the rounding. -/
theorem roundWithAccuracy_of_full (s : Sign) {m : ℕ} (hfull : 2 ^ 52 ≤ m) (k : ℕ) :
    roundWithAccuracy Format.binary64 s m ((k : ℤ) - 1074) .exact =
      UnpackedFloat.round Format.binary64 s m ((k : ℤ) - 1074) := by
  have hm : 0 < m := Nat.lt_of_lt_of_le (by positivity) hfull
  have hlog : 52 ≤ m.log2 := (Nat.le_log2 hm.ne').mpr hfull
  have hnone : k - excess (m * 2 ^ k) = 0 := by
    rw [excess_mul_pow hm]
    omega
  have hmoved : moved m k = (m, k) := by
    unfold moved
    rw [hnone, pow_zero, mul_one, Nat.sub_zero]
  rw [round_moved s hm, hmoved]

theorem place_roundWithAccuracy {m : ℕ} (hfull : 2 ^ 52 ≤ m) (k : ℕ) :
    place (roundWithAccuracy Format.binary64 .positive m ((k : ℤ) - 1074) .exact) =
      rounded (m * 2 ^ k) := by
  have hm : 0 < m := Nat.lt_of_lt_of_le (by positivity) hfull
  have hnormal : UnpackedFloat.normalize Format.binary64 (m : ℤ) ((k : ℤ) - 1074) .positive =
      UnpackedFloat.round Format.binary64 .positive m ((k : ℤ) - 1074) := by
    unfold UnpackedFloat.normalize
    rw [compare_gt_iff_gt.mpr (by exact_mod_cast hm), Int.toNat_natCast]
  rw [roundWithAccuracy_of_full _ hfull, ← hnormal, place_normalize]

theorem order_toFloat_uint64 (n : UInt64) :
    order n.toFloat = rounded ((n.toNat : ℤ) * 2 ^ 1074) := by
  have hplace := place_normalize (n.toNat : ℤ) 1074
  exact hplace

end Rounding

section Positive

/-- What a double above zero, but not beyond infinity, unpacks to. -/
theorem unpack_of_order_pos {x : Float} (hpos : 0 < order x) (hle : order x ≤ infinite) :
    x.toModel.unpack = .infinity .positive ∨
      ∃ (q l : ℕ) (hq : 0 < q),
        x.toModel.unpack = .finite .positive q ((l : ℤ) - 1074) hq ∧ q < 2 ^ 53 ∧
          (0 < l → 2 ^ 52 ≤ q) := by
  rcases infinity_or_finite (isNaN_of_order_le hle) with ⟨s, hinfinity⟩ | hfinite
  · cases s with
    | positive => exact .inl hinfinity
    | negative =>
        rw [order_infinity hinfinity] at hpos
        simp only [signed] at hpos
        omega
  · have hregular := regular_of_isFinite hfinite
    rw [order_eq_place] at hpos
    generalize x.toModel.unpack = u at hregular hpos ⊢
    cases hregular with
    | zero s =>
        rw [place_zero] at hpos
        cases s <;> simp [signed] at hpos
    | @finite s q l e hq he hlt hlow =>
        subst he
        cases s with
        | positive => exact .inr ⟨q, l, hq, rfl, hlt, hlow⟩
        | negative =>
            rw [place_finite .negative hq hlt hlow] at hpos
            simp only [signed] at hpos
            omega

/-- A product with one is exact. -/
theorem order_mul_one
    {x one : Float} (hlow : rounded (2 ^ 1074) ≤ order x) (hle : order x ≤ infinite)
    (hone : one.toModel.unpack = .finite .positive (2 ^ 52) (-52) (by positivity)) :
    order (x * one) = order x := by
  have hleast : rounded (2 ^ 1074) = 1022 * 2 ^ 52 + 2 ^ 52 := by decide +kernel
  have hproduct : order (x * one) =
      place (mul Format.binary64 x.toModel.unpack one.toModel.unpack) := rfl
  rw [hproduct, hone, order_eq_place]
  rcases unpack_of_order_pos (by omega) hle with hinfinity | ⟨q, l, hq, hfinite, hlt, hfull⟩
  · rw [hinfinity]
    rfl
  · have hplace := place_finite .positive hq hlt hfull
    rw [order_eq_place, hfinite, hplace] at hlow
    have hl : 52 ≤ l := by
      simp only [signed] at hlow
      omega
    have hexponent : (l : ℤ) - 1074 + -52 = ((l - 52 : ℕ) : ℤ) - 1074 := by omega
    have hpow : ((q * 2 ^ 52 : ℕ) : ℤ) * 2 ^ (l - 52) = q * 2 ^ l := by
      rw [Nat.cast_mul, Nat.cast_pow, mul_assoc, Nat.cast_ofNat, ← pow_add]
      congr 2
      omega
    rw [hfinite, place_finite_eq .positive hq hlt hfull]
    unfold UnpackedFloat.mul
    simp only [hexponent]
    refine (place_roundWithAccuracy (by omega) (l - 52)).trans ?_
    rw [hpow]
    rfl

end Positive

section Counts

theorem order_ofNat_small {n : ℕ} (hpos : 0 < n) (hn : n < 2 ^ 53) :
    order (Float.ofNat n) = rounded ((n : ℤ) * 2 ^ 1074) := by
  have hproduct : Float.ofNat n =
      n.toUInt64.toFloat * Float.exactlyRepresentablePowersOfTen[0] := by
    change Float.ofScientific n false 0 = _
    unfold Float.ofScientific
    rw [dif_pos ⟨hn, Nat.zero_le _⟩]
    rfl
  have hfactor : order n.toUInt64.toFloat = rounded ((n : ℤ) * 2 ^ 1074) := by
    have hsame : n.toUInt64.toNat = n := by
      rw [Nat.toUInt64_eq, UInt64.toNat_ofNat']
      exact Nat.mod_eq_of_lt (by omega)
    rw [order_toFloat_uint64, hsame]
  have hlow : (2 : ℤ) ^ 1074 ≤ n * 2 ^ 1074 :=
    le_mul_of_one_le_left (by positivity) (by exact_mod_cast hpos)
  rw [hproduct, order_mul_one, hfactor]
  · rw [hfactor]
    exact rounded_mono hlow
  · rw [hfactor]
    exact (rounded_bounds _).2
  · rfl

theorem order_ofNat_large {n : ℕ} (hn : 2 ^ 53 ≤ n) :
    order (Float.ofNat n) = rounded ((n : ℤ) * 2 ^ 1074) := by
  have hpos : n ≠ 0 := by omega
  have hrounded : Float.ofNat n = ⟨Float.Model.pack (roundWithAccuracy Format.binary64 .positive
      (n * 2 ^ 53) (((1021 : ℕ) : ℤ) - 1074) .exact)⟩ := by
    change Float.ofScientific n false 0 = _
    unfold Float.ofScientific
    rw [dif_neg (by omega)]
    change (⟨Float.Model.pack (UnpackedFloat.ofScientific Format.binary64 n 0)⟩ : Float) = _
    have hbits : (2 : ℤ) ^ Format.binary64.exponentBits = 2048 := rfl
    unfold UnpackedFloat.ofScientific
    rw [dif_neg hpos, hbits, if_neg (by omega), if_neg (by omega), if_pos le_rfl]
    unfold UnpackedFloat.mul
    simp only [Nat.shiftLeft_eq, Int.toNat_zero, pow_zero, mul_one]
    rfl
  have hpow : ((n * 2 ^ 53 : ℕ) : ℤ) * 2 ^ 1021 = n * 2 ^ 1074 := by
    rw [Nat.cast_mul, Nat.cast_pow, mul_assoc, Nat.cast_ofNat, ← pow_add]
  rw [hrounded, ← hpow]
  exact place_roundWithAccuracy (by omega) 1021

/-- A whole number becomes the double nearest to it. -/
theorem order_ofNat (n : ℕ) : order (Float.ofNat n) = rounded ((n : ℤ) * 2 ^ 1074) := by
  rcases Nat.eq_zero_or_pos n with rfl | hpos
  · rw [Nat.cast_zero, zero_mul, rounded_zero]
    rfl
  · rcases Nat.lt_or_ge n (2 ^ 53) with hsmall | hlarge
    · exact order_ofNat_small hpos hsmall
    · exact order_ofNat_large hlarge

theorem zero_div_ofNat {n : ℕ} (hpos : 0 < n) : 0 / Float.ofNat n = 0 := by
  have hquotient : order (0 / Float.ofNat n) =
      place (div Format.binary64 (.zero .positive) (Float.ofNat n).toModel.unpack) := rfl
  have hrounded : 0 < rounded ((n : ℤ) * 2 ^ 1074) := by
    have hmagnitude : 0 < magnitude (n * 2 ^ 1074) := magnitude_pos (by positivity)
    have happly := rounded_apply (m := n * 2 ^ 1074) (by positivity) .positive
    change rounded ((n * 2 ^ 1074 : ℕ) : ℤ) = (magnitude (n * 2 ^ 1074) : ℤ) at happly
    rw [Nat.cast_mul, Nat.cast_pow, Nat.cast_ofNat] at happly
    omega
  have hle : order (Float.ofNat n) ≤ infinite := by
    rw [order_ofNat]
    exact (rounded_bounds _).2
  have hzero : order 0 = place (.zero .positive) := rfl
  apply order_inj
  rw [hquotient, hzero]
  rcases unpack_of_order_pos (by rw [order_ofNat]; exact hrounded) hle with
    hinfinity | ⟨q, l, hq, hfinite, -, -⟩
  · rw [hinfinity]
    rfl
  · rw [hfinite]
    rfl

end Counts

end Refit.Double
