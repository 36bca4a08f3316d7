import Refit.Decimal.Single
import Refit.Proofs.Decimal.Rounding

/-!
# Singles as doubles

A single has digits enough in common with a double to become one without being rounded,
and all that is dropped on the way back are the zeros that were put behind its digits.
-/

namespace Refit.Double

open Float.Model Float.Model.UnpackedFloat

section Exact

variable {format : Format} {s : Sign} {m k : ℕ} {e : ℤ}

theorem totalExponent_mul_pow (hm : 0 < m) (k : ℕ) (e : ℤ) :
    totalExponent (m * 2 ^ k) (e - k) = totalExponent m e := by
  unfold totalExponent
  rw [log2_mul_pow hm, Nat.cast_add]
  ring

theorem shiftToTargetExponent_sub (k : ℕ) (hm : 0 < m)
    (htarget : format.targetExponent (totalExponent m e) = e) :
    shiftToTargetExponent format (m * 2 ^ k) (e - k) .exact = (shifted (m * 2 ^ k) k, e) := by
  have hamount : (e - (e - (k : ℤ))).toNat = k := by omega
  have hexponent : e - (k : ℤ) + k = e := by omega
  unfold shiftToTargetExponent shiftToExponent
  simp only [totalExponent_mul_pow hm, htarget, hamount, hexponent, shiftRight_exact]

theorem shiftToTargetExponent_self (hm : 0 < m)
    (htarget : format.targetExponent (totalExponent m e) = e) :
    shiftToTargetExponent format m e .exact = (shifted m 0, e) := by
  have hshift := shiftToTargetExponent_sub 0 hm htarget
  rw [pow_zero, mul_one, Nat.cast_zero, sub_zero] at hshift
  exact hshift

/-- Zeros behind the digits of a number that fits are dropped, and nothing else is. -/
theorem roundWithAccuracy_mul_pow (s : Sign) (k : ℕ) (hm : 0 < m)
    (htarget : format.targetExponent (totalExponent m e) = e) :
    roundWithAccuracy format s (m * 2 ^ k) (e - k) .exact = .finite s m e hm := by
  have hrounded : (shifted (m * 2 ^ k) k).roundedMantissa = m := by
    have hdropped := nearestEven_mul_pow m 0 k
    rw [zero_add, nearestEven_zero] at hdropped
    rw [roundedMantissa_shifted, hdropped]
  unfold roundWithAccuracy
  simp only [shiftToTargetExponent_sub k hm htarget, hrounded,
    shiftToTargetExponent_self hm htarget]
  exact dif_neg hm.ne'

theorem round_mul_pow (s : Sign) (k : ℕ) (hm : 0 < m)
    (htarget : format.targetExponent (totalExponent m e) = e) :
    UnpackedFloat.round format s (m * 2 ^ k) (e - k) = .finite s m e hm := by
  have hamount : (e - (k : ℤ) - e).toNat = 0 := by omega
  unfold UnpackedFloat.round
  simp only [totalExponent_mul_pow hm, htarget, decreaseExponent, hamount, Nat.shiftLeft_zero,
    Nat.cast_zero, sub_zero]
  exact roundWithAccuracy_mul_pow s k hm htarget

/-- A number with fewer digits than there is room for gets zeros behind them. -/
theorem round_of_short (s : Sign) (hm : 0 < m)
    (htarget : format.targetExponent (totalExponent m e) = e - k) :
    UnpackedFloat.round format s m e =
      .finite s (m * 2 ^ k) (e - k) (Nat.mul_pos hm (Nat.two_pow_pos k)) := by
  have hamount : (e - (e - (k : ℤ))).toNat = k := by omega
  have hpos : 0 < m * 2 ^ k := Nat.mul_pos hm (Nat.two_pow_pos k)
  have hfits : format.targetExponent (totalExponent (m * 2 ^ k) (e - k)) = e - k := by
    rw [totalExponent_mul_pow hm, htarget]
  have hkept := roundWithAccuracy_mul_pow s 0 hpos hfits
  rw [pow_zero, mul_one, Nat.cast_zero, sub_zero] at hkept
  unfold UnpackedFloat.round
  simp only [htarget, decreaseExponent, hamount, Nat.shiftLeft_eq]
  exact hkept

end Exact

section Unpacking

/-- What the bit pattern of a single unpacks to. -/
inductive Single : UnpackedFloat → Prop
  | notANumber : Single .notANumber
  | infinity (s : Sign) : Single (.infinity s)
  | zero (s : Sign) : Single (.zero s)
  | finite (s : Sign) {m : ℕ} {e : ℤ} (hm : 0 < m) (hdigits : m < 2 ^ 24) (hlow : -149 ≤ e)
      (hhigh : e ≤ 104) (hfull : e = -149 ∨ 2 ^ 23 ≤ m) : Single (.finite s m e hm)

theorem single_unpack (b : BitVec Format.binary32.numBits) :
    Single (UnpackedFloat.unpack Format.binary32 b) := by
  have hmantissa : (unpackMantissa b).toNat < 2 ^ 23 := (unpackMantissa b).isLt
  have hexponent : (unpackExponent b).toNat < 2 ^ 8 := (unpackExponent b).isLt
  have hbias : ((Format.binary32.exponentBias : ℕ) : ℤ) +
      (Format.binary32.mantissaBitsWithoutImplicit : ℕ) = 150 := rfl
  unfold UnpackedFloat.unpack
  simp only
  split_ifs with hspecial hinfinite hsubnormal hnone
  · exact .infinity _
  · exact .notANumber
  · exact .zero _
  · have hzero : (unpackExponent b).toNat = 0 := by
      rw [hsubnormal]
      rfl
    rw [hbias, hzero]
    exact .finite _ _ (by omega) (by omega) (by omega) (.inl rfl)
  · have hpositive : (unpackExponent b).toNat ≠ 0 := by
      intro heq
      exact hsubnormal (BitVec.eq_of_toNat_eq heq)
    have hbelow : (unpackExponent b).toNat ≠ 255 := by
      intro heq
      exact hspecial (BitVec.eq_of_toNat_eq heq)
    have happend : (1#1 ++ unpackMantissa b).toNat = 2 ^ 23 + (unpackMantissa b).toNat := by
      rw [BitVec.toNat_append, ← Nat.shiftLeft_add_eq_or_of_lt hmantissa]
      rfl
    rw [hbias]
    apply Single.finite
    · rw [happend]
      omega
    · omega
    · omega
    · rw [happend]
      omega

theorem unpack_packedInfinity (s : Sign) :
    UnpackedFloat.unpack Format.binary64 (packedInfinity Format.binary64 s) = .infinity s := by
  simp [UnpackedFloat.unpack, packedInfinity]

/-- A double whose digits are all taken is unpacked as it was packed. -/
theorem unpack_pack_full (s : Sign) {q l : ℕ} (hq : 0 < q) (hlow : 2 ^ 52 ≤ q)
    (hhigh : q < 2 ^ 53) (hl : l < 2045) :
    UnpackedFloat.unpack Format.binary64
        (UnpackedFloat.pack Format.binary64 (.finite s q ((l : ℤ) - 1074) hq)) =
      .finite s q ((l : ℤ) - 1074) hq := by
  have hbiased : ((l : ℤ) - 1074 + (Format.binary64.exponentBias : ℕ) +
      (Format.binary64.mantissaBitsWithoutImplicit : ℕ)).toNat = l + 1 := by
    change ((l : ℤ) - 1074 + 1023 + 52).toNat = l + 1
    omega
  have hlog : q.log2 = 52 := (Nat.log2_eq_iff hq.ne').mpr ⟨hlow, hhigh⟩
  have hpack : UnpackedFloat.pack Format.binary64 (.finite s q ((l : ℤ) - 1074) hq) =
      packComponents Format.binary64 s (BitVec.ofNat 11 (l + 1)) (BitVec.ofNat 52 q) := by
    have hroom : ¬ 2 ^ Format.binary64.exponentBits ≤ l + 1 + 1 := by
      change ¬ 2 ^ 11 ≤ l + 1 + 1
      omega
    have hdigits : q.log2 + 1 = Format.binary64.mantissaBits := by
      rw [hlog]
      rfl
    unfold UnpackedFloat.pack
    simp only [hbiased, hroom, hdigits, if_true, if_false]
  have hexponent : (BitVec.ofNat 11 (l + 1)).toNat = l + 1 := by
    rw [BitVec.toNat_ofNat]
    omega
  have hspecial : BitVec.ofNat 11 (l + 1) ≠ -1#11 := by
    intro heq
    have hall : (-1#11).toNat = 2047 := rfl
    rw [heq] at hexponent
    omega
  have hsubnormal : BitVec.ofNat 11 (l + 1) ≠ 0#11 := by
    intro heq
    have hnone : (0#11).toNat = 0 := rfl
    rw [heq] at hexponent
    omega
  have happend : (1#1 ++ BitVec.ofNat 52 q).toNat = q := by
    have hmantissa : (BitVec.ofNat 52 q).toNat < 2 ^ 52 := (BitVec.ofNat 52 q).isLt
    rw [BitVec.toNat_append, ← Nat.shiftLeft_add_eq_or_of_lt hmantissa, BitVec.toNat_ofNat]
    change 2 ^ 52 + q % 2 ^ 52 = q
    omega
  have hbias : ((l + 1 : ℕ) : ℤ) - ((Format.binary64.exponentBias : ℕ) +
      (Format.binary64.mantissaBitsWithoutImplicit : ℕ)) = (l : ℤ) - 1074 := by
    change ((l + 1 : ℕ) : ℤ) - (1023 + 52) = (l : ℤ) - 1074
    omega
  rw [hpack]
  unfold UnpackedFloat.unpack
  simp only [unpackExponent_packComponents, unpackMantissa_packComponents,
    unpackSign_packComponents, Sign.ofBitVec_toBitVec, hspecial, hsubnormal, if_false, hexponent,
    hbias, happend]

end Unpacking

section Widening

open Decimal

variable {u : UnpackedFloat}

/-- With zeros behind its digits a number has 53 of them. -/
theorem full_digits {m : ℕ} (hm : 0 < m) (hlog : m.log2 < 24) :
    2 ^ 52 ≤ m * 2 ^ (52 - m.log2) ∧ m * 2 ^ (52 - m.log2) < 2 ^ 53 := by
  have hlow : 2 ^ m.log2 ≤ m := (Nat.le_log2 hm.ne').mp le_rfl
  have hhigh : m < 2 ^ (m.log2 + 1) := Nat.lt_log2_self
  have hpower : 2 ^ m.log2 * 2 ^ (52 - m.log2) = 2 ^ 52 := by
    rw [← pow_add]
    congr 1
    omega
  have hdouble : 2 ^ (m.log2 + 1) * 2 ^ (52 - m.log2) = 2 ^ 53 := by
    rw [pow_succ, mul_right_comm, hpower, ← pow_succ]
  constructor
  · rw [← hpower]
    exact Nat.mul_le_mul_right _ hlow
  · rw [← hdouble]
    exact Nat.mul_lt_mul_of_pos_right hhigh (Nat.two_pow_pos _)

theorem Single.fitted_widened (hu : Single u) :
    UnpackedFloat.unpack Format.binary64
        (UnpackedFloat.pack Format.binary64 (fitted .binary64 u)) = fitted .binary64 u ∧
      fitted .binary32 (fitted .binary64 u) = u := by
  cases hu with
  | notANumber => exact ⟨unpack_packedNaN, rfl⟩
  | infinity s => exact ⟨unpack_packedInfinity s, rfl⟩
  | zero s => exact ⟨unpack_packedZero, rfl⟩
  | @finite s m e hm hdigits hlow hhigh hfull =>
      have hlog : m.log2 < 24 := (Nat.log2_lt hm.ne').mpr hdigits
      -- As a double the number has 53 digits, as a single no more than it had.
      have hwide : Format.binary64.targetExponent (totalExponent m e) =
          e - ((52 - m.log2 : ℕ) : ℤ) := by
        change max ((m.log2 : ℤ) + 1 + e - 53) (-1074) = _
        omega
      have hnarrow : Format.binary32.targetExponent (totalExponent m e) = e := by
        change max ((m.log2 : ℤ) + 1 + e - 24) (-149) = e
        rcases hfull with hleast | hfull
        · omega
        · have hall : 23 ≤ m.log2 := (Nat.le_log2 hm.ne').mpr hfull
          omega
      have hwidened := round_of_short s hm hwide
      have hexponent : e - ((52 - m.log2 : ℕ) : ℤ) =
          (((e + 1074).toNat - (52 - m.log2) : ℕ) : ℤ) - 1074 := by
        omega
      rcases full_digits hm hlog with ⟨hfirst, hlast⟩
      constructor
      · change UnpackedFloat.unpack _ (UnpackedFloat.pack _ (UnpackedFloat.round _ s m e)) =
          UnpackedFloat.round _ s m e
        rw [hwidened]
        simp only [hexponent]
        exact unpack_pack_full s _ hfirst hlast (by omega)
      · change fitted .binary32 (UnpackedFloat.round _ s m e) = _
        rw [hwidened]
        exact round_mul_pow s _ hm hnarrow

/-- Every single is a double. -/
theorem toSingle_ofSingle (x : Float32) : toSingle (ofSingle x) = x := by
  have hsingle : Single x.toModel.unpack := single_unpack _
  have hdouble : (ofSingle x).toModel.unpack = fitted .binary64 x.toModel.unpack :=
    hsingle.fitted_widened.1
  have hpack : Float32.Model.pack x.toModel.unpack = x.toModel := by
    have hbits := pack_unpack_of_valid x.toModel.valid
    have hsame : (Float32.Model.pack x.toModel.unpack).toBits = x.toModel.toBits :=
      UInt32.toBitVec_inj.mp hbits
    generalize Float32.Model.pack x.toModel.unpack = y at hsame
    generalize x.toModel = z at hsame ⊢
    cases y
    cases z
    cases hsame
    rfl
  unfold toSingle
  rw [hdouble]
  change Float32.ofModel (.pack (fitted .binary32 (fitted .binary64 _))) = x
  rw [hsingle.fitted_widened.2]
  exact congrArg Float32.ofModel hpack

end Widening

end Refit.Double
