import Mathlib
import Refit.Proofs.Decimal.Rounding
import Refit.Ranking.Distance

/-!
# Sums of doubles

A sum of two finite doubles is their exact sum, rounded.  Rounding is monotone,
so a sum of doubles does not come before another in their total order when its
summands do not, the signs of zero included.
-/

namespace Refit.Double

open Float.Model Float.Model.UnpackedFloat

section Places

/-- The place of a bit pattern with this sign in the total order of doubles. -/
def signed : Sign → ℕ → ℤ
  | .positive, bits => bits
  | .negative, bits => -1 - bits

theorem signed_bounds (s : Sign) {m : ℕ} (hm : m ≤ infinite) :
    -1 - infinite ≤ signed s m ∧ signed s m ≤ infinite := by
  cases s <;> simp only [signed] <;> omega

/-- The place of a double in the total order. -/
def place (u : UnpackedFloat) : ℤ :=
  Distance.rank ⟨⟨u.pack Format.binary64⟩⟩

theorem toNat_packComponents (s : Sign) (e : BitVec 11) (m : BitVec 52) :
    (packComponents Format.binary64 s e m).toNat =
      s.toBitVec.toNat * 2 ^ 63 + (e.toNat * 2 ^ 52 + m.toNat) := by
  have he : e.toNat < 2 ^ 11 := e.isLt
  have hm : m.toNat < 2 ^ 52 := m.isLt
  change (s.toBitVec ++ e ++ m).toNat = _
  rw [BitVec.toNat_append, BitVec.toNat_append,
    ← Nat.shiftLeft_add_eq_or_of_lt he, ← Nat.shiftLeft_add_eq_or_of_lt hm,
    Nat.shiftLeft_eq, Nat.shiftLeft_eq]
  ring

theorem rank_packComponents (s : Sign) (e : BitVec 11) (m : BitVec 52) :
    Distance.rank ⟨⟨packComponents Format.binary64 s e m⟩⟩ =
      signed s (e.toNat * 2 ^ 52 + m.toNat) := by
  have he : e.toNat < 2 ^ 11 := e.isLt
  have hm : m.toNat < 2 ^ 52 := m.isLt
  have hbits := toNat_packComponents s e m
  have hsplit : (Nat.pow 2 63 : ℕ) = 2 ^ 63 := rfl
  unfold Distance.rank
  change (if (packComponents Format.binary64 s e m).toNat < Nat.pow 2 63 then _
    else _) = _
  cases s with
  | positive =>
      have hsign : Sign.positive.toBitVec.toNat = 0 := rfl
      rw [hsign] at hbits
      rw [if_pos (by omega)]
      change (((packComponents Format.binary64 .positive e m).toNat : ℕ) : ℤ) = _
      simp only [signed]
      omega
  | negative =>
      have hsign : Sign.negative.toBitVec.toNat = 1 := rfl
      rw [hsign] at hbits
      rw [if_neg (by omega)]
      change -1 - (((packComponents Format.binary64 .negative e m).toNat -
        Nat.pow 2 63 : ℕ) : ℤ) = _
      simp only [signed]
      omega

theorem place_zero (s : Sign) : place (.zero s) = signed s 0 := by
  cases s <;> rfl

theorem place_infinity (s : Sign) : place (.infinity s) = signed s infinite := by
  cases s <;> rfl

theorem place_finite
    (s : Sign) {q l : ℕ} (hq : 0 < q) (hlt : q < 2 ^ 53) (hlow : 0 < l → 2 ^ 52 ≤ q) :
    place (.finite s q ((l : ℤ) - 1074) hq) =
      signed s (min infinite (l * 2 ^ 52 + q)) := by
  have hbiased : ((l : ℤ) - 1074 + (Format.binary64.exponentBias : ℕ) +
      (Format.binary64.mantissaBitsWithoutImplicit : ℕ)).toNat = l + 1 := by
    change ((l : ℤ) - 1074 + 1023 + 52).toNat = l + 1
    omega
  unfold place UnpackedFloat.pack
  simp only [hbiased]
  by_cases hlarge : 2 ^ 11 ≤ l + 1 + 1
  · have hmin : min infinite (l * 2 ^ 52 + q) = infinite := by
      unfold infinite
      have hbig := hlow (by omega)
      omega
    rw [if_pos hlarge, hmin]
    exact place_infinity s
  rw [if_neg hlarge]
  have hmin : min infinite (l * 2 ^ 52 + q) = l * 2 ^ 52 + q := by
    unfold infinite
    omega
  have hmantissa : (BitVec.ofNat 52 q).toNat = q % 2 ^ 52 := BitVec.toNat_ofNat _ _
  by_cases hfull : 2 ^ 52 ≤ q
  · have hlog : q.log2 = 52 := (Nat.log2_eq_iff hq.ne').mpr ⟨hfull, hlt⟩
    have hexponent : (BitVec.ofNat 11 (l + 1)).toNat = l + 1 := by
      rw [BitVec.toNat_ofNat]
      omega
    rw [if_pos (by rw [hlog]; rfl)]
    refine (rank_packComponents s (BitVec.ofNat 11 (l + 1)) (BitVec.ofNat 52 q)).trans ?_
    have hbits : (l + 1) * 2 ^ 52 + q % 2 ^ 52 = l * 2 ^ 52 + q := by omega
    rw [hexponent, hmantissa, hmin, hbits]
  · have hlog : q.log2 < 52 := (Nat.log2_lt hq.ne').mpr (by omega)
    have hl : l = 0 := by
      by_contra hne
      exact hfull (hlow (by omega))
    rw [if_neg (by change q.log2 + 1 ≠ 53; omega)]
    have hexponent : (0#11).toNat = 0 := rfl
    refine (rank_packComponents s (0#11) (BitVec.ofNat 52 q)).trans ?_
    have hbits : 0 * 2 ^ 52 + q % 2 ^ 52 = l * 2 ^ 52 + q := by omega
    rw [hexponent, hmantissa, hmin, hbits]

end Places

section Steps

/-- What the bit pattern of a finite double unpacks to. -/
inductive Regular : UnpackedFloat → Prop
  | zero (s : Sign) : Regular (.zero s)
  | finite (s : Sign) {q l : ℕ} {e : ℤ} (hq : 0 < q) (he : e = (l : ℤ) - 1074)
      (hlt : q < 2 ^ 53) (hlow : 0 < l → 2 ^ 52 ≤ q) : Regular (.finite s q e hq)

theorem regular_unpack
    {b : BitVec Format.binary64.numBits}
    (hfinite : (UnpackedFloat.unpack Format.binary64 b).isFinite = true) :
    Regular (UnpackedFloat.unpack Format.binary64 b) := by
  have hmantissa : (unpackMantissa b).toNat < 2 ^ 52 := (unpackMantissa b).isLt
  have hbias : ((Format.binary64.exponentBias : ℕ) : ℤ) +
      (Format.binary64.mantissaBitsWithoutImplicit : ℕ) = 1075 := rfl
  unfold UnpackedFloat.unpack at hfinite ⊢
  simp only at hfinite ⊢
  split_ifs with hspecial hzero hsubnormal hnone
  · rw [if_pos hspecial, if_pos hzero] at hfinite
    cases hfinite
  · rw [if_pos hspecial, if_neg hzero] at hfinite
    cases hfinite
  · exact .zero _
  · have hexponent : (unpackExponent b).toNat = 0 := by
      rw [hsubnormal]
      rfl
    refine .finite _ (l := 0) _ ?_ (by omega) (by omega)
    rw [hbias, hexponent]
    rfl
  · have hexponent : (unpackExponent b).toNat ≠ 0 := by
      intro heq
      exact hsubnormal (BitVec.eq_of_toNat_eq heq)
    have happend : (1#1 ++ unpackMantissa b).toNat =
        2 ^ 52 + (unpackMantissa b).toNat := by
      rw [BitVec.toNat_append, ← Nat.shiftLeft_add_eq_or_of_lt hmantissa]
      rfl
    refine .finite _ (l := (unpackExponent b).toNat - 1) _ ?_ ?_ ?_
    · rw [hbias]
      omega
    · rw [happend]
      omega
    · rw [happend]
      omega

/-- How many steps a double is from zero. -/
def steps : UnpackedFloat → ℤ
  | .finite s q e _ => s.apply (q * 2 ^ (e + 1074).toNat)
  | _ => 0

/-- The place of the double nearest to some steps. -/
def rounded (n : ℤ) : ℤ :=
  if 0 ≤ n then magnitude n.toNat else -1 - magnitude (-n).toNat

theorem rounded_zero : rounded 0 = 0 := by
  unfold rounded
  rw [if_pos le_rfl, Int.toNat_zero, magnitude_zero]
  rfl

theorem rounded_mono {n m : ℤ} (hnm : n ≤ m) : rounded n ≤ rounded m := by
  unfold rounded
  split_ifs with hn hm hm
  · have hround : magnitude n.toNat ≤ magnitude m.toNat := magnitude_mono (by omega)
    omega
  · omega
  · omega
  · have hround : magnitude (-m).toNat ≤ magnitude (-n).toNat :=
      magnitude_mono (by omega)
    omega

theorem rounded_bounds (n : ℤ) : -1 - infinite ≤ rounded n ∧ rounded n ≤ infinite := by
  unfold rounded
  split_ifs
  · have hround := magnitude_le n.toNat
    omega
  · have hround := magnitude_le (-n).toNat
    omega

theorem rounded_nonneg {n : ℤ} (hn : 0 ≤ n) : 0 ≤ rounded n := by
  unfold rounded
  rw [if_pos hn]
  omega

theorem rounded_of_neg {n : ℤ} (hn : n < 0) : rounded n < -1 := by
  have hround : 0 < magnitude (-n).toNat := magnitude_pos (by omega)
  unfold rounded
  rw [if_neg (by omega)]
  omega

theorem magnitude_mul_pow
    {q l : ℕ} (hq : 0 < q) (hlt : q < 2 ^ 53) (hlow : 0 < l → 2 ^ 52 ≤ q) :
    magnitude (q * 2 ^ l) = min infinite (l * 2 ^ 52 + q) := by
  have hlog : q.log2 < 53 := (Nat.log2_lt hq.ne').mpr hlt
  have hexcess : excess (q * 2 ^ l) = l := by
    rw [excess_mul_pow hq]
    rcases Nat.eq_zero_or_pos l with rfl | hl
    · omega
    · have hfull : 52 ≤ q.log2 := (Nat.le_log2 hq.ne').mpr (hlow hl)
      omega
  have hexact := nearestEven_mul_pow q 0 l
  rw [zero_add, nearestEven_zero] at hexact
  unfold magnitude
  rw [hexcess, hexact]

theorem rounded_apply {m : ℕ} (hm : 0 < m) (s : Sign) :
    rounded (s.apply m) = signed s (magnitude m) := by
  unfold rounded
  cases s with
  | positive =>
      have happly : Sign.positive.apply (m : ℤ) = m := rfl
      rw [happly, if_pos (by omega)]
      rfl
  | negative =>
      have happly : Sign.negative.apply (m : ℤ) = -m := rfl
      rw [happly, if_neg (by omega), neg_neg]
      rfl

theorem place_finite_eq
    (s : Sign) {q l : ℕ} (hq : 0 < q) (hlt : q < 2 ^ 53) (hlow : 0 < l → 2 ^ 52 ≤ q) :
    place (.finite s q ((l : ℤ) - 1074) hq) = rounded (s.apply (q * 2 ^ l)) := by
  have hm : 0 < q * 2 ^ l := by positivity
  have happly := rounded_apply hm s
  push_cast at happly
  rw [place_finite s hq hlt hlow, happly, magnitude_mul_pow hq hlt hlow]

theorem place_normalize (n : ℤ) (k : ℕ) :
    place (UnpackedFloat.normalize Format.binary64 n ((k : ℤ) - 1074) .positive) =
      rounded (n * 2 ^ k) := by
  have hround : ∀ (s : Sign) {m : ℕ}, 0 < m →
      place (UnpackedFloat.round Format.binary64 s m ((k : ℤ) - 1074)) =
        rounded (s.apply (m * 2 ^ k)) := by
    intro s m hm
    obtain ⟨q, l, hq, hrounded, hlt, hlow, hbits⟩ := round_eq s hm k
    have hpos : 0 < m * 2 ^ k := by positivity
    have happly := rounded_apply hpos s
    push_cast at happly
    rw [hrounded, place_finite s hq hlt hlow, hbits, happly]
    rfl
  unfold UnpackedFloat.normalize
  rcases lt_trichotomy n 0 with hneg | rfl | hpos
  · rw [compare_lt_iff_lt.mpr hneg]
    have hcast : (((-n).toNat : ℕ) : ℤ) = -n := by omega
    have happly : Sign.negative.apply ((((-n).toNat : ℕ) : ℤ) * 2 ^ k) = n * 2 ^ k := by
      change -((((-n).toNat : ℕ) : ℤ) * 2 ^ k) = n * 2 ^ k
      rw [hcast]
      ring
    rw [← happly]
    exact hround .negative (by omega)
  · rw [zero_mul, rounded_zero]
    exact place_zero .positive
  · rw [compare_gt_iff_gt.mpr hpos]
    have hcast : ((n.toNat : ℕ) : ℤ) = n := by omega
    have happly : Sign.positive.apply (((n.toNat : ℕ) : ℤ) * 2 ^ k) = n * 2 ^ k := by
      change ((n.toNat : ℕ) : ℤ) * 2 ^ k = n * 2 ^ k
      rw [hcast]
    rw [← happly]
    exact hround .positive (by omega)

theorem Regular.place_eq
    {u : UnpackedFloat} (hu : Regular u) (hne : u ≠ .zero .negative) :
    place u = rounded (steps u) := by
  cases hu with
  | zero s =>
      cases s with
      | negative => exact absurd rfl hne
      | positive =>
          have hsteps : steps (.zero .positive) = 0 := rfl
          rw [hsteps, rounded_zero]
          exact place_zero .positive
  | finite s hq he hlt hlow =>
      subst he
      rw [place_finite_eq s hq hlt hlow]
      simp only [steps, sub_add_cancel, Int.toNat_natCast]

theorem apply_mul_pow (s : Sign) (q : ℕ) {k l : ℕ} (hkl : k ≤ l) :
    s.apply ((q * 2 ^ (l - k) : ℕ) : ℤ) * 2 ^ k = s.apply (q * 2 ^ l) := by
  have hpow : (2 : ℤ) ^ l = 2 ^ (l - k) * 2 ^ k := by
    rw [← pow_add]
    congr 1
    omega
  rw [hpow]
  cases s <;> simp only [Sign.apply] <;> push_cast <;> ring

/-- A sum is exact and then rounded; only a sum of negative zeros is one. -/
theorem Regular.place_add
    {u v : UnpackedFloat} (hu : Regular u) (hv : Regular v)
    (hne : ¬ (u = .zero .negative ∧ v = .zero .negative)) :
    place (add Format.binary64 u v) = rounded (steps u + steps v) := by
  cases hu with
  | zero s =>
      cases hv with
      | zero t =>
          have hsteps : steps (.zero s) + steps (.zero t) = 0 := rfl
          have hsum : add Format.binary64 (.zero s) (.zero t) = .zero .positive := by
            cases s <;> cases t <;> first | rfl | exact absurd ⟨rfl, rfl⟩ hne
          rw [hsteps, hsum, rounded_zero]
          exact place_zero .positive
      | finite t hq he hlt hlow =>
          have hv := Regular.finite t hq he hlt hlow
          have hsteps : steps (.zero s) = 0 := rfl
          rw [hsteps, zero_add]
          exact hv.place_eq (by nofun)
  | @finite s q l e hq he hlt hlow =>
      have hu := Regular.finite s hq he hlt hlow
      cases hv with
      | zero t =>
          have hsteps : steps (.zero t) = 0 := rfl
          rw [hsteps, add_zero]
          exact hu.place_eq (by nofun)
      | @finite t q' l' e' hq' he' hlt' hlow' =>
          subst he he'
          have hmin : min ((l : ℤ) - 1074) ((l' : ℤ) - 1074) =
              ((min l l' : ℕ) : ℤ) - 1074 := by omega
          have hamount : ((l : ℤ) - 1074 - (((min l l' : ℕ) : ℤ) - 1074)).toNat =
              l - min l l' := by omega
          have hamount' : ((l' : ℤ) - 1074 - (((min l l' : ℕ) : ℤ) - 1074)).toNat =
              l' - min l l' := by omega
          unfold UnpackedFloat.add
          simp only [hmin, decreaseExponent, hamount, hamount', Nat.shiftLeft_eq]
          rw [place_normalize, add_mul,
            apply_mul_pow s q (min_le_left l l'), apply_mul_pow t q' (min_le_right l l')]
          simp only [steps, sub_add_cancel, Int.toNat_natCast]

theorem add_negative_zeros :
    add Format.binary64 (.zero .negative) (.zero .negative) = .zero .negative := rfl

theorem Regular.steps_neg
    {u : UnpackedFloat} (hu : Regular u) (hne : u ≠ .zero .negative)
    (hplace : place u ≤ -1) : steps u < 0 := by
  by_contra hsteps
  have hnonneg : 0 ≤ rounded (steps u) := rounded_nonneg (by omega)
  have heq := hu.place_eq hne
  omega

theorem Regular.place_add_le
    {u u' v v' : UnpackedFloat} (hu : Regular u) (hu' : Regular u') (hv : Regular v)
    (hv' : Regular v') (huu : place u ≤ place u') (hvv : place v ≤ place v')
    (husteps : steps u ≤ steps u') (hvsteps : steps v ≤ steps v') :
    place (add Format.binary64 u v) ≤ place (add Format.binary64 u' v') := by
  have hleast : place (.zero .negative) = -1 := place_zero .negative
  have hnone : steps (.zero .negative) = 0 := rfl
  by_cases hlow : u = .zero .negative ∧ v = .zero .negative
  · obtain ⟨rfl, rfl⟩ := hlow
    rw [add_negative_zeros]
    by_cases hhigh : u' = .zero .negative ∧ v' = .zero .negative
    · obtain ⟨rfl, rfl⟩ := hhigh
      rw [add_negative_zeros]
    · have hnonneg : 0 ≤ rounded (steps u' + steps v') := rounded_nonneg (by omega)
      rw [hu'.place_add hv' hhigh]
      omega
  · rw [hu.place_add hv hlow]
    by_cases hhigh : u' = .zero .negative ∧ v' = .zero .negative
    · obtain ⟨rfl, rfl⟩ := hhigh
      have hneg : steps u + steps v < 0 := by
        by_cases hzero : u = .zero .negative
        · have hv := hv.steps_neg (fun hzero' => hlow ⟨hzero, hzero'⟩) (by omega)
          omega
        · have hu := hu.steps_neg hzero (by omega)
          omega
      have hround := rounded_of_neg hneg
      rw [add_negative_zeros]
      omega
    · rw [hu'.place_add hv' hhigh]
      exact rounded_mono (by omega)

theorem Regular.place_bounds {u : UnpackedFloat} (hu : Regular u) :
    -1 - infinite ≤ place u ∧ place u ≤ infinite := by
  by_cases hne : u = .zero .negative
  · subst hne
    rw [place_zero]
    exact signed_bounds .negative (Nat.zero_le infinite)
  · rw [hu.place_eq hne]
    exact rounded_bounds (steps u)

theorem Regular.place_add_bounds
    {u v : UnpackedFloat} (hu : Regular u) (hv : Regular v) :
    -1 - infinite ≤ place (add Format.binary64 u v) ∧
      place (add Format.binary64 u v) ≤ infinite := by
  by_cases hne : u = .zero .negative ∧ v = .zero .negative
  · obtain ⟨rfl, rfl⟩ := hne
    rw [add_negative_zeros]
    exact hu.place_bounds
  · rw [hu.place_add hv hne]
    exact rounded_bounds _

theorem Regular.infinity_add {v : UnpackedFloat} (hv : Regular v) (s : Sign) :
    add Format.binary64 (.infinity s) v = .infinity s := by
  cases hv <;> rfl

end Steps

section Sums

/-- The place of a double in the total order. -/
def order (x : Float) : ℤ := (Distance.ofFloat x).rank

theorem order_eq_place (x : Float) : order x = place x.toModel.unpack := by
  have hpack : x.toModel.unpack.pack Format.binary64 = x.toBits.toBitVec :=
    pack_unpack_of_valid x.toModel.valid
  unfold order place
  rw [hpack]
  rfl

theorem order_inj {x y : Float} (hxy : order x = order y) : x = y := by
  have hbits : x.toBits = y.toBits := congrArg Distance.bits (Distance.rank_inj.mp hxy)
  rw [← Float.ofBits_toBits x, hbits, Float.ofBits_toBits]

theorem order_add (x y : Float) :
    order (x + y) = place (add Format.binary64 x.toModel.unpack y.toModel.unpack) := rfl

theorem regular_of_isFinite {x : Float} (hx : x.isFinite = true) :
    Regular x.toModel.unpack :=
  regular_unpack hx

theorem infinity_or_finite {x : Float} (hx : x.isNaN = false) :
    (∃ s, x.toModel.unpack = .infinity s) ∨ x.isFinite = true := by
  have hnumber : x.toModel.unpack.isNaN = false := hx
  change _ ∨ x.toModel.unpack.isFinite = true
  cases hunpack : x.toModel.unpack with
  | notANumber =>
      rw [hunpack] at hnumber
      cases hnumber
  | infinity s => exact .inl ⟨s, rfl⟩
  | zero s => exact .inr rfl
  | finite s q e hq => exact .inr rfl

theorem order_bounds {x : Float} (hx : x.isNaN = false) :
    -1 - infinite ≤ order x ∧ order x ≤ infinite := by
  rw [order_eq_place]
  rcases infinity_or_finite hx with ⟨s, hinfinity⟩ | hfinite
  · rw [hinfinity, place_infinity]
    exact signed_bounds s le_rfl
  · exact (regular_of_isFinite hfinite).place_bounds

theorem order_infinity {x : Float} {s : Sign} (hx : x.toModel.unpack = .infinity s) :
    order x = signed s infinite := by
  rw [order_eq_place, hx, place_infinity]

theorem isNaN_of_order_le {x : Float} (hx : order x ≤ infinite) : x.isNaN = false := by
  by_contra hnot
  have hnan : x.toModel.unpack.isNaN = true := Bool.eq_true_of_not_eq_false hnot
  rw [order_eq_place] at hx
  cases hunpack : x.toModel.unpack with
  | notANumber =>
      have hbeyond : place .notANumber = 2047 * 2 ^ 52 + 2 ^ 51 := rfl
      rw [hunpack, hbeyond] at hx
      unfold infinite at hx
      omega
  | infinity s => simp [hunpack, UnpackedFloat.isNaN] at hnan
  | zero s => simp [hunpack, UnpackedFloat.isNaN] at hnan
  | finite s q e hq => simp [hunpack, UnpackedFloat.isNaN] at hnan

theorem steps_le_steps
    {x y : Float} (hx : x.isFinite = true) (hy : y.isFinite = true)
    (hxy : order x ≤ order y) :
    steps x.toModel.unpack ≤ steps y.toModel.unpack := by
  have hregular := regular_of_isFinite hx
  have hregular' := regular_of_isFinite hy
  have hleast : place (.zero .negative) = -1 := place_zero .negative
  have hnone : steps (.zero .negative) = 0 := rfl
  have hplace := hxy
  rw [order_eq_place, order_eq_place] at hplace
  by_contra hlt
  by_cases hxzero : x.toModel.unpack = .zero .negative
  · have hyzero : y.toModel.unpack ≠ .zero .negative := by
      intro hyzero
      exact hlt (by rw [hxzero, hyzero])
    have hneg : steps y.toModel.unpack < 0 := by
      rw [hxzero] at hlt
      omega
    have hround := rounded_of_neg hneg
    rw [hxzero, hregular'.place_eq hyzero] at hplace
    omega
  by_cases hyzero : y.toModel.unpack = .zero .negative
  · have hnonneg : 0 ≤ rounded (steps x.toModel.unpack) := by
      rw [hyzero] at hlt
      exact rounded_nonneg (by omega)
    rw [hyzero, hregular.place_eq hxzero] at hplace
    omega
  · have hround := rounded_mono (Int.le_of_lt (Int.not_le.mp hlt))
    rw [← hregular.place_eq hxzero, ← hregular'.place_eq hyzero,
      ← order_eq_place, ← order_eq_place] at hround
    have heq : x = y := order_inj (le_antisymm hxy hround)
    exact hlt (by rw [heq])

theorem order_infinity_add
    {x c : Float} {s : Sign} (hx : x.toModel.unpack = .infinity s)
    (hc : c.isFinite = true) : order (x + c) = signed s infinite := by
  rw [order_add, hx, (regular_of_isFinite hc).infinity_add, place_infinity]

theorem order_add_bounds
    {x c : Float} (hx : x.isNaN = false) (hc : c.isFinite = true) :
    -1 - infinite ≤ order (x + c) ∧ order (x + c) ≤ infinite := by
  rcases infinity_or_finite hx with ⟨s, hinfinity⟩ | hfinite
  · rw [order_infinity_add hinfinity hc]
    exact signed_bounds s le_rfl
  · exact (regular_of_isFinite hfinite).place_add_bounds (regular_of_isFinite hc)

theorem isNaN_add
    {x c : Float} (hx : x.isNaN = false) (hc : c.isFinite = true) :
    (x + c).isNaN = false :=
  isNaN_of_order_le (order_add_bounds hx hc).2

/-- A sum with a finite double does not come before another when neither of its
summands does. -/
theorem order_add_le
    {a b c d : Float} (ha : a.isNaN = false) (hb : b.isNaN = false)
    (hc : c.isFinite = true) (hd : d.isFinite = true)
    (hab : order a ≤ order b) (hcd : order c ≤ order d) :
    order (a + c) ≤ order (b + d) := by
  have halow := (order_bounds ha).1
  have hbhigh := (order_bounds hb).2
  have hsumhigh := (order_add_bounds ha hc).2
  have hsumlow := (order_add_bounds hb hd).1
  rcases infinity_or_finite ha with ⟨s, hainf⟩ | hafin
  · have haorder := order_infinity hainf
    cases s with
    | negative =>
        rw [order_infinity_add hainf hc]
        exact hsumlow
    | positive =>
        have heq : a = b := order_inj (by simp only [signed] at haorder; omega)
        rw [order_infinity_add hainf hc, order_infinity_add (heq ▸ hainf) hd]
  rcases infinity_or_finite hb with ⟨s, hbinf⟩ | hbfin
  · have hborder := order_infinity hbinf
    cases s with
    | negative =>
        have heq : a = b := order_inj (by simp only [signed] at hborder; omega)
        rw [order_infinity_add hbinf hd, order_infinity_add (heq ▸ hbinf) hc]
    | positive =>
        rw [order_infinity_add hbinf hd]
        exact hsumhigh
  · have huv := steps_le_steps hafin hbfin hab
    have hcd' := steps_le_steps hc hd hcd
    rw [order_eq_place, order_eq_place] at hab hcd
    exact (regular_of_isFinite hafin).place_add_le (regular_of_isFinite hbfin)
      (regular_of_isFinite hc) (regular_of_isFinite hd) hab hcd huv hcd'

theorem order_toFloat {d : Distance} (hd : d.toFloat.isFinite = true) :
    order d.toFloat = d.rank := by
  have hpack : d.toFloat.toBits.toBitVec =
      if @isNaNBits Format.binary64 d.bits.toBitVec = true then
        packedNaN Format.binary64
      else d.bits.toBitVec :=
    @pack_unpack Format.binary64 d.bits.toBitVec (by decide)
  by_cases hnan : @isNaNBits Format.binary64 d.bits.toBitVec = true
  · rw [if_pos hnan] at hpack
    have hunpack : d.toFloat.toModel.unpack = .notANumber := by
      change UnpackedFloat.unpack Format.binary64 d.toFloat.toBits.toBitVec = _
      rw [hpack]
      exact unpack_packedNaN
    change d.toFloat.toModel.unpack.isFinite = true at hd
    rw [hunpack] at hd
    cases hd
  · rw [if_neg hnan] at hpack
    have hbits : d.toFloat.toBits = d.bits := UInt64.toBitVec_inj.mp hpack
    unfold order Distance.ofFloat
    rw [hbits]

end Sums

end Refit.Double
