import Refit.Proofs.Decimal.Singles
import Refit.Proofs.Expression.Operators
import Refit.Proofs.Matching.Conversion

/-!
# What a cast keeps

Unboxing, widening and the arrays of a primitive type all cast.  A cast of a value to its
own primitive changes nothing, and neither does a cast to a wider one and back, but for
one thing: a character is cut to the last 16 bits of its code.
-/

namespace Refit

/-- The whole numbers that a primitive has a value for; a character may have any code. -/
def Primitive.Holds : Primitive → ℤ → Prop
  | .byte, n => -2 ^ 7 ≤ n ∧ n < 2 ^ 7
  | .short, n => -2 ^ 15 ≤ n ∧ n < 2 ^ 15
  | .char, n => 0 ≤ n ∧ n < 0x110000
  | .int, n => -2 ^ 31 ≤ n ∧ n < 2 ^ 31
  | .long, n => -2 ^ 63 ≤ n ∧ n < 2 ^ 63
  | .boolean, _ | .float, _ | .double, _ => False

/-- The primitives to which whole numbers are widened. -/
def Primitive.isWholeTarget : Primitive → Bool
  | .short | .int | .long => true
  | _ => false

theorem Primitive.Holds.widened {p q : Primitive} {n : ℤ} (hn : p.Holds n)
    (hwidens : p.widensTo q = true) (hq : q.isWholeTarget = true) : q.Holds n := by
  cases q with
  | short | int | long =>
      cases p with
      | boolean | float | double => cases hn
      | byte | short | char | int | long =>
          simp only [Holds] at hn ⊢
          simp [widensTo] at hwidens
          try omega
  | _ => cases hq

namespace Value

variable {v w : Value} {p q : Primitive} {n : ℤ}

/-- The value, a character cut to the last 16 bits of its code. -/
def cut : Value → Value
  | char c => char (charOfInt c.toNat)
  | v => v

theorem charOfInt_toNat {c : Char} (hc : c.toNat < 65536) : charOfInt c.toNat = c := by
  have hcode : ((c.toNat : ℤ) % 65536).toNat = c.toNat := by omega
  have hscalar : ¬ (0xD800 ≤ c.toNat ∧ c.toNat < 0xE000) := by
    have hvalid : c.toNat < 0xD800 ∨ 0xDFFF < c.toNat ∧ c.toNat < 0x110000 := c.valid
    omega
  unfold charOfInt
  simp only [hcode, Bool.and_eq_true, decide_eq_true_eq, hscalar, if_false]
  exact Char.ofNat_toNat c

theorem toNat_charOfInt_lt (n : ℤ) : (charOfInt n).toNat < 65536 := by
  have hcode : (n % 65536).toNat < 65536 := by omega
  simp only [charOfInt]
  split
  · decide
  · unfold Char.ofNat
    split
    · exact hcode
    · decide

/-- The value is no character with a code of more than 16 bits. -/
def Uncut (v : Value) : Prop := ∀ c, v = .char c → c.toNat < 65536

theorem cut_eq_self_iff : v.cut = v ↔ v.Uncut := by
  constructor
  · rintro hcut c rfl
    have hsame : charOfInt c.toNat = c := Value.char.inj hcut
    rw [← hsame]
    exact toNat_charOfInt_lt _
  · intro hshort
    cases v with
    | char c => exact congrArg Value.char (charOfInt_toNat (hshort c rfl))
    | _ => rfl

theorem map_cut_eq_self_iff {vs : List Value} : vs.map cut = vs ↔ ∀ v ∈ vs, v.Uncut := by
  induction vs with
  | nil => simp
  | cons v vs ih => rw [List.map_cons, List.cons.injEq, cut_eq_self_iff, ih, List.forall_mem_cons]

theorem cast?_own (hp : v.primitive? = some p) : v.cast? p = some v.cut := by
  cases v with
  | float x =>
      cases hp
      exact congrArg (fun y => some (Value.float y)) (Double.toSingle_ofSingle x)
  | byte k =>
      cases hp
      exact congrArg (fun m => some (Value.byte m)) k.ofInt_toInt
  | short k =>
      cases hp
      exact congrArg (fun m => some (Value.short m)) k.ofInt_toInt
  | int k =>
      cases hp
      exact congrArg (fun m => some (Value.int m)) k.ofInt_toInt
  | long k =>
      cases hp
      exact congrArg (fun m => some (Value.long m)) k.ofInt_toInt
  | bool | char | double =>
      cases hp
      rfl
  | _ => cases hp

theorem holds_integer (hp : v.primitive? = some p) (hn : v.integer? = some n) : p.Holds n := by
  cases v with
  | char c =>
      cases hp
      cases hn
      have hvalid : c.toNat < 0xD800 ∨ 0xDFFF < c.toNat ∧ c.toNat < 0x110000 := c.valid
      simp only [Primitive.Holds]
      omega
  | byte k | short k | int k | long k =>
      cases hp
      cases hn
      exact ⟨k.le_toInt, k.toInt_lt⟩
  | _ => cases hn

/-- Values with the same whole number are cast to the same value. -/
theorem cast?_congr (hp : p ≠ .boolean) (hfloat : p ≠ .float) (hdouble : p ≠ .double)
    (hv : v.integer? = some n) (hw : w.integer? = some n) : v.cast? p = w.cast? p := by
  have hwhole : ∀ u : Value, u.integer? = some n → u.isFloating = false := by
    intro u hu
    cases u <;> first | rfl | cases hu
  rw [Expression.cast?_eq hfloat hdouble (hwhole v hv),
    Expression.cast?_eq hfloat hdouble (hwhole w hw)]
  cases p <;> simp_all [asPrimitive?]

theorem exists_cast?_of_holds (hn : v.integer? = some n) (hq : q.isWholeTarget = true)
    (hholds : q.Holds n) :
    ∃ w, v.cast? q = some w ∧ w.primitive? = some q ∧ w.integer? = some n := by
  have hreal : ∃ x, v.real? = some x := by
    cases v <;> simp_all [real?, integer?]
  rcases hreal with ⟨x, hx⟩
  cases q with
  | short =>
      refine ⟨.short (Int16.ofInt n), by simp [cast?, hx, hn, toWidth], rfl, ?_⟩
      exact congrArg some (Int16.toInt_ofInt_of_le hholds.1 hholds.2)
  | int =>
      refine ⟨.int (Int32.ofInt n), by simp [cast?, hx, hn, toWidth], rfl, ?_⟩
      exact congrArg some (Int32.toInt_ofInt_of_le hholds.1 hholds.2)
  | long =>
      refine ⟨.long (Int64.ofInt n), by simp [cast?, hx, hn, toWidth], rfl, ?_⟩
      exact congrArg some (Int64.toInt_ofInt_of_le hholds.1 hholds.2)
  | _ => cases hq

end Value

namespace Conversion

variable {v : Value} {p q : Primitive} {n : ℤ}

theorem unbox_own (hp : v.primitive? = some p) : (unbox p).apply v = .ok v.cut :=
  castTo_of_cast? hp (Value.cast?_own hp)

/-- A whole number survives widening, and comes back as the value it was, but for the cut. -/
theorem widen_whole (hp : v.primitive? = some p) (hn : v.integer? = some n)
    (hq : q.isWholeTarget = true) (hwidens : p.widensTo q = true) :
    ∃ w, (widen p q).apply v = .ok w ∧ w.primitive? = some q ∧ w.integer? = some n ∧
      w.cast? p = some v.cut := by
  have hholds : q.Holds n := (Value.holds_integer hp hn).widened hwidens hq
  rcases Value.exists_cast?_of_holds hn hq hholds with ⟨w, hw, hwq, hwn⟩
  have hback : w.cast? p = v.cast? p := by
    rcases Value.primitive?_of_integer hn with ⟨r, hr, hboolean, hfloat, hdouble, -⟩
    obtain rfl : p = r := Option.some.inj (hp.symm.trans hr)
    exact Value.cast?_congr hboolean hfloat hdouble hwn hn
  exact ⟨w, castTo_of_cast? hp hw, hwq, hwn, hback.trans (Value.cast?_own hp)⟩

end Conversion

namespace Expression

variable {p : Primitive} {ctx : Context} {fuel : ℕ} {ts rest : List Token} {vs : List Value}

theorem castItems_own (hvs : ∀ v ∈ vs, v.primitive? = some p) :
    castItems p vs = .ok (vs.map Value.cut) := by
  induction vs with
  | nil => rfl
  | cons v vs ih =>
      have hv : v.cast? p = some v.cut := Value.cast?_own (hvs v List.mem_cons_self)
      have hrest := ih fun w hw => hvs w (List.mem_cons_of_mem v hw)
      simp only [castItems, hv, hrest, List.map_cons]

theorem primary_array
    (hitems : items ctx fuel '\x7d' ts = .ok (vs, rest))
    (hvs : ∀ v ∈ vs, v.primitive? = some p) :
    primary ctx (fuel + 1)
        (.name "new" :: .name p.keyword :: .mark '[' :: .mark ']' :: .mark '\x7b' :: ts) =
      .ok (.array (vs.map Value.cut), rest) := by
  have hhead : arrayHead (.name p.keyword :: .mark '[' :: .mark ']' :: .mark '\x7b' :: ts) =
      .ok (.primitive p, ts) := by
    have hparse : ValueType.parse p.keyword = .ok (.primitive p) := by
      cases p <;> rfl
    simp [arrayHead, hparse, expect, Except.bind]
  simp [primary, hhead, hitems, arrayOf, castItems_own hvs, Except.map]

end Expression

namespace Conversion

variable {v : Value} {p : Primitive} {n : ℤ}

open Expression in
/-- Whole numbers keep their value when they are unboxed, widened and brought back, and so
do the items of an array of their own type, unless they are characters with a code of more
than 16 bits. -/
theorem kept_iff_uncut (hp : v.primitive? = some p) (hn : v.integer? = some n) :
    ((unbox p).apply v = .ok v ↔ v.Uncut) ∧
      (∀ q : Primitive, q.isWholeTarget = true → p.widensTo q = true →
        ∃ w, (widen p q).apply v = .ok w ∧ w.primitive? = some q ∧ w.integer? = some n ∧
          (w.cast? p = some v ↔ v.Uncut)) ∧
      ∀ (r : Primitive) (ctx : Context) (fuel : ℕ) (ts rest : List Token) (vs : List Value),
        items ctx fuel '\x7d' ts = .ok (vs, rest) → (∀ item ∈ vs, item.primitive? = some r) →
          (primary ctx (fuel + 1)
              (.name "new" :: .name r.keyword :: .mark '[' :: .mark ']' :: .mark '\x7b' :: ts) =
            .ok (.array vs, rest) ↔ ∀ item ∈ vs, item.Uncut) := by
  constructor
  · rw [unbox_own hp, Except.ok.injEq]
    exact Value.cut_eq_self_iff
  constructor
  · intro q hq hwidens
    rcases widen_whole hp hn hq hwidens with ⟨w, hw, hwq, hwn, hback⟩
    refine ⟨w, hw, hwq, hwn, ?_⟩
    rw [hback, Option.some.injEq]
    exact Value.cut_eq_self_iff
  · intro r ctx fuel ts rest vs hitems hvs
    rw [primary_array hitems hvs, Except.ok.injEq, Prod.mk.injEq, Value.array.injEq]
    rw [Value.map_cut_eq_self_iff]
    exact and_iff_left rfl

theorem kept_iff_uncut_umlaut :
    (unbox .char).apply (.char 'ä') = .ok (.char 'ä') ∧
      ∃ w, (widen .char .int).apply (.char 'ä') = .ok w ∧ w.primitive? = some .int ∧
        w.integer? = some 228 ∧ w.cast? .char = some (.char 'ä') := by
  have hp : (Value.char 'ä').primitive? = some .char := rfl
  have hn : (Value.char 'ä').integer? = some 228 := rfl
  have huncut : (Value.char 'ä').Uncut := by
    rintro c ⟨⟩
    decide
  rcases kept_iff_uncut hp hn with ⟨hunbox, hwiden, -⟩
  rcases hwiden .int rfl rfl with ⟨w, hw, hwq, hwn, hback⟩
  exact ⟨hunbox.mpr huncut, w, hw, hwq, hwn, hback.mpr huncut⟩

theorem unbox_long_character :
    (unbox .char).apply (.char '😀') = .ok (.char '\uf600') ∧ '\uf600' ≠ '😀' := by
  constructor
  · rfl
  · decide

end Conversion

end Refit
