import Mathlib.Tactic
import Refit.Expression.Evaluation

/-!
# Reading tokens

A factor is read to its end, whatever follows it.  A product or a sum is read as far as
the tokens go that make it up, and its value stands to the left of whatever follows.  So
the tokens of a sum or a product can be put together from those of its operands, and there
are turns enough for all of them.
-/

namespace Refit.Expression

variable {ctx : Context}

section Readers

/-- The mark in front, if there is one, is none of these. -/
def Halts (p : Char → Bool) (rest : List Token) : Prop :=
  ∀ c, rest.head? = some (.mark c) → p c = false

theorem productRest_of_halts {rest : List Token} (hrest : Halts isProduct rest) {fuel : ℕ}
    (hfuel : 0 < fuel) (v : Value) : productRest ctx fuel v rest = .ok (v, rest) := by
  obtain ⟨fuel, rfl⟩ := Nat.exists_eq_add_of_le' hfuel
  cases rest with
  | nil => rfl
  | cons t rest =>
      cases t with
      | mark c =>
          have hc : isProduct c = false := hrest c rfl
          simp only [productRest, hc, Bool.false_eq_true, if_false]
      | _ => rfl

theorem sumRest_of_halts {rest : List Token} (hrest : Halts isSum rest) {fuel : ℕ}
    (hfuel : 0 < fuel) (v : Value) : sumRest ctx fuel v rest = .ok (v, rest) := by
  obtain ⟨fuel, rfl⟩ := Nat.exists_eq_add_of_le' hfuel
  cases rest with
  | nil => rfl
  | cons t rest =>
      cases t with
      | mark c =>
          have hc : isSum c = false := hrest c rfl
          simp only [sumRest, hc, Bool.false_eq_true, if_false]
      | _ => rfl

theorem unary_of_ne {t : Token} (ht : t ≠ .mark '-') (fuel : ℕ) (rest : List Token) :
    unary ctx (fuel + 1) (t :: rest) = primary ctx fuel (t :: rest) := by
  cases t with
  | mark c =>
      have hc : c ≠ '-' := fun hc => ht (by rw [hc])
      simp only [unary, hc, if_false]
  | _ => rfl

-- A token takes eight turns at most.  Each level hands the tokens down to the next with one
-- turn less, so a factor may have the fewest.

/-- The tokens are a factor, whatever follows them. -/
def ReadsFactor (ctx : Context) (ts : List Token) (m : Except Failure Value) : Prop :=
  ∀ fuel rest, 8 * ts.length ≤ fuel + 4 → unary ctx fuel (ts ++ rest) = m.map (·, rest)

/-- The tokens are a product, or the beginning of one. -/
def ReadsProduct (ctx : Context) (ts : List Token) (m : Except Failure Value) : Prop :=
  ∀ fuel, 8 * ts.length ≤ fuel + 3 → ∃ left, fuel ≤ left + ts.length ∧
    ∀ rest, product ctx fuel (ts ++ rest) = m.bind fun v => productRest ctx left v rest

/-- The tokens are a sum, or the beginning of one. -/
def ReadsSum (ctx : Context) (ts : List Token) (m : Except Failure Value) : Prop :=
  ∀ fuel, 8 * ts.length ≤ fuel + 2 → ∃ left, fuel ≤ left + ts.length ∧
    ∀ rest, Halts isProduct rest →
      sum ctx fuel (ts ++ rest) = m.bind fun v => sumRest ctx left v rest

end Readers

section Levels

variable {ts us : List Token} {m k : Except Failure Value} {op : Char}

theorem ReadsFactor.product (hts : ts ≠ []) (h : ReadsFactor ctx ts m) :
    ReadsProduct ctx ts m := by
  intro fuel hfuel
  have hlength := List.length_pos_of_ne_nil hts
  obtain ⟨left, rfl⟩ := Nat.exists_eq_add_of_le' (show 1 ≤ fuel by omega)
  refine ⟨left, by omega, fun rest => ?_⟩
  rw [Expression.product, h left rest (by omega)]
  cases m <;> rfl

theorem ReadsProduct.sum (hts : ts ≠ []) (h : ReadsProduct ctx ts m) : ReadsSum ctx ts m := by
  intro fuel hfuel
  have hlength := List.length_pos_of_ne_nil hts
  obtain ⟨left, rfl⟩ := Nat.exists_eq_add_of_le' (show 1 ≤ fuel by omega)
  rcases h left (by omega) with ⟨left', hleft, hread⟩
  refine ⟨left, by omega, fun rest hrest => ?_⟩
  rw [Expression.sum, hread]
  cases m with
  | error failure => rfl
  | ok v =>
      have hstop : productRest ctx left' v rest = .ok (v, rest) :=
        productRest_of_halts hrest (by omega) v
      simp only [Except.bind, hstop]

theorem ReadsProduct.operate (hop : isProduct op = true) (hleft : ReadsProduct ctx ts m)
    (hright : ReadsFactor ctx us k) :
    ReadsProduct ctx (ts ++ .mark op :: us) (m.bind fun a => k.bind fun b => combine op a b) := by
  intro fuel hfuel
  rw [List.length_append, List.length_cons] at *
  -- The first operand has used up as many turns as it has tokens, and the second may use the rest.
  rcases hleft fuel (by omega) with ⟨left, hle, hread⟩
  obtain ⟨left, rfl⟩ := Nat.exists_eq_add_of_le' (show 1 ≤ left by omega)
  refine ⟨left, by omega, fun rest => ?_⟩
  rw [List.append_assoc, List.cons_append, hread]
  cases m with
  | error failure => rfl
  | ok a =>
      simp only [Except.bind, productRest, hop, if_true]
      rw [hright left rest (by omega)]
      cases k with
      | error failure => rfl
      | ok b =>
          simp only [Except.map]
          cases combine op a b <;> rfl

theorem halts_mark {p : Char → Bool} (hop : p op = false) (rest : List Token) :
    Halts p (.mark op :: rest) := by
  intro c hc
  cases hc
  exact hop

theorem isProduct_of_isSum (hop : isSum op = true) : isProduct op = false := by
  simp only [isSum, Bool.or_eq_true, decide_eq_true_eq] at hop
  rcases hop with rfl | rfl <;> decide

theorem ReadsSum.operate (hop : isSum op = true) (hleft : ReadsSum ctx ts m)
    (hright : ReadsProduct ctx us k) :
    ReadsSum ctx (ts ++ .mark op :: us) (m.bind fun a => k.bind fun b => combine op a b) := by
  intro fuel hfuel
  rw [List.length_append, List.length_cons] at *
  rcases hleft fuel (by omega) with ⟨left, hle, hread⟩
  obtain ⟨left, rfl⟩ := Nat.exists_eq_add_of_le' (show 1 ≤ left by omega)
  rcases hright left (by omega) with ⟨left', hle', hread'⟩
  refine ⟨left, by omega, fun rest hrest => ?_⟩
  rw [List.append_assoc, List.cons_append, hread _ (halts_mark (isProduct_of_isSum hop) _)]
  cases m with
  | error failure => rfl
  | ok a =>
      simp only [Except.bind, sumRest, hop, if_true]
      rw [hread']
      cases k with
      | error failure => rfl
      | ok b =>
          have hstop : productRest ctx left' b rest = .ok (b, rest) :=
            productRest_of_halts hrest (by omega) b
          simp only [Except.bind, hstop]
          cases combine op a b <;> rfl

/-- A sum is read to its end, unless a sign follows it. -/
theorem ReadsSum.read (h : ReadsSum ctx ts m) (hts : ts ≠ []) {fuel : ℕ}
    (hfuel : 8 * ts.length ≤ fuel + 2) {rest : List Token} (hproduct : Halts isProduct rest)
    (hsum : Halts isSum rest) : sum ctx fuel (ts ++ rest) = m.map (·, rest) := by
  have hlength := List.length_pos_of_ne_nil hts
  rcases h fuel hfuel with ⟨left, hle, hread⟩
  rw [hread rest hproduct]
  cases m with
  | error failure => rfl
  | ok v => exact sumRest_of_halts hsum (by omega) v

theorem ReadsSum.parens (hts : ts ≠ []) (h : ReadsSum ctx ts m) :
    ReadsFactor ctx (.mark '(' :: (ts ++ [.mark ')'])) m := by
  intro fuel rest hfuel
  rw [List.length_cons, List.length_append, List.length_singleton] at hfuel
  obtain ⟨left, rfl⟩ := Nat.exists_eq_add_of_le' (show 2 ≤ fuel by omega)
  have hproduct : isProduct ')' = false := by decide
  have hsum : isSum ')' = false := by decide
  have hread : sum ctx left (ts ++ .mark ')' :: rest) = m.map (·, .mark ')' :: rest) :=
    h.read hts (by omega) (halts_mark hproduct rest) (halts_mark hsum rest)
  rw [List.cons_append, unary_of_ne (by decide), primary, List.append_assoc,
    List.singleton_append]
  simp only [if_true]
  rw [hread]
  cases m <;> rfl

/-- A minus before anything but a whole number negates the factor behind it. -/
theorem ReadsFactor.negative (hts : ts ≠ []) (hwhole : ∀ n long, ts.head? ≠ some (.int n long))
    (h : ReadsFactor ctx ts m) : ReadsFactor ctx (.mark '-' :: ts) (m.bind negate) := by
  intro fuel rest hfuel
  rw [List.length_cons] at hfuel
  obtain ⟨left, rfl⟩ := Nat.exists_eq_add_of_le' (show 1 ≤ fuel by omega)
  have hread := h left rest (by omega)
  cases ts with
  | nil => exact absurd rfl hts
  | cons t ts =>
      rw [List.cons_append] at hread
      rw [List.cons_append, List.cons_append]
      cases t with
      | int n long => exact absurd rfl (hwhole n long)
      | _ =>
          simp only [unary, if_true, hread]
          cases m <;> rfl

/-- A minus before a whole number is part of it. -/
theorem readsFactor_negated (n : ℤ) (long : Bool) :
    ReadsFactor ctx [.mark '-', .int n long] (wholeLiteral (-n) long) := by
  intro fuel rest hfuel
  rw [List.length_cons, List.length_singleton] at hfuel
  obtain ⟨left, rfl⟩ := Nat.exists_eq_add_of_le' (show 1 ≤ fuel by omega)
  rfl

theorem readsFactor_token {t : Token} (ht : ∀ c, t ≠ .mark c)
    (hprimary : ∀ fuel rest, primary ctx (fuel + 1) (t :: rest) = m.map (·, rest)) :
    ReadsFactor ctx [t] m := by
  intro fuel rest hfuel
  rw [List.length_singleton] at hfuel
  obtain ⟨left, rfl⟩ := Nat.exists_eq_add_of_le' (show 2 ≤ fuel by omega)
  rw [List.singleton_append, unary_of_ne (ht '-'), hprimary]

end Levels

section Items

variable {ts us : List Token} {m : Except Failure Value} {ms : Except Failure (List Value)}
  {close : Char}

/-- The tokens are some items, up to the mark that closes them. -/
def ReadsItems (ctx : Context) (close : Char) (ts : List Token)
    (ms : Except Failure (List Value)) : Prop :=
  ∀ fuel rest, 8 * ts.length ≤ fuel + 1 →
    someItems ctx fuel close (ts ++ .mark close :: rest) = ms.map (·, rest)

/-- The tokens are all items there are, up to the mark that closes them. -/
def ReadsAll (ctx : Context) (close : Char) (ts : List Token)
    (ms : Except Failure (List Value)) : Prop :=
  ∀ fuel rest, 8 * ts.length < fuel →
    items ctx fuel close (ts ++ .mark close :: rest) = ms.map (·, rest)

def Closes (close : Char) : Prop := close = ']' ∨ close = '\x7d'

theorem expect_mark (c : Char) (rest : List Token) : expect c (.mark c :: rest) = .ok rest := by
  rw [expect, if_pos rfl]

theorem ReadsSum.item (h : ReadsSum ctx ts m) (hts : ts ≠ []) (hclose : Closes close) :
    ReadsItems ctx close ts (m.map ([·])) := by
  intro fuel rest hfuel
  have hlength := List.length_pos_of_ne_nil hts
  obtain ⟨left, rfl⟩ := Nat.exists_eq_add_of_le' (show 1 ≤ fuel by omega)
  have hproduct : isProduct close = false := by
    rcases hclose with rfl | rfl <;> decide
  have hsum : isSum close = false := by
    rcases hclose with rfl | rfl <;> decide
  rw [someItems, h.read hts (by omega) (halts_mark hproduct rest) (halts_mark hsum rest)]
  cases m with
  | error failure => rfl
  | ok v =>
      simp only [Except.map, expect_mark]

theorem ReadsSum.items (h : ReadsSum ctx ts m) (hts : ts ≠ []) (hclose : Closes close)
    (hmore : ReadsItems ctx close us ms) :
    ReadsItems ctx close (ts ++ .mark ',' :: us) (m.bind fun v => ms.map (v :: ·)) := by
  intro fuel rest hfuel
  rw [List.length_append, List.length_cons] at hfuel
  have hlength := List.length_pos_of_ne_nil hts
  obtain ⟨left, rfl⟩ := Nat.exists_eq_add_of_le' (show 1 ≤ fuel by omega)
  have hcomma : ',' ≠ close := by
    rcases hclose with rfl | rfl <;> decide
  rw [someItems, List.append_assoc, List.cons_append,
    h.read hts (by omega) (halts_mark (by decide) _) (halts_mark (by decide) _)]
  cases m with
  | error failure => rfl
  | ok v =>
      simp only [Except.map, Except.bind, expect_mark]
      rw [expect, if_neg hcomma]
      simp only
      rw [hmore left rest (by omega)]
      cases ms <;> rfl

theorem readsAll_nil (close : Char) : ReadsAll ctx close [] (.ok []) := by
  intro fuel rest hfuel
  obtain ⟨left, rfl⟩ := Nat.exists_eq_add_of_le' (show 1 ≤ fuel by omega)
  rw [List.nil_append, Expression.items, expect_mark]
  rfl

theorem ReadsItems.all (hts : ts ≠ []) (hfirst : ts.head? ≠ some (.mark close))
    (h : ReadsItems ctx close ts ms) : ReadsAll ctx close ts ms := by
  intro fuel rest hfuel
  obtain ⟨left, rfl⟩ := Nat.exists_eq_add_of_le' (show 1 ≤ fuel by omega)
  have hread := h left rest (by omega)
  cases ts with
  | nil => exact absurd rfl hts
  | cons t ts =>
      have hnot : ∃ failure, expect close (t :: (ts ++ .mark close :: rest)) = .error failure := by
        cases t with
        | mark c =>
            refine ⟨.expectedMark close, ?_⟩
            rw [expect, if_neg]
            intro hc
            exact hfirst (by rw [hc]; rfl)
        | _ => exact ⟨_, rfl⟩
      rcases hnot with ⟨failure, hnot⟩
      rw [List.cons_append] at hread ⊢
      rw [Expression.items, hnot]
      exact hread

theorem ReadsAll.list (h : ReadsAll ctx ']' ts ms) :
    ReadsFactor ctx (.mark '[' :: (ts ++ [.mark ']'])) (ms.map .list) := by
  intro fuel rest hfuel
  rw [List.length_cons, List.length_append, List.length_singleton] at hfuel
  obtain ⟨left, rfl⟩ := Nat.exists_eq_add_of_le' (show 2 ≤ fuel by omega)
  rw [List.cons_append, unary_of_ne (by decide), primary, List.append_assoc,
    List.singleton_append, h left rest (by omega)]
  simp only [if_true]
  cases ms <;> rfl

/-- Behind `new`, a type and a pair of brackets, items between braces are an array. -/
theorem ReadsAll.array {name : String} {element : ValueType}
    (hname : ValueType.parse name = .ok element) (h : ReadsAll ctx '\x7d' ts ms) :
    ReadsFactor ctx
      (.name "new" :: .name name :: .mark '[' :: .mark ']' :: .mark '\x7b' ::
        (ts ++ [.mark '\x7d']))
      (ms.bind (arrayOf element)) := by
  intro fuel rest hfuel
  simp only [List.length_cons, List.length_append, List.length_nil] at hfuel
  obtain ⟨left, rfl⟩ := Nat.exists_eq_add_of_le' (show 2 ≤ fuel by omega)
  have hread := h left rest (by omega)
  simp only [List.cons_append, List.append_assoc, List.nil_append]
  rw [unary_of_ne (by decide), primary]
  simp only [arrayHead, hname, expect_mark, Except.bind]
  rw [if_neg (by decide), if_neg (by decide), if_neg (by decide), if_pos trivial,
    hread]
  cases ms <;> rfl

end Items

section Whole

theorem ReadsSum.value_eq {ts : List Token} {m : Except Failure Value} {text : String}
    (h : ReadsSum ctx ts m) (hts : ts ≠ []) (htokens : tokens text = .ok ts) :
    value text ctx = m := by
  have hhalts : ∀ p, Halts p [] := fun _ _ => nofun
  have hfuel : 8 * ts.length ≤ enough ts + 2 := by
    unfold enough
    omega
  have hread := h.read hts hfuel (hhalts _) (hhalts _)
  rw [List.append_nil] at hread
  unfold value
  simp only [htokens, hread]
  cases m <;> rfl

end Whole

end Refit.Expression
