import Refit.Proofs.Expression.Lexemes
import Refit.Proofs.Expression.Operators
import Refit.Proofs.Expression.Reading

/-!
# Whole numbers as literals

The decimal text of an int is an expression for it, and so is that of a long with the
suffix, except for the least long: its digits, read before the sign, are too large for a
whole number.
-/

namespace Refit.Expression

theorem isMark_minus : isMark '-' = true := rfl

/-- A whole number with its sign. -/
def signed (n : ℤ) (long : Bool) (hn : n.natAbs < 2 ^ 63) : List Lexeme :=
  if n < 0 then [.mark '-' isMark_minus, .whole n.natAbs long hn] else [.whole n.natAbs long hn]

variable {n : ℤ} {long : Bool} {hn : n.natAbs < 2 ^ 63} {ctx : Context}

theorem readsFactor_signed :
    ReadsFactor ctx ((signed n long hn).map Lexeme.token) (wholeLiteral n long) := by
  unfold signed
  split_ifs with hnegative
  · have hread : ReadsFactor ctx [.mark '-', .int n.natAbs long] _ :=
      readsFactor_negated (n.natAbs : ℤ) long
    have hvalue : -(n.natAbs : ℤ) = n := by omega
    rw [hvalue] at hread
    exact hread
  · have hvalue : (n.natAbs : ℤ) = n := by omega
    apply readsFactor_token
    · exact Lexeme.token_ne_mark (l := .whole n.natAbs long hn) rfl
    · intro fuel rest
      change (wholeLiteral (n.natAbs : ℤ) long).map (·, rest) = _
      rw [hvalue]

theorem signed_ne_nil : (signed n long hn).map Lexeme.token ≠ [] := by
  unfold signed
  split_ifs <;> exact List.cons_ne_nil _ _

/-- A minus before a number without one is its sign. -/
theorem readsFactor_negated_signed (long : Bool) (hn : n.natAbs < 2 ^ 63) (hnonneg : 0 ≤ n) :
    ReadsFactor ctx (.mark '-' :: (signed n long hn).map Lexeme.token)
      (wholeLiteral (-n) long) := by
  have hread : ReadsFactor ctx [.mark '-', .int n.natAbs long] _ :=
    readsFactor_negated (n.natAbs : ℤ) long
  have hvalue : (n.natAbs : ℤ) = n := by omega
  unfold signed
  rw [if_neg (by omega)]
  rw [hvalue] at hread
  change ReadsFactor ctx [.mark '-', .int (n.natAbs : ℤ) long] _
  rw [hvalue]
  exact hread

theorem toList_toString (n : ℤ) :
    (toString n).toList = (if n < 0 then ['-'] else []) ++ (Nat.repr n.natAbs).toList := by
  cases n with
  | ofNat n =>
      have hnonneg : ¬ Int.ofNat n < 0 := Int.not_lt.mpr (Int.natCast_nonneg n)
      rw [if_neg hnonneg]
      rfl
  | negSucc n =>
      rw [if_pos (Int.negSucc_lt_zero n)]
      have htext : toString (Int.negSucc n) = "-" ++ Nat.repr (n + 1) := rfl
      rw [htext, String.toList_append]
      rfl

theorem laid_signed (hn : n.natAbs < 2 ^ 63) :
    Laid (signed n long hn) (toString n ++ (if long then "L" else "")).toList := by
  have hgap : ∀ c ∈ ([] : List Char), Text.isBlank c = true := nofun
  have hwhole : Laid [.whole n.natAbs long hn] ((Lexeme.whole n.natAbs long hn).chars ++ []) :=
    .cons hgap (.inr nofun) (.nil hgap)
  have hsuffix : (if long then "L" else "").toList = if long then ['L'] else [] := by
    cases long <;> rfl
  have hchars : (toString n ++ (if long then "L" else "")).toList =
      (if n < 0 then ['-'] else []) ++ (Lexeme.whole n.natAbs long hn).chars := by
    rw [String.toList_append, toList_toString, hsuffix, List.append_assoc]
    rfl
  rw [List.append_nil] at hwhole
  rw [hchars]
  unfold signed
  by_cases hnegative : n < 0
  · rw [if_pos hnegative, if_pos hnegative]
    exact .cons (l := .mark '-' isMark_minus) hgap (.inl rfl) hwhole
  · rw [if_neg hnegative, if_neg hnegative]
    exact hwhole

theorem value_signed (long : Bool) (hn : n.natAbs < 2 ^ 63) (ctx : Context) :
    value (toString n ++ (if long then "L" else "")) ctx = wholeLiteral n long := by
  have hread : ReadsFactor ctx ((signed n long hn).map Lexeme.token) _ := readsFactor_signed
  have hsum := (hread.product signed_ne_nil).sum signed_ne_nil
  exact hsum.value_eq signed_ne_nil (laid_signed hn).tokens_eq

theorem wholeLiteral_eq (hsize : long = true ∨ -2 ^ 31 ≤ n ∧ n < 2 ^ 31) :
    wholeLiteral n long = .ok (.whole long n) := by
  unfold wholeLiteral
  cases long with
  | true => rfl
  | false =>
      have hbounds := hsize.resolve_left (by decide)
      have hlow : -(Nat.pow 2 31 : ℤ) ≤ n := hbounds.1
      have hhigh : n < (Nat.pow 2 31 : ℤ) := hbounds.2
      rw [if_neg (by decide), if_pos (by simp only [hlow, hhigh, decide_true, Bool.and_self])]
      rfl

theorem wholeLiteral_int (v : Int32) : wholeLiteral v.toInt false = .ok (.int v) := by
  rw [wholeLiteral_eq (.inr ⟨v.le_toInt, v.toInt_lt⟩), Value.whole, if_neg (by decide),
    Int32.ofInt_toInt]

theorem wholeLiteral_long (v : Int64) : wholeLiteral v.toInt true = .ok (.long v) := by
  rw [wholeLiteral_eq (.inl rfl), Value.whole, if_pos rfl, Int64.ofInt_toInt]

theorem natAbs_int (v : Int32) : v.toInt.natAbs < 2 ^ 63 := by
  have hlow := v.le_toInt
  have hhigh := v.toInt_lt
  omega

theorem natAbs_long {v : Int64} (hv : v ≠ Int64.minValue) : v.toInt.natAbs < 2 ^ 63 := by
  have hne : v.toInt ≠ -2 ^ 63 := fun hsame => hv (Int64.toInt_inj.mp hsame)
  have hlow := v.le_toInt
  have hhigh := v.toInt_lt
  omega

theorem tokens_least_long : tokens (toString Int64.minValue.toInt ++ "L") =
    .error (.malformedNumber "9223372036854775808") := by
  decide +kernel

theorem evaluate_least (ctx : Context) :
    evaluate (toString Int64.minValue.toInt ++ "L") ctx =
      .error (.evaluation "malformed number '9223372036854775808'") := by
  unfold evaluate value
  rw [tokens_least_long]
  rfl

/-- The text of every int, and that of every long but the least with its suffix, is an
expression for it. -/
theorem evaluate_integers (ctx : Context) :
    (∀ v : Int32, evaluate (toString v.toInt) ctx = .ok (.int v)) ∧
      ∀ v : Int64, evaluate (toString v.toInt ++ "L") ctx =
        if v = Int64.minValue then
          .error (.evaluation "malformed number '9223372036854775808'")
        else .ok (.long v) := by
  constructor
  · intro v
    have hvalue := value_signed false (natAbs_int v) ctx
    rw [wholeLiteral_int] at hvalue
    unfold evaluate
    change value (toString v.toInt ++ "") ctx = _ at hvalue
    rw [String.append_empty] at hvalue
    rw [hvalue]
  · intro v
    split_ifs with hleast
    · rw [hleast, evaluate_least]
    · have hvalue := value_signed true (natAbs_long hleast) ctx
      rw [wholeLiteral_long] at hvalue
      change value (toString v.toInt ++ "L") ctx = _ at hvalue
      unfold evaluate
      rw [hvalue]

/-- The text of the least long is no expression. -/
theorem evaluate_least_long :
    toString Int64.minValue.toInt ++ "L" = "-9223372036854775808L" ∧
      evaluate "-9223372036854775808L" {} =
        .error (.evaluation "malformed number '9223372036854775808'") := by
  have htext : toString Int64.minValue.toInt ++ "L" = "-9223372036854775808L" := by
    decide +kernel
  refine ⟨htext, ?_⟩
  rw [← htext, evaluate_least]

end Refit.Expression
