import Mathlib.Tactic
import Refit.Expression.Evaluation
import Refit.Proofs.Traversal

/-!
# Operators on whole numbers

Away from floats and doubles an operator computes with the whole numbers that stand for
its operands.  The result is a long if one of the operands is, and an int otherwise; what
is too large for it wraps around.  Division and remainder go toward zero, and fail only
for a divisor of zero.
-/

namespace Refit

namespace Value

def isFloating : Value → Bool
  | float _ => true
  | double _ => true
  | _ => false

def isLong : Value → Bool
  | long _ => true
  | _ => false

/-- The whole number as a long or an int, wrapped around. -/
def whole (long : Bool) (n : ℤ) : Value :=
  if long then .long (Int64.ofInt n) else .int (Int32.ofInt n)

/-- The value as another primitive, booleans from booleans, numbers from whole numbers. -/
def asPrimitive? (p : Primitive) (v : Value) : Option Value :=
  match p, v with
  | .boolean, bool b => some (bool b)
  | .boolean, _ => none
  | .byte, v => v.integer?.map fun n => byte (Int8.ofInt n)
  | .short, v => v.integer?.map fun n => short (Int16.ofInt n)
  | .char, v => v.integer?.map fun n => char (charOfInt n)
  | .int, v => v.integer?.map fun n => int (Int32.ofInt n)
  | .long, v => v.integer?.map fun n => long (Int64.ofInt n)
  | .float, _ => none
  | .double, _ => none

variable {v w : Value} {n : ℤ}

theorem integer_bounds (hn : v.integer? = some n) :
    -2 ^ 63 ≤ n ∧ n < 2 ^ 63 ∧ (v.isLong = false → -2 ^ 31 ≤ n ∧ n < 2 ^ 31) := by
  cases v with
  | char c =>
      cases hn
      have hlimit : c.toNat < 0x110000 := by
        rcases c.valid with hlow | ⟨-, hhigh⟩
        · exact Nat.lt_trans hlow (by decide)
        · exact hhigh
      omega
  | byte k =>
      cases hn
      have hlow := k.le_toInt
      have hhigh := k.toInt_lt
      omega
  | short k =>
      cases hn
      have hlow := k.le_toInt
      have hhigh := k.toInt_lt
      omega
  | int k =>
      cases hn
      have hlow := k.le_toInt
      have hhigh := k.toInt_lt
      omega
  | long k =>
      cases hn
      exact ⟨k.le_toInt, k.toInt_lt, nofun⟩
  | _ => cases hn

theorem primitive?_of_integer (hn : v.integer? = some n) :
    ∃ p, v.primitive? = some p ∧ p ≠ .boolean ∧ p ≠ .float ∧ p ≠ .double ∧
      decide (p = .long) = v.isLong := by
  cases v with
  | char => exact ⟨.char, rfl, by decide, by decide, by decide, rfl⟩
  | byte => exact ⟨.byte, rfl, by decide, by decide, by decide, rfl⟩
  | short => exact ⟨.short, rfl, by decide, by decide, by decide, rfl⟩
  | int => exact ⟨.int, rfl, by decide, by decide, by decide, rfl⟩
  | long => exact ⟨.long, rfl, by decide, by decide, by decide, rfl⟩
  | _ => cases hn

/-- Without a whole number only a boolean is of a primitive type. -/
theorem primitive?_of_no_integer (hv : v.isFloating = false) (hnone : v.integer? = none) :
    v.primitive? = none ∨ v.primitive? = some .boolean := by
  cases v with
  | bool => exact .inr rfl
  | char | byte | short | int | long => cases hnone
  | float | double => cases hv
  | _ => exact .inl rfl

end Value

namespace Expression

inductive Operator where
  | add
  | sub
  | mul
  | div
  | rem
  deriving DecidableEq

namespace Operator

def mark : Operator → Char
  | add => '+'
  | sub => '-'
  | mul => '*'
  | div => '/'
  | rem => '%'

/-- The result on whole numbers, unless the divisor is zero. -/
def on : Operator → ℤ → ℤ → Option ℤ
  | add, a, b => some (a + b)
  | sub, a, b => some (a - b)
  | mul, a, b => some (a * b)
  | div, a, b => if b = 0 then none else some (a.tdiv b)
  | rem, a, b => if b = 0 then none else some (a.tmod b)

/-- What the operator gives for two values that are no floats or doubles. -/
def apply (op : Operator) (left right : Value) : Except Failure Value :=
  if op = add && (isText left || isText right) then
    .ok (.text (left.render ++ right.render))
  else
    match left.integer?, right.integer? with
    | some a, some b =>
      match op.on a b with
      | some n => .ok (.whole (left.isLong || right.isLong) n)
      | none => .error .divisionByZero
    | _, _ => .error (.badOperands op.mark left.render right.render)

theorem combineLongs_eq (op : Operator) {a b : ℤ} (ha : -2 ^ 63 ≤ a ∧ a < 2 ^ 63)
    (hb : -2 ^ 63 ≤ b ∧ b < 2 ^ 63) :
    combineLongs op.mark (Int64.ofInt a) (Int64.ofInt b) =
      match op.on a b with
      | some n => .ok (.whole true n)
      | none => .error .divisionByZero := by
  have hlow : Int64.minValue.toInt = -2 ^ 63 := by decide
  have hhigh : Int64.maxValue.toInt = 2 ^ 63 - 1 := by decide
  have hzero : Int64.ofInt b = 0 ↔ b = 0 := by
    rw [← Int64.toInt_inj, Int64.toInt_ofInt_of_le hb.1 hb.2]
    rfl
  have hdiv := Int64.ofInt_tdiv (a := a) (b := b) (by omega) (by omega) (by omega) (by omega)
  have hrem := Int64.ofInt_tmod (a := a) (b := b) (by omega) (by omega) (by omega) (by omega)
  unfold combineLongs
  cases op with
  | add => simp [mark, on, Value.whole, Int64.ofInt_add]
  | sub => simp [mark, on, Value.whole, Int64.ofInt_sub]
  | mul => simp [mark, on, Value.whole, Int64.ofInt_mul]
  | div =>
      by_cases hb0 : b = 0
      · simp [mark, on, hb0]
      · simp [mark, on, Value.whole, hzero, hb0, hdiv]
  | rem =>
      by_cases hb0 : b = 0
      · simp [mark, on, hb0]
      · simp [mark, on, Value.whole, hzero, hb0, hrem]

theorem combineInts_eq (op : Operator) {a b : ℤ} (ha : -2 ^ 31 ≤ a ∧ a < 2 ^ 31)
    (hb : -2 ^ 31 ≤ b ∧ b < 2 ^ 31) :
    combineInts op.mark (Int32.ofInt a) (Int32.ofInt b) =
      match op.on a b with
      | some n => .ok (.whole false n)
      | none => .error .divisionByZero := by
  have hlow : Int32.minValue.toInt = -2 ^ 31 := by decide
  have hhigh : Int32.maxValue.toInt = 2 ^ 31 - 1 := by decide
  have hzero : Int32.ofInt b = 0 ↔ b = 0 := by
    rw [← Int32.toInt_inj, Int32.toInt_ofInt_of_le hb.1 hb.2]
    rfl
  have hdiv := Int32.ofInt_tdiv (a := a) (b := b) (by omega) (by omega) (by omega) (by omega)
  have hrem := Int32.ofInt_tmod (a := a) (b := b) (by omega) (by omega) (by omega) (by omega)
  unfold combineInts
  cases op with
  | add => simp [mark, on, Value.whole, Int32.ofInt_add]
  | sub => simp [mark, on, Value.whole, Int32.ofInt_sub]
  | mul => simp [mark, on, Value.whole, Int32.ofInt_mul]
  | div =>
      by_cases hb0 : b = 0
      · simp [mark, on, hb0]
      · simp [mark, on, Value.whole, hzero, hb0, hdiv]
  | rem =>
      by_cases hb0 : b = 0
      · simp [mark, on, hb0]
      · simp [mark, on, Value.whole, hzero, hb0, hrem]

theorem isPlus_mark (op : Operator) : decide (op.mark = '+') = decide (op = add) := by
  cases op <;> rfl

section Operands

variable {left right : Value} {a b : ℤ}

theorem promoted?_of_integers (ha : left.integer? = some a) (hb : right.integer? = some b) :
    promoted? left right =
      some (if left.isLong || right.isLong then .long else .int) := by
  rcases Value.primitive?_of_integer ha with ⟨p, hp, hboolean, hfloat, hdouble, hlong⟩
  rcases Value.primitive?_of_integer hb with ⟨q, hq, hboolean', hfloat', hdouble', hlong'⟩
  unfold promoted?
  simp only [hp, hq, hboolean, hboolean', hfloat, hfloat', hdouble, hdouble', hlong, hlong',
    decide_false, Bool.or_self, Bool.false_eq_true, if_false]
  split_ifs <;> rfl

theorem promoted?_eq_none (hleft : left.isFloating = false) (hright : right.isFloating = false)
    (hnone : left.integer? = none ∨ right.integer? = none) : promoted? left right = none := by
  unfold promoted?
  rcases hnone with hnone | hnone
  · rcases Value.primitive?_of_no_integer hleft hnone with hp | hp
    · rw [hp]
    · rw [hp]
      cases right.primitive? <;> rfl
  · rcases Value.primitive?_of_no_integer hright hnone with hq | hq
    · rw [hq]
      cases left.primitive? <;> rfl
    · rw [hq]
      cases left.primitive? with
      | none => rfl
      | some p => simp

theorem combine_eq (op : Operator) (hleft : left.isFloating = false)
    (hright : right.isFloating = false) : combine op.mark left right = op.apply left right := by
  unfold combine apply
  rw [isPlus_mark]
  split_ifs with htext
  · rfl
  · cases ha : left.integer? with
    | none => rw [promoted?_eq_none hleft hright (.inl ha)]
    | some a =>
        cases hb : right.integer? with
        | none => rw [promoted?_eq_none hleft hright (.inr hb)]
        | some b =>
            have hbounds := Value.integer_bounds ha
            have hbounds' := Value.integer_bounds hb
            rw [promoted?_of_integers ha hb]
            cases hlong : left.isLong || right.isLong with
            | true =>
                simp only [if_true, Option.getD_some]
                exact combineLongs_eq op ⟨hbounds.1, hbounds.2.1⟩ ⟨hbounds'.1, hbounds'.2.1⟩
            | false =>
                rw [Bool.or_eq_false_iff] at hlong
                simp only [Bool.false_eq_true, if_false, Option.getD_some]
                exact combineInts_eq op (hbounds.2.2 hlong.1) (hbounds'.2.2 hlong.2)

theorem on_eq_none_iff (op : Operator) : op.on a b = none ↔ (op = div ∨ op = rem) ∧ b = 0 := by
  cases op <;> simp [on]

theorem apply_eq_divisionByZero_iff (op : Operator) :
    op.apply left right = .error .divisionByZero ↔
      (op = div ∨ op = rem) ∧ left.integer?.isSome = true ∧ right.integer? = some 0 := by
  unfold apply
  split_ifs with htext
  · rw [Bool.and_eq_true, decide_eq_true_eq] at htext
    simp [htext.1]
  · cases left.integer? with
    | none => simp
    | some a =>
        cases right.integer? with
        | none => simp
        | some b =>
            have hnone := on_eq_none_iff (a := a) (b := b) op
            simp only [Option.isSome_some, Option.some.injEq, true_and]
            rw [← hnone]
            cases op.on a b <;> simp

end Operands

end Operator

/-- Only a division by zero is an arithmetic fault. -/
theorem Failure.kind_fault_iff (failure : Failure) :
    failure.fault.kind = "ArithmeticException" ↔ failure = .divisionByZero := by
  have hkind : ∀ message, (Fault.evaluation message).kind ≠ "ArithmeticException" := by
    intro message
    change "EvalError" ≠ "ArithmeticException"
    decide
  unfold fault
  split_ifs with hzero
  · exact ⟨fun _ => hzero, fun _ => rfl⟩
  · exact ⟨fun hsame => absurd hsame (hkind _), fun hfailure => absurd hfailure hzero⟩

def opposite (v : Value) : Except Failure Value :=
  match v.integer? with
  | some n => .ok (.whole v.isLong (-n))
  | none => .error (.badNegation v.render)

theorem negate_eq {v : Value} (hv : v.isFloating = false) : negate v = opposite v := by
  cases v with
  | float | double => cases hv
  | long n =>
      have hneg := Int64.ofInt_neg n.toInt
      rw [Int64.ofInt_toInt] at hneg
      simp [negate, opposite, Value.integer?, Value.whole, Value.isLong, hneg]
  | _ => simp [negate, opposite, Value.integer?, Value.whole, Value.isLong, Int32.ofInt_neg]

section Arrays

def asItem (p : Primitive) (v : Value) : Except Failure Value :=
  match v.asPrimitive? p with
  | some w => .ok w
  | none => .error (.badItem v.render p.keyword)

/-- An array of a type that is neither float nor double. -/
def typed (element : ValueType) (items : List Value) : Except Failure Value :=
  match element with
  | .primitive p => (items.mapM (asItem p)).map .array
  | _ => .ok (.array items)

variable {p : Primitive}

theorem cast?_eq (hfloat : p ≠ .float) (hdouble : p ≠ .double) {v : Value}
    (hv : v.isFloating = false) : v.cast? p = v.asPrimitive? p := by
  have hreal : v.real? = v.integer?.map Value.doubleOfInt := by
    cases v with
    | float | double => cases hv
    | _ => rfl
  unfold Value.cast? Value.asPrimitive?
  cases p with
  | boolean => cases v <;> rfl
  | float => exact absurd rfl hfloat
  | double => exact absurd rfl hdouble
  | _ =>
      simp only [hreal]
      cases v.integer? <;> rfl

theorem castItems_eq (hfloat : p ≠ .float) (hdouble : p ≠ .double) {items : List Value}
    (hitems : ∀ v ∈ items, v.isFloating = false) : castItems p items = items.mapM (asItem p) := by
  induction items with
  | nil => rfl
  | cons v rest ih =>
      have hv : v.isFloating = false := hitems v List.mem_cons_self
      have hrest := ih fun w hw => hitems w (List.mem_cons_of_mem _ hw)
      rw [castItems, List.mapM_cons, cast?_eq hfloat hdouble hv, hrest]
      generalize rest.mapM (asItem p) = ws
      unfold asItem
      cases v.asPrimitive? p with
      | none => rfl
      | some w => cases ws <;> rfl

theorem arrayOf_eq {element : ValueType} (hfloat : element ≠ .primitive .float)
    (hdouble : element ≠ .primitive .double) {items : List Value}
    (hitems : ∀ v ∈ items, v.isFloating = false) : arrayOf element items = typed element items := by
  unfold arrayOf typed
  cases element with
  | primitive p =>
      have hfloat' : p ≠ .float := fun hp => hfloat (by rw [hp])
      have hdouble' : p ≠ .double := fun hp => hdouble (by rw [hp])
      simp only
      rw [castItems_eq hfloat' hdouble' hitems]
  | _ => rfl

end Arrays

section Results

variable {v w left right : Value}

theorem isFloating_whole (long : Bool) (n : ℤ) : (Value.whole long n).isFloating = false := by
  cases long <;> rfl

theorem isFloating_of_apply {op : Operator} (hv : op.apply left right = .ok v) :
    v.isFloating = false := by
  unfold Operator.apply at hv
  split_ifs at hv
  · cases hv
    rfl
  · split at hv
    · split at hv
      · cases hv
        exact isFloating_whole _ _
      · cases hv
    · cases hv

theorem isFloating_of_opposite (hv : opposite w = .ok v) : v.isFloating = false := by
  unfold opposite at hv
  split at hv
  · cases hv
    exact isFloating_whole _ _
  · cases hv

theorem isFloating_of_typed {element : ValueType} {items : List Value}
    (hv : typed element items = .ok v) : v.isFloating = false := by
  unfold typed at hv
  split at hv
  · rcases exists_of_map_eq_ok hv with ⟨ws, -, rfl⟩
    rfl
  · cases hv
    rfl

end Results

end Expression

end Refit
