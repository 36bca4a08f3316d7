import Mathlib.Tactic
import Refit.Matching.Conversion

/-!
# Objects in values

An object occurs in a value at whatever depth of lists and arrays.  Conversions
neither bring an object into a value nor, unless they drop the value, take one out.
-/

namespace Refit

/-- An object with the property occurs in a value, at whatever depth. -/
inductive Value.Mentions (P : Instance → Prop) : Value → Prop
  | object {i : Instance} (h : P i) : Mentions P (.object i)
  | list {items : List Value} {item : Value} (hitem : item ∈ items)
      (h : Mentions P item) : Mentions P (.list items)
  | array {items : List Value} {item : Value} (hitem : item ∈ items)
      (h : Mentions P item) : Mentions P (.array items)

namespace Value

variable {P : Instance → Prop}

@[simp]
theorem mentions_object {i : Instance} :
    (Value.object i).Mentions P ↔ P i :=
  ⟨fun h => by cases h; assumption, .object⟩

@[simp]
theorem mentions_list {items : List Value} :
    (Value.list items).Mentions P ↔ ∃ item ∈ items, item.Mentions P :=
  ⟨fun h => by cases h with | list hitem h => exact ⟨_, hitem, h⟩,
    fun ⟨_, hitem, h⟩ => .list hitem h⟩

@[simp]
theorem mentions_array {items : List Value} :
    (Value.array items).Mentions P ↔ ∃ item ∈ items, item.Mentions P :=
  ⟨fun h => by cases h with | array hitem h => exact ⟨_, hitem, h⟩,
    fun ⟨_, hitem, h⟩ => .array hitem h⟩

@[simp]
theorem not_mentions_null : ¬ Value.null.Mentions P := by rintro ⟨⟩

@[simp]
theorem not_mentions_void : ¬ Value.void.Mentions P := by rintro ⟨⟩

@[simp]
theorem not_mentions_text {s : String} : ¬ (Value.text s).Mentions P := by
  rintro ⟨⟩

@[simp]
theorem not_mentions_char {c : Char} : ¬ (Value.char c).Mentions P := by
  rintro ⟨⟩

theorem not_mentions_of_primitive?
    {v : Value} {p : Primitive} (hv : v.primitive? = some p) :
    ¬ v.Mentions P := by
  intro hmentions
  cases hmentions <;> simp [primitive?] at hv

theorem primitive?_of_cast?
    {v w : Value} {p : Primitive} (hw : v.cast? p = some w) :
    (∃ q, v.primitive? = some q) ∧ w.primitive? = some p := by
  have hv : ∃ q, v.primitive? = some q := by
    cases p <;> cases v <;>
      simp_all [cast?, real?, integer?, primitive?]
  refine ⟨hv, ?_⟩
  cases p <;> cases v <;> simp_all [cast?, real?, integer?, primitive?] <;>
    subst hw <;> rfl

/-- All objects that occur in a value have the property. -/
def Only (P : Instance → Prop) (v : Value) : Prop := ¬ v.Mentions fun i => ¬ P i

theorem Mentions.mono
    {Q : Instance → Prop} {v : Value} (hv : v.Mentions P) (hPQ : ∀ i, P i → Q i) :
    v.Mentions Q := by
  induction hv with
  | object h => exact .object (hPQ _ h)
  | list hitem _ ih => exact .list hitem ih
  | array hitem _ ih => exact .array hitem ih

theorem Only.mono
    {Q : Instance → Prop} {v : Value} (hv : v.Only P) (hPQ : ∀ i, P i → Q i) :
    v.Only Q :=
  fun hmentions => hv (hmentions.mono fun i hnot hP => hnot (hPQ i hP))

@[simp]
theorem only_object {i : Instance} : (Value.object i).Only P ↔ P i := by
  simp [Only]

@[simp]
theorem only_list {items : List Value} :
    (Value.list items).Only P ↔ ∀ item ∈ items, item.Only P := by
  simp [Only]

@[simp]
theorem only_array {items : List Value} :
    (Value.array items).Only P ↔ ∀ item ∈ items, item.Only P := by
  simp [Only]

theorem only_of_primitive?
    {v : Value} {p : Primitive} (hv : v.primitive? = some p) : v.Only P :=
  not_mentions_of_primitive? hv

@[simp]
theorem only_null : Value.null.Only P := not_mentions_null

@[simp]
theorem only_void : Value.void.Only P := not_mentions_void

@[simp]
theorem only_text {s : String} : (Value.text s).Only P := not_mentions_text

end Value

namespace Conversion

variable {P : Instance → Prop}

theorem castTo_mentions
    {p : Primitive} {v w : Value} (hw : castTo p v = .ok w) :
    ¬ w.Mentions P ∧ ¬ v.Mentions P := by
  unfold castTo at hw
  split at hw
  · cases hw
  split at hw
  · next result hcast =>
    cases hw
    obtain ⟨⟨q, hv⟩, hresult⟩ := Value.primitive?_of_cast? hcast
    exact ⟨Value.not_mentions_of_primitive? hresult,
      Value.not_mentions_of_primitive? hv⟩
  · cases hw

theorem charsOf_mentions
    {items : List Value} {cs : List Char} (hcs : charsOf items = .ok cs) :
    ∀ item ∈ items, ¬ item.Mentions P := by
  induction items generalizing cs with
  | nil => simp
  | cons item items ih =>
      cases item <;> simp only [charsOf, reduceCtorEq] at hcs
      next c =>
      split at hcs
      · next rest hrest =>
        simpa using ih hrest
      · cases hcs

/-- A conversion neither brings an object into a value nor takes one out of it,
unless it drops the value. -/
theorem apply_mentions
    {c : Conversion} {v w : Value} (hw : c.apply v = .ok w) :
    w.Mentions P ↔ c ≠ .discard ∧ v.Mentions P := by
  cases c with
  | identity | box =>
      cases hw
      simp
  | discard =>
      cases hw
      simp
  | widen | narrow | unbox =>
      obtain ⟨hresult, hinput⟩ := castTo_mentions (P := P) hw
      simp [hresult, hinput]
  | textToChars =>
      cases v <;> simp only [apply, reduceCtorEq, Except.ok.injEq] at hw <;>
        subst hw <;> simp
  | charsToText =>
      cases v <;> simp only [apply, reduceCtorEq, Except.ok.injEq] at hw
      case null => subst hw; simp
      case array items =>
        split at hw
        · next cs hcs =>
          cases hw
          simpa using charsOf_mentions hcs
        · cases hw
      case list items =>
        split at hw
        · next cs hcs =>
          cases hw
          simpa using charsOf_mentions hcs
        · cases hw
  | listToArray | arrayToList =>
      cases v <;> simp only [apply, reduceCtorEq, Except.ok.injEq] at hw <;>
        subst hw <;> simp

theorem apply_only
    {c : Conversion} {v w : Value} (hw : c.apply v = .ok w) (hv : v.Only P) :
    w.Only P :=
  fun hmentions => hv ((apply_mentions hw).mp hmentions).2

end Conversion

end Refit
