import Mathlib.Tactic
import Refit.Decimal.Layout

/-!
# The characters of number texts

A number text is made of digits, a point, signs, the mark of an exponent and the letters
of the two words for what is no number.
-/

namespace Refit.Decimal

def IsNumberChar (c : Char) : Prop :=
  c.isDigit = true ∨ c ∈ ['.', 'e', '+', '-', 'N', 'a', 'i', 'n', 'f']

instance : DecidablePred IsNumberChar := fun _ => inferInstanceAs (Decidable (_ ∨ _))

variable {digits : List Char}

theorem numberChars_of_all (hall : digits.all (fun c => IsNumberChar c) = true) :
    ∀ c ∈ digits, IsNumberChar c := by
  simpa using hall

theorem numberChars_repr (n : ℕ) : ∀ c ∈ (Nat.repr n).toList, IsNumberChar c := by
  intro c hc
  rw [Nat.toList_repr] at hc
  exact .inl (Nat.isDigit_of_mem_toDigits (by norm_num) (by norm_num) hc)

theorem numberChars_replicate (n : ℕ) : ∀ c ∈ List.replicate n '0', IsNumberChar c := by
  intro c hc
  rw [List.eq_of_mem_replicate hc]
  decide

theorem numberChars_positional (hdigits : ∀ c ∈ digits, IsNumberChar c)
    (point : Bool) (whole : ℤ) : ∀ c ∈ positional point digits whole, IsNumberChar c := by
  unfold positional
  split
  · rw [List.forall_mem_append, List.forall_mem_append]
    refine ⟨⟨hdigits, numberChars_replicate _⟩, ?_⟩
    cases point <;> exact numberChars_of_all (by decide)
  split
  · rw [List.forall_mem_append, List.forall_mem_cons]
    exact ⟨fun c hc => hdigits c (List.mem_of_mem_take hc), by decide,
      fun c hc => hdigits c (List.mem_of_mem_drop hc)⟩
  · rw [List.forall_mem_append, List.forall_mem_cons, List.forall_mem_cons]
    exact ⟨⟨by decide, by decide, numberChars_replicate _⟩, hdigits⟩

theorem numberChars_scientific (hdigits : ∀ c ∈ digits, IsNumberChar c)
    (plus : Bool) (k : ℤ) : ∀ c ∈ scientific plus digits k, IsNumberChar c := by
  unfold scientific
  simp only
  rw [List.forall_mem_append, List.forall_mem_append, List.forall_mem_cons]
  refine ⟨⟨?_, by decide, ?_⟩, numberChars_repr _⟩
  · cases digits with
    | nil => exact numberChars_of_all (by decide)
    | cons d rest =>
        rw [List.forall_mem_cons] at hdigits
        simp only
        split
        · rw [List.forall_mem_singleton]
          exact hdigits.1
        · rw [List.forall_mem_cons, List.forall_mem_cons]
          exact ⟨hdigits.1, by decide, hdigits.2⟩
  · split
    · exact numberChars_of_all (by decide)
    split <;> exact numberChars_of_all (by decide)

theorem numberChars_digits (l : Layout) (b : Binary) :
    ∀ c ∈ l.digits b, IsNumberChar c := by
  unfold Layout.digits
  split
  · exact numberChars_positional (numberChars_of_all (by decide)) _ _
  simp only
  split
  · exact numberChars_positional (numberChars_repr _) _ _
  · exact numberChars_scientific (numberChars_repr _) _ _

theorem numberChars_signed (hdigits : ∀ c ∈ digits, IsNumberChar c) (negative : Bool) :
    ∀ c ∈ (signed negative digits).toList, IsNumberChar c := by
  unfold signed
  rw [String.toList_ofList]
  split
  · rw [List.forall_mem_cons]
    exact ⟨by decide, hdigits⟩
  · exact hdigits

theorem numberChars_write (l : Layout) (x : Float) :
    ∀ c ∈ (l.write x).toList, IsNumberChar c := by
  unfold Layout.write
  split
  · exact numberChars_of_all (by decide)
  · exact numberChars_signed (numberChars_of_all (by decide)) _
  · exact numberChars_signed (numberChars_digits l _) _

theorem numberChars_toString (n : ℤ) : ∀ c ∈ (toString n).toList, IsNumberChar c := by
  cases n with
  | ofNat n => exact numberChars_repr n
  | negSucc n =>
      have htext : (toString (Int.negSucc n)).toList = '-' :: (Nat.repr (n + 1)).toList := by
        change ("-" ++ Nat.repr (n + 1)).toList = _
        rw [String.toList_append]
        rfl
      rw [htext, List.forall_mem_cons]
      exact ⟨by decide, numberChars_repr (n + 1)⟩

end Refit.Decimal
