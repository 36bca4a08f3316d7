import Refit.Proofs.Json.Quoting
import Refit.Sheet.Cell

/-!
# References in cells

A cell that refers to a step is read back as the type and the row that it was
written with.  The row stands behind the last at sign, so the type may hold any.
-/

namespace Refit.CellText

theorem digit_of_mem_repr {n : ℕ} {c : Char} (hc : c ∈ (Nat.repr n).toList) :
    ('0' ≤ c ∧ c ≤ '9') := by
  rw [Nat.toList_repr] at hc
  have hdigit := Nat.isDigit_of_mem_toDigits (by norm_num) (by norm_num) hc
  simpa [Char.isDigit, Char.le_def] using hdigit

/-- The digits of a number are read as the number. -/
theorem foldl_repr (n : ℕ) :
    (Nat.repr n).toList.foldl (fun n c => n * 10 + (c.toNat - 48)) 0 = n := by
  have hread := Nat.ofDigitChars_ten_toDigits (n := n)
  have hzero : '0'.toNat = 48 := rfl
  rw [Nat.ofDigitChars_eq_foldl] at hread
  rw [Nat.toList_repr]
  simpa only [mul_comm, hzero] using hread

theorem rowNumber?_repr {row : ℕ} (hrow : row < 2 ^ 64) :
    rowNumber? (Nat.repr row).toList = some row := by
  have hdigits : ∀ c ∈ (Nat.repr row).toList, '0' ≤ c ∧ c ≤ '9' :=
    fun c hc => digit_of_mem_repr hc
  have hvalue := foldl_repr row
  have hnonempty : (Nat.repr row).toList ≠ [] := by
    rw [Nat.toList_repr]
    exact Nat.toDigits_ne_nil
  cases hcs : (Nat.repr row).toList with
  | nil => exact absurd hcs hnonempty
  | cons first rest =>
      rw [hcs] at hdigits hvalue
      have hall : (first :: rest).all (fun c => '0' ≤ c && c ≤ '9') = true := by
        rw [List.all_eq_true]
        intro c hc
        simpa using hdigits c hc
      have hlimit : row < Nat.pow 2 64 := hrow
      unfold rowNumber?
      split
      · next digits heq =>
        obtain ⟨rfl, -⟩ := List.cons.inj heq
        exact absurd (hdigits '+' List.mem_cons_self) (by decide)
      · simp only [hall, hvalue, hlimit, List.isEmpty_cons, Bool.not_true, Bool.or_self,
          Bool.false_eq_true, if_false, if_true]

theorem toList_reference (typeName : String) (row : ℕ) :
    (reference typeName row).toList =
      referenceStart.toList ++ (typeName.toList ++ '@' :: (Nat.repr row).toList) := by
  unfold reference
  simp only [String.toList_append, List.append_assoc]
  rfl

theorem parseReference?_reference
    (typeName : String) {row : ℕ} (hrow : row < 2 ^ 64) :
    parseReference? (ofText (reference typeName row)) = some (typeName, row) := by
  have hnotAt : ∀ c ∈ (Nat.repr row).toList.reverse, (decide (c ≠ '@')) = true := by
    intro c hc
    have hdigit := digit_of_mem_repr (List.mem_reverse.mp hc)
    rw [decide_eq_true_eq]
    rintro rfl
    exact absurd hdigit (by decide)
  have hbody : ((reference typeName row).toList.drop referenceStart.length).reverse =
      (Nat.repr row).toList.reverse ++ '@' :: typeName.toList.reverse := by
    have hlength : referenceStart.length = referenceStart.toList.length := rfl
    rw [toList_reference, hlength, List.drop_left, List.reverse_append, List.reverse_cons,
      List.append_assoc]
    rfl
  have hstart : referenceStart.toList.isPrefixOf (reference typeName row).toList = true := by
    rw [List.isPrefixOf_iff_prefix, toList_reference]
    exact List.prefix_append _ _
  have hat : ((Nat.repr row).toList.reverse ++ '@' :: typeName.toList.reverse).contains
      '@' = true := by
    simp
  have hrowText : ((Nat.repr row).toList.reverse ++ '@' :: typeName.toList.reverse).takeWhile
      (fun c => decide (c ≠ '@')) = (Nat.repr row).toList.reverse := by
    rw [List.takeWhile_append_of_pos hnotAt, List.takeWhile_cons_of_neg (by simp),
      List.append_nil]
  have hnameText : ((Nat.repr row).toList.reverse ++ '@' :: typeName.toList.reverse).dropWhile
      (fun c => decide (c ≠ '@')) = '@' :: typeName.toList.reverse := by
    rw [List.dropWhile_append_of_pos hnotAt, List.dropWhile_cons_of_neg (by simp)]
  unfold parseReference? ofText
  simp only [Json.parse?_quoted, hstart, hbody, hat, hrowText, hnameText, if_true,
    List.reverse_reverse, rowNumber?_repr hrow, List.drop_succ_cons, List.drop_zero,
    Option.map_some, String.ofList_toList]

end Refit.CellText
