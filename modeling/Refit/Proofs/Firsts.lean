import Mathlib.Tactic

/-!
# The first of its kind

A relation tells which elements of a list are of one kind.  Of each kind the first element
is kept, and what is kept is in the order in which the kinds come up.
-/

namespace Refit

variable {α : Type*} {r : α → α → Bool}

/-- The elements without those that are equal to an earlier one. -/
def firsts (r : α → α → Bool) : List α → List α
  | [] => []
  | a :: rest => a :: (firsts r rest).filter (!r a ·)

theorem firsts_subset (r : α → α → Bool) (as : List α) : firsts r as ⊆ as := by
  induction as with
  | nil => exact List.Subset.refl _
  | cons a rest ih =>
      refine List.cons_subset_cons a fun b hb => ih ?_
      exact List.mem_of_mem_filter hb

theorem pairwise_firsts (r : α → α → Bool) (as : List α) :
    (firsts r as).Pairwise fun a b => r a b = false := by
  induction as with
  | nil => exact List.Pairwise.nil
  | cons a as ih =>
      rw [firsts, List.pairwise_cons]
      constructor
      · intro b hb
        simpa using (List.mem_filter.mp hb).2
      · exact ih.filter _

theorem firsts_append (as bs : List α) :
    firsts r (as ++ bs) =
      firsts r as ++ (firsts r bs).filter fun b => !as.any (r · b) := by
  induction as with
  | nil => simp [firsts]
  | cons a rest ih =>
      rw [List.cons_append, firsts, firsts, ih, List.filter_append, List.filter_filter,
        List.cons_append]
      congr 2
      refine List.filter_congr fun b _ => ?_
      rw [List.any_cons, Bool.not_or]

theorem mem_firsts_iff (hrefl : ∀ a, r a a = true) {a : α} {as : List α} :
    a ∈ firsts r as ↔ as.find? (r · a) = some a := by
  induction as with
  | nil => simp [firsts]
  | cons b rest ih =>
      rw [firsts, List.mem_cons, List.mem_filter, ih, List.find?_cons]
      cases hba : r b a with
      | true =>
          simp only [Bool.not_true, Bool.false_eq_true, and_false, or_false, Option.some.injEq]
          exact eq_comm
      | false =>
          have hne : a ≠ b := by
            rintro rfl
            rw [hrefl] at hba
            cases hba
          simp only [Bool.not_false, and_true, hne, false_or]

theorem pairwise_findIdx_firsts (hrefl : ∀ a, r a a = true) (as : List α) :
    (firsts r as).Pairwise fun a b => as.findIdx (r · a) < as.findIdx (r · b) := by
  induction as with
  | nil => exact List.Pairwise.nil
  | cons a rest ih =>
      have hlater : ∀ b ∈ (firsts r rest).filter (!r a ·),
          (a :: rest).findIdx (r · b) = rest.findIdx (r · b) + 1 := by
        intro b hb
        have hother : r a b = false := by
          simpa using (List.mem_filter.mp hb).2
        simp only [List.findIdx_cons, hother, cond_false]
      have hfirst : (a :: rest).findIdx (r · a) = 0 := by
        simp only [List.findIdx_cons, hrefl, cond_true]
      rw [firsts, List.pairwise_cons]
      constructor
      · intro b hb
        rw [hfirst, hlater b hb]
        exact Nat.succ_pos _
      · refine (ih.filter _).imp_of_mem ?_
        intro b d hb hd hlt
        rw [hlater b hb, hlater d hd]
        exact Nat.succ_lt_succ hlt

/-- Each kind is kept once, by its first element. -/
theorem filter_firsts (hsymm : ∀ a b, r a b = true → r b a = true)
    (htrans : ∀ a b c, r a b = true → r b c = true → r a c = true) (a : α) (as : List α) :
    (firsts r as).filter (r · a) = (as.find? (r · a)).toList := by
  induction as with
  | nil => rfl
  | cons b rest ih =>
      rw [firsts, List.filter_cons, List.filter_filter, List.find?_cons]
      cases hba : r b a with
      | true =>
          have hnone : (firsts r rest).filter (fun d => r d a && !r b d) = [] := by
            rw [List.filter_eq_nil_iff]
            intro d _ hd
            rw [Bool.and_eq_true, Bool.not_eq_true'] at hd
            have hbd := htrans b a d hba (hsymm d a hd.1)
            rw [hd.2] at hbd
            cases hbd
          rw [if_pos rfl, hnone]
          rfl
      | false =>
          have hother : ∀ d, (r d a && !r b d) = r d a := by
            intro d
            cases hda : r d a with
            | false => rfl
            | true =>
                cases hbd : r b d with
                | false => rfl
                | true => rw [htrans b d a hbd hda] at hba; cases hba
          simp only [hother, ih, Bool.false_eq_true, if_false]

theorem firsts_eq_self {as : List α} (hapart : as.Pairwise fun a b => r a b = false) :
    firsts r as = as := by
  induction as with
  | nil => rfl
  | cons a rest ih =>
      obtain ⟨hfirst, hrest⟩ := List.pairwise_cons.mp hapart
      rw [firsts, ih hrest, List.filter_eq_self.mpr]
      intro b hb
      simp [hfirst b hb]

theorem find?_filter_of_imp {p q : α → Bool} {as : List α}
    (h : ∀ a ∈ as, p a = true → q a = true) : (as.filter q).find? p = as.find? p := by
  induction as with
  | nil => rfl
  | cons a rest ih =>
      have ih := ih fun b hb => h b (List.mem_cons_of_mem a hb)
      have ha := h a List.mem_cons_self
      rw [List.filter_cons, List.find?_cons]
      cases hp : p a with
      | true =>
          rw [if_pos (ha hp)]
          simp [hp]
      | false =>
          split
          · simp [hp, ih]
          · exact ih

/-- A property that holds of a whole kind is first met where it is first met. -/
theorem find?_firsts {p : α → Bool} (hp : ∀ a b, r a b = true → p b = true → p a = true)
    (as : List α) : (firsts r as).find? p = as.find? p := by
  induction as with
  | nil => rfl
  | cons a rest ih =>
      rw [firsts, List.find?_cons, List.find?_cons, ← ih]
      cases hpa : p a with
      | true => rfl
      | false =>
          refine find?_filter_of_imp fun b _ hpb => ?_
          cases hab : r a b with
          | false => rfl
          | true =>
              have hboth := hp a b hab hpb
              rw [hpa] at hboth
              cases hboth

end Refit
