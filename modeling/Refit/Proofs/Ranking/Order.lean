import Mathlib.Tactic
import Refit.Ranking.Rank

/-!
# The order of candidates

Candidates are put in order by a stable sort.  A stable sort keeps what is already
in order, keeps the parts of a list in their places, and begins with the first of
the least elements.
-/

namespace Refit

section Stable

variable {α : Type*} {le : α → α → Bool}

/-- The two parts of a sorted list around a new element are told apart by their
order to it. -/
theorem filter_mergeSort_cons
    (htrans : ∀ a b c, le a b = true → le b c = true → le a c = true)
    (htotal : ∀ a b, (le a b || le b a) = true) (a : α) (l : List α) :
    (a :: l).mergeSort le =
      (l.mergeSort le).filter (!le a ·) ++ a :: (l.mergeSort le).filter (le a ·) := by
  obtain ⟨before, after, hcons, hrest, hbefore⟩ := List.mergeSort_cons htrans htotal a l
  have hsorted := List.pairwise_mergeSort htrans htotal (a :: l)
  rw [hcons] at hsorted
  have hafter : ∀ b ∈ after, le a b = true :=
    (List.pairwise_cons.mp (List.pairwise_append.mp hsorted).2.1).1
  have hkept : before.filter (!le a ·) = before := List.filter_eq_self.mpr hbefore
  have hnone : after.filter (!le a ·) = [] := by
    rw [List.filter_eq_nil_iff]
    intro b hb
    simp [hafter b hb]
  have hgone : before.filter (le a ·) = [] := by
    rw [List.filter_eq_nil_iff]
    intro b hb
    simpa using hbefore b hb
  have hlast : after.filter (le a ·) = after := List.filter_eq_self.mpr hafter
  rw [hcons, hrest, List.filter_append, List.filter_append, hkept, hnone, hgone, hlast,
    List.append_nil, List.nil_append]

theorem mergeSort_sublist
    (htrans : ∀ a b c, le a b = true → le b c = true → le a c = true)
    (htotal : ∀ a b, (le a b || le b a) = true) {part whole : List α}
    (hpart : part.Sublist whole) : (part.mergeSort le).Sublist (whole.mergeSort le) := by
  induction hpart with
  | slnil => exact List.Sublist.refl _
  | cons a _ ih =>
      obtain ⟨before, after, hcons, hrest, -⟩ := List.mergeSort_cons htrans htotal a _
      rw [hcons]
      rw [hrest] at ih
      exact ih.trans ((List.sublist_cons_self a after).append_left before)
  | cons_cons a _ ih =>
      rw [filter_mergeSort_cons htrans htotal, filter_mergeSort_cons htrans htotal]
      exact (ih.filter _).append ((ih.filter _).cons_cons a)

theorem mergeSort_cons_of_least
    (htrans : ∀ a b c, le a b = true → le b c = true → le a c = true)
    (htotal : ∀ a b, (le a b || le b a) = true) {a : α} {l : List α}
    (hleast : ∀ b ∈ l, le a b = true) :
    (a :: l).mergeSort le = a :: l.mergeSort le := by
  have hnone : (l.mergeSort le).filter (!le a ·) = [] := by
    rw [List.filter_eq_nil_iff]
    intro b hb
    simp [hleast b (List.mem_mergeSort.mp hb)]
  have hall : (l.mergeSort le).filter (le a ·) = l.mergeSort le := by
    rw [List.filter_eq_self]
    intro b hb
    exact hleast b (List.mem_mergeSort.mp hb)
  rw [filter_mergeSort_cons htrans htotal, hnone, hall, List.nil_append]

end Stable

section Comparisons

open Std

variable {α : Type*} {cmp : α → α → Ordering}

theorem isLE_trans [TransCmp cmp] (a b c : α)
    (hab : (cmp a b).isLE = true) (hbc : (cmp b c).isLE = true) :
    (cmp a c).isLE = true :=
  TransCmp.isLE_trans hab hbc

theorem isLE_total [OrientedCmp cmp] (a b : α) :
    ((cmp a b).isLE || (cmp b a).isLE) = true := by
  have hswap : cmp b a = (cmp a b).swap := OrientedCmp.eq_swap
  rw [hswap]
  cases cmp a b <;> rfl

instance : TransCmp ValueType.compareStep :=
  inferInstanceAs (TransCmp (compareLex
    (compareLex (compareOn (·.1)) (compareOn (·.2.1)))
    (compareOn fun step : ℕ × ℕ × String => step.2.2)))

instance : TransOrd ValueType where
  eq_swap {_ _} := @OrientedCmp.eq_swap _ (List.compareLex ValueType.compareStep) _ _ _
  isLE_trans {_ _ _} := @TransCmp.isLE_trans _ (List.compareLex ValueType.compareStep) _ _ _ _

instance : TransOrd Conversion :=
  inferInstanceAs (TransCmp (compareLex (compareOn fun c : Conversion => c.sortKey.1)
    (compareLex (compareOn (·.sortKey.2.1)) (compareOn (·.sortKey.2.2)))))

instance : TransOrd Distance :=
  inferInstanceAs (TransCmp (compareOn Distance.rank))

/-- A comparison of what `f` makes of two values. -/
instance compareOf {β : Type*} (f : β → α) [TransCmp cmp] :
    TransCmp fun a b => cmp (f a) (f b) where
  eq_swap {_ _} := @OrientedCmp.eq_swap _ cmp _ _ _
  isLE_trans {_ _ _} := @TransCmp.isLE_trans _ cmp _ _ _ _

instance : TransOrd Member :=
  inferInstanceAs (TransCmp (compareLex (compareOn Member.name)
    (compareLex (fun a b : Member => List.compareLex compare a.params b.params)
    (compareLex (compareOn (·.returnType))
    (compareLex (compareOn (·.visibility.rank))
    (compareLex (compareOn (·.isStatic))
    (compareLex (compareOn (·.kind.rank)) (compareOn (·.declaring)))))))))

instance : TransCmp Candidate.compareRank :=
  inferInstanceAs (TransCmp (compareLex
    (fun a b : Candidate => compareOn Candidate.isDirect b a)
    (compareLex (compareOn (·.distance))
    (compareLex (compareOn (·.displaced))
    (compareLex (compareOn (·.convertedCount))
    (compareLex (compareOn (·.member))
    (compareLex (fun a b : Candidate => List.compareLex compare a.positions b.positions)
      (fun a b : Candidate => List.compareLex compare a.conversions b.conversions))))))))

end Comparisons

namespace Candidate

theorem rank_sorted (candidates : List Candidate) :
    (rank candidates).Pairwise fun a b => (compareRank a b).isLE = true :=
  List.pairwise_mergeSort isLE_trans isLE_total candidates

theorem rank_rank (candidates : List Candidate) :
    rank (rank candidates) = rank candidates :=
  List.mergeSort_of_pairwise (rank_sorted candidates)

/-- Nothing in the first two places of the order speaks for the second one. -/
def Ahead (a b : Candidate) : Prop :=
  (b.isDirect = true → a.isDirect = true) ∧
    (a.isDirect = b.isDirect → a.distance.rank ≤ b.distance.rank)

theorem Ahead.refl (a : Candidate) : Ahead a a :=
  ⟨fun hdirect => hdirect, fun _ => le_rfl⟩

theorem ahead_of_compareRank {a b : Candidate} (hab : (compareRank a b).isLE = true) :
    Ahead a b := by
  unfold compareRank at hab
  rw [Ordering.isLE_then_iff_and] at hab
  obtain ⟨hdirect, hrest⟩ := hab
  constructor
  · intro hb
    cases ha : a.isDirect with
    | true => rfl
    | false =>
        rw [ha, hb] at hdirect
        cases hdirect
  · intro heq
    have hsame : compare b.isDirect a.isDirect = .eq := by
      rw [heq]
      exact Std.ReflOrd.compare_self
    rw [hsame] at hrest
    have hnear := hrest.resolve_left nofun
    rw [Ordering.isLE_then_iff_and] at hnear
    have hdistance : (compare a.distance.rank b.distance.rank).isLE = true := hnear.1
    exact Int.isLE_compare.mp hdistance

theorem ahead_of_rank_eq_cons
    {candidates rest : List Candidate} {best : Candidate}
    (hrank : rank candidates = best :: rest) {c : Candidate} (hc : c ∈ rank candidates) :
    Ahead best c := by
  have hsorted := rank_sorted candidates
  rw [hrank, List.pairwise_cons] at hsorted
  rw [hrank] at hc
  rcases List.mem_cons.mp hc with rfl | hc
  · exact Ahead.refl c
  · exact ahead_of_compareRank (hsorted.1 c hc)

end Candidate

end Refit
