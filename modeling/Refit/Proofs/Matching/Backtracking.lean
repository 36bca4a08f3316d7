import Mathlib.Tactic
import Refit.Matching.Orders

/-!
# Backtracking through orders

A visit gives back the position that it took, so a search ends with the order and the
marks that it began with, and only the orders found are more.  These are the orders that
go on from the order begun with the free positions, in all arrangements.
-/

namespace Refit

/-- All ways to go through the `remaining` positions, in lexicographic order when those
ascend. -/
def arrangements : ℕ → List ℕ → List (List ℕ)
  | 0, _ => [[]]
  | count + 1, remaining =>
    remaining.flatMap fun i => (arrangements count (remaining.erase i)).map (i :: ·)

namespace OrderSearch

/-- Two searches with the same order begun and the same marks. -/
structure Alongside (s t : OrderSearch) : Prop where
  current : t.current = s.current
  used : t.used = s.used

/-- The search ends with the order and the marks that it began with. -/
def GivesBack (search : OrderSearch → OrderSearch) : Prop :=
  ∀ s : OrderSearch, s.Alongside (search s)

variable {s t r : OrderSearch} {free i : ℕ} {search other : OrderSearch → OrderSearch}

theorem Alongside.refl (s : OrderSearch) : s.Alongside s := ⟨rfl, rfl⟩

theorem Alongside.trans (hst : s.Alongside t) (htr : t.Alongside r) : s.Alongside r :=
  ⟨htr.current.trans hst.current, htr.used.trans hst.used⟩

theorem Alongside.isFree_eq (h : s.Alongside t) : t.isFree = s.isFree := by
  funext i
  unfold isFree
  rw [h.used]

theorem isFree_iff : s.isFree i = true ↔ s.used[i]? = some false := by
  unfold isFree
  exact beq_iff_eq

theorem alongside_giveBack (hfree : s.isFree i = true) (h : (s.take i).Alongside t) :
    s.Alongside (t.giveBack i) := by
  constructor
  · unfold giveBack
    rw [h.current]
    exact List.dropLast_concat
  · have hmark : s.used[i]? = some false := isFree_iff.mp hfree
    unfold giveBack
    rw [h.used]
    apply List.ext_getElem?
    intro j
    by_cases hij : i = j
    · subst hij
      have hlt : i < s.used.length := (List.getElem?_eq_some_iff.mp hmark).1
      rw [hmark, take, List.set_set, List.getElem?_set_self hlt]
    · simp [take, hij]

theorem alongside_visit (hsearch : GivesBack search) (s : OrderSearch) (i : ℕ) :
    s.Alongside (s.visit search i) := by
  unfold visit
  split
  · next hfree => exact alongside_giveBack hfree (hsearch (s.take i))
  · exact Alongside.refl s

theorem alongside_foldl (hsearch : GivesBack search) (positions : List ℕ)
    (s : OrderSearch) : s.Alongside (positions.foldl (visit search) s) := by
  induction positions generalizing s with
  | nil => exact Alongside.refl s
  | cons i positions ih =>
      exact (alongside_visit hsearch s i).trans (ih (s.visit search i))

theorem givesBack_extend (free : ℕ) : GivesBack (extend free) := by
  induction free with
  | zero =>
      intro s
      rw [extend]
      split <;> exact ⟨rfl, rfl⟩
  | succ free ih =>
      intro s
      unfold extend
      split
      · exact ⟨rfl, rfl⟩
      · exact alongside_foldl ih _ s

theorem givesBack_run : GivesBack run := fun s => givesBack_extend _ s

/-- A position taken is one free position less. -/
theorem count_take (hfree : s.isFree i = true) :
    s.used.count false = (s.take i).used.count false + 1 := by
  have hmark := isFree_iff.mp hfree
  rcases List.getElem?_eq_some_iff.mp hmark with ⟨hlt, hvalue⟩
  have hsome : 0 < s.used.count false :=
    List.count_pos_iff.mpr (List.mem_of_getElem? hmark)
  unfold take
  rw [List.count_set hlt, hvalue]
  simp
  omega

/-- Two ways to search that agree behind every free position visit alike. -/
theorem visitAll_congr (hsearch : GivesBack search)
    (hsame : ∀ t i, s.Alongside t → t.isFree i = true → search (t.take i) = other (t.take i)) :
    s.visitAll search = s.visitAll other := by
  have hfold : ∀ (positions : List ℕ) (t : OrderSearch), s.Alongside t →
      positions.foldl (visit search) t = positions.foldl (visit other) t := by
    intro positions
    induction positions with
    | nil => intro t _; rfl
    | cons i positions ih =>
        intro t ht
        have hvisit : t.visit search i = t.visit other i := by
          unfold visit
          split
          · next hfree => rw [hsame t i ht hfree]
          · rfl
        rw [List.foldl_cons, List.foldl_cons, ← hvisit]
        exact ih _ (ht.trans (alongside_visit hsearch t i))
  exact hfold _ s (Alongside.refl s)

theorem visitAll_of_none (hnone : s.used.count false = 0) : s.visitAll search = s := by
  have hstays : ∀ i, s.visit search i = s := by
    intro i
    unfold visit
    split
    · next hfree =>
      have hone := count_take hfree
      omega
    · rfl
  unfold visitAll
  generalize List.range s.used.length = positions
  induction positions with
  | nil => rfl
  | cons i positions ih => rw [List.foldl_cons, hstays, ih]

/-- The number of free positions is enough for the search to come to its end: it records
the order begun if that is complete, and visits all positions if not. -/
theorem run_eq (s : OrderSearch) :
    s.run = if s.current.length = s.used.length then s.record else s.visitAll run := by
  rw [run]
  cases hcount : s.used.count false with
  | zero => rw [extend, visitAll_of_none hcount]
  | succ free =>
      have hsame : s.visitAll (extend free) = s.visitAll run := by
        apply visitAll_congr (givesBack_extend free)
        intro t i ht hfree
        have hone := count_take hfree
        rw [ht.used] at hone
        have hless : (t.take i).used.count false = free := by omega
        rw [run, hless]
      rw [extend, hsame]

def freePositions (s : OrderSearch) : List ℕ := (List.range s.used.length).filter s.isFree

theorem Alongside.freePositions_eq (h : s.Alongside t) : t.freePositions = s.freePositions := by
  unfold freePositions
  rw [h.isFree_eq, h.used]

theorem freePositions_take (i : ℕ) : (s.take i).freePositions = s.freePositions.erase i := by
  have hnodup : s.freePositions.Nodup := List.nodup_range.filter _
  rw [hnodup.erase_eq_filter]
  unfold freePositions
  rw [List.filter_filter]
  have hlength : (s.take i).used.length = s.used.length := List.length_set
  rw [hlength]
  apply List.filter_congr
  intro j hj
  rw [List.mem_range] at hj
  unfold isFree take
  by_cases hij : i = j
  · subst hij
    simp [hj]
  · simp [hij, Ne.symm hij]

/-- Behind each free position its own orders are found, one position after the other. -/
theorem found_foldl (hsearch : GivesBack search)
    {rows : ℕ → List (List ℕ)}
    (hrows : ∀ t i, s.Alongside t → s.isFree i = true →
      (search (t.take i)).found.toList = t.found.toList ++ rows i)
    (positions : List ℕ) (ht : s.Alongside t) :
    (positions.foldl (visit search) t).found.toList =
      t.found.toList ++ (positions.filter s.isFree).flatMap rows := by
  induction positions generalizing t with
  | nil => simp
  | cons i positions ih =>
      rw [List.foldl_cons, ih (ht.trans (alongside_visit hsearch t i))]
      unfold visit
      rw [ht.isFree_eq]
      cases hfree : s.isFree i with
      | false => simp [hfree]
      | true =>
          have hfound : ((search (t.take i)).giveBack i).found.toList =
              t.found.toList ++ rows i := hrows t i ht hfree
          rw [if_pos rfl, hfound, List.filter_cons_of_pos hfree, List.flatMap_cons,
            List.append_assoc]

/-- The search goes on in every way that the free positions allow, when they are as many
as the order begun lacks. -/
theorem found_extend (hfree : s.used.count false = free)
    (hlength : s.current.length + free = s.used.length) :
    (extend free s).found.toList =
      s.found.toList ++ (arrangements free s.freePositions).map (s.current ++ ·) := by
  induction free generalizing s with
  | zero =>
      rw [Nat.add_zero] at hlength
      rw [extend, if_pos hlength]
      simp [record, arrangements]
  | succ free ih =>
      have hrows : ∀ t i, s.Alongside t → s.isFree i = true →
          (extend free (t.take i)).found.toList = t.found.toList ++
            (arrangements free (s.freePositions.erase i)).map
              (fun rest => s.current ++ i :: rest) := by
        intro t i ht hmark
        rw [← ht.isFree_eq] at hmark
        have hone := count_take hmark
        rw [ht.used] at hone
        have hlong : (t.take i).current.length + free = (t.take i).used.length := by
          simp [take, ht.current, ht.used]
          omega
        rw [ih (by omega) hlong, freePositions_take, ht.freePositions_eq]
        simp [take, ht.current]
      have hnot : s.current.length ≠ s.used.length := by omega
      rw [extend, if_neg hnot, visitAll,
        found_foldl (givesBack_extend free) hrows _ (Alongside.refl s), arrangements,
        List.map_flatMap]
      simp [freePositions, Function.comp_def]

theorem found_run_start (arity : ℕ) :
    (start arity).run.found.toList = arrangements arity (List.range arity) := by
  have hused : (start arity).used = List.replicate arity false := rfl
  have hcount : (start arity).used.count false = arity := by
    rw [hused, List.count_replicate_self]
  have hpositions : (start arity).freePositions = List.range arity := by
    unfold freePositions
    rw [hused, List.length_replicate]
    apply List.filter_eq_self.mpr
    intro i hi
    rw [List.mem_range] at hi
    apply isFree_iff.mpr
    rw [hused, List.getElem?_replicate_of_lt hi]
  rw [run, hcount, found_extend hcount (by simp [start]), hpositions]
  simp [start]

end OrderSearch

end Refit
