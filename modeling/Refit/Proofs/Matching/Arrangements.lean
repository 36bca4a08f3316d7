import Refit.Proofs.Matching.Backtracking
import Refit.Proofs.Traversal

/-!
# Orders of parameters

The orders to try are all orders of the positions if parameters may be reordered, and only
the given one if not.  They come in lexicographic order, each once.
-/

namespace Refit

variable {count arity longest : ℕ} {remaining order : List ℕ}

/-- Parameters are reordered from two on up to `longest`, and then in every way. -/
def Admissible (arity longest : ℕ) (order : List ℕ) : Prop :=
  if 2 ≤ arity ∧ arity ≤ longest then order.Perm (List.range arity) else order = List.range arity

theorem mem_arrangements_iff (hlength : remaining.length = count) :
    order ∈ arrangements count remaining ↔ order.Perm remaining := by
  induction count generalizing remaining order with
  | zero =>
      rw [List.length_eq_zero_iff] at hlength
      rw [hlength, List.perm_nil, arrangements, List.mem_singleton]
  | succ count ih =>
      have herase : ∀ i ∈ remaining, (remaining.erase i).length = count := by
        intro i hi
        rw [List.length_erase_of_mem hi]
        omega
      simp only [arrangements, List.mem_flatMap, List.mem_map]
      constructor
      · rintro ⟨i, hi, rest, hrest, rfl⟩
        exact List.cons_perm_iff_perm_erase.mpr ⟨hi, (ih (herase i hi)).mp hrest⟩
      · intro hperm
        cases order with
        | nil =>
            rw [List.nil_perm] at hperm
            rw [hperm] at hlength
            cases hlength
        | cons i rest =>
            rcases List.cons_perm_iff_perm_erase.mp hperm with ⟨hi, hrest⟩
            exact ⟨i, hi, rest, (ih (herase i hi)).mpr hrest, rfl⟩

/-- Arrangements of ascending positions ascend, as the positions do that are left when one
is taken first. -/
theorem pairwise_arrangements (hascending : remaining.Pairwise (· < ·)) :
    (arrangements count remaining).Pairwise (· < ·) := by
  induction count generalizing remaining with
  | zero => exact List.pairwise_singleton _ _
  | succ count ih =>
      apply pairwise_flatMap_cons hascending
      intro i _
      exact ih (hascending.sublist (List.erase_sublist (a := i)))

/-- The first arrangement takes the positions as they come. -/
theorem head?_arrangements (hlength : remaining.length = count) :
    (arrangements count remaining).head? = some remaining := by
  induction count generalizing remaining with
  | zero =>
      rw [List.length_eq_zero_iff] at hlength
      rw [hlength, arrangements, List.head?_cons]
  | succ count ih =>
      cases remaining with
      | nil => cases hlength
      | cons i rest =>
          have hrest : rest.length = count := by simpa using hlength
          rw [arrangements, List.flatMap_cons, List.erase_cons_head, List.head?_append,
            List.head?_map, ih hrest]
          rfl

theorem orderings_eq (arity longest : ℕ) :
    orderings arity longest =
      if 2 ≤ arity ∧ arity ≤ longest then arrangements arity (List.range arity)
      else [List.range arity] := by
  unfold orderings
  rw [OrderSearch.found_run_start]
  by_cases hreordered : 2 ≤ arity ∧ arity ≤ longest
  · have hnot : ¬ (arity < 2 || longest < arity) = true := by
      simp only [Bool.or_eq_true, decide_eq_true_eq]
      omega
    rw [if_neg hnot, if_pos hreordered]
  · have hfixed : (arity < 2 || longest < arity) = true := by
      simp only [Bool.or_eq_true, decide_eq_true_eq]
      omega
    rw [if_pos hfixed, if_neg hreordered]

theorem mem_orderings_iff :
    order ∈ orderings arity longest ↔ Admissible arity longest order := by
  rw [orderings_eq]
  unfold Admissible
  split
  · exact mem_arrangements_iff List.length_range
  · exact List.mem_singleton

theorem pairwise_orderings : (orderings arity longest).Pairwise (· < ·) := by
  rw [orderings_eq]
  split
  · exact pairwise_arrangements List.pairwise_lt_range
  · exact List.pairwise_singleton _ _

theorem Admissible.perm (h : Admissible arity longest order) : order.Perm (List.range arity) := by
  unfold Admissible at h
  split at h
  · exact h
  · exact .of_eq h

/-- The given order is always tried. -/
theorem admissible_range : Admissible arity longest (List.range arity) := by
  unfold Admissible
  split
  · exact List.Perm.refl _
  · rfl

/-- As many orders as a factorial says: all permutations, each once. -/
theorem length_arrangements_range (arity : ℕ) :
    (arrangements arity (List.range arity)).length = arity.factorial := by
  have hnodup : (arrangements arity (List.range arity)).Nodup :=
    (pairwise_arrangements List.pairwise_lt_range).imp fun hlt => ne_of_lt hlt
  have hperm : (arrangements arity (List.range arity)).Perm (List.range arity).permutations := by
    apply (List.perm_ext_iff_of_nodup hnodup (List.nodup_permutations _ List.nodup_range)).mpr
    intro order
    rw [mem_arrangements_iff List.length_range, List.mem_permutations]
  rw [hperm.length_eq, List.length_permutations, List.length_range]

/-- Where parameters are reordered, all permutations are tried in strictly ascending
lexicographic order, the given one first.  The search for them comes to its end from
whatever it has in hand, and leaves the order begun and the marks as it found them. -/
theorem orderings_exhaust (arity longest : ℕ) :
    (if 2 ≤ arity ∧ arity ≤ longest then
      (orderings arity longest).Pairwise (· < ·) ∧
      (∀ order, (orderings arity longest).count order =
        if order.Perm (List.range arity) then 1 else 0) ∧
      (orderings arity longest).length = arity.factorial ∧
      (orderings arity longest).head? = some (List.range arity)
    else orderings arity longest = [List.range arity]) ∧
    ∀ s : OrderSearch,
      s.run = (if s.current.length = s.used.length then s.record
        else s.visitAll OrderSearch.run) ∧
      s.run.current = s.current ∧ s.run.used = s.used := by
  constructor
  · split
    · next hreordered =>
      have hascending : (orderings arity longest).Pairwise (· < ·) := pairwise_orderings
      have hnodup : (orderings arity longest).Nodup :=
        hascending.imp fun hlt => ne_of_lt hlt
      have heq : orderings arity longest = arrangements arity (List.range arity) := by
        rw [orderings_eq, if_pos hreordered]
      refine ⟨hascending, ?_, ?_, ?_⟩
      · intro order
        have hmem : order ∈ orderings arity longest ↔ order.Perm (List.range arity) := by
          rw [heq]
          exact mem_arrangements_iff List.length_range
        rw [hnodup.count, if_congr hmem rfl rfl]
      · rw [heq]
        exact length_arrangements_range arity
      · rw [heq]
        exact head?_arrangements List.length_range
    · next hfixed => rw [orderings_eq, if_neg hfixed]
  · intro s
    have hkept := OrderSearch.givesBack_run s
    exact ⟨s.run_eq, hkept.current, hkept.used⟩

end Refit
