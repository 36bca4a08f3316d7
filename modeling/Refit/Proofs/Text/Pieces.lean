import Mathlib.Tactic

/-!
# Pieces of a text

A text made of pieces gives the pieces back, as long as none of them holds what
stands between two.
-/

namespace Refit

variable {α : Type}

/-- Where a property ends, a list can be cut in one way only. -/
theorem append_inj_of_forall
    {p : α → Prop} {xs ys us vs : List α}
    (hxs : ∀ x ∈ xs, p x) (hus : ∀ x ∈ us, p x)
    (hys : ∀ y, ys.head? = some y → ¬ p y)
    (hvs : ∀ v, vs.head? = some v → ¬ p v)
    (happend : xs ++ ys = us ++ vs) : xs = us ∧ ys = vs := by
  induction xs generalizing us with
  | nil =>
      cases us with
      | nil => exact ⟨rfl, happend⟩
      | cons u us =>
          rw [List.nil_append] at happend
          exact absurd (hus u List.mem_cons_self) (hys u (by rw [happend]; rfl))
  | cons x xs ih =>
      cases us with
      | nil =>
          rw [List.nil_append] at happend
          exact absurd (hxs x List.mem_cons_self) (hvs x (by rw [← happend]; rfl))
      | cons u us =>
          simp only [List.cons_append, List.cons.injEq] at happend
          obtain ⟨rfl, hrest⟩ := happend
          obtain ⟨rfl, rfl⟩ :=
            ih (fun y hy => hxs y (List.mem_cons_of_mem _ hy))
              (fun y hy => hus y (List.mem_cons_of_mem _ hy)) hrest
          exact ⟨rfl, rfl⟩

section Cuts

variable [DecidableEq α] {xs rest : List α} {c : α}

theorem takeWhile_ne_append_cons (hxs : c ∉ xs) :
    (xs ++ c :: rest).takeWhile (· ≠ c) = xs := by
  rw [List.takeWhile_append_of_pos]
  · simp
  · intro x hx
    simpa using ne_of_mem_of_not_mem hx hxs

theorem dropWhile_ne_append_cons (hxs : c ∉ xs) :
    (xs ++ c :: rest).dropWhile (· ≠ c) = c :: rest := by
  rw [List.dropWhile_append_of_pos]
  · simp
  · intro x hx
    simpa using ne_of_mem_of_not_mem hx hxs

end Cuts

theorem append_cons_inj_of_notMem
    {xs us rest rest' : List α} {c : α} (hxs : c ∉ xs) (hus : c ∉ us)
    (happend : xs ++ c :: rest = us ++ c :: rest') :
    xs = us ∧ rest = rest' := by
  have hends : ∀ (tail : List α) (y : α),
      (c :: tail).head? = some y → ¬ y ≠ c := by
    intro tail y hy
    cases hy
    simp
  obtain ⟨rfl, hrest⟩ := append_inj_of_forall (p := (· ≠ c))
    (fun x hx => by rintro rfl; exact hxs hx)
    (fun x hx => by rintro rfl; exact hus hx) (hends rest) (hends rest') happend
  exact ⟨rfl, (List.cons.inj hrest).2⟩

theorem intercalate_inj
    {glue : String} {separator : Char} (hglue : glue.toList = [separator])
    {xs ys : List String} (hxs : ∀ x ∈ xs, separator ∉ x.toList)
    (hys : ∀ y ∈ ys, separator ∉ y.toList) (hx : xs ≠ []) (hy : ys ≠ [])
    (htext : glue.intercalate xs = glue.intercalate ys) : xs = ys := by
  have hread : ∀ zs : List String, zs ≠ [] →
      (∀ z ∈ zs, separator ∉ z.toList) →
      (glue.intercalate zs).toList.splitOn separator = zs.map String.toList := by
    intro zs hz hzs
    rw [String.toList_intercalate, hglue]
    refine List.splitOn_intercalate separator ?_ (by simpa using hz)
    intro piece hpiece
    obtain ⟨z, hmem, rfl⟩ := List.mem_map.mp hpiece
    exact hzs z hmem
  have hpieces := (hread xs hx hxs).symm.trans
    ((congrArg (·.toList.splitOn separator) htext).trans (hread ys hy hys))
  exact List.map_injective_iff.mpr (fun _ _ hsame => String.toList_injective hsame)
    hpieces

/-- Pieces that are not empty may also be missing altogether. -/
theorem intercalate_inj_of_ne_empty
    {glue : String} {separator : Char} (hglue : glue.toList = [separator])
    {xs ys : List String} (hxs : ∀ x ∈ xs, separator ∉ x.toList ∧ x ≠ "")
    (hys : ∀ y ∈ ys, separator ∉ y.toList ∧ y ≠ "")
    (htext : glue.intercalate xs = glue.intercalate ys) : xs = ys := by
  have hempty : ∀ zs : List String, (∀ z ∈ zs, z ≠ "") →
      glue.intercalate zs = "" → zs = [] := by
    intro zs hzs hnone
    cases zs with
    | nil => rfl
    | cons z zs =>
        have hz := hzs z List.mem_cons_self
        cases zs with
        | nil => exact absurd (by simpa using hnone) hz
        | cons other zs =>
            rw [String.intercalate_cons_cons] at hnone
            simp [String.append_eq_empty_iff, hz] at hnone
  by_cases hx : xs = []
  · subst hx
    rw [String.intercalate_nil] at htext
    exact (hempty ys (fun y hy => (hys y hy).2) htext.symm).symm
  by_cases hy : ys = []
  · subst hy
    rw [String.intercalate_nil] at htext
    exact hempty xs (fun x hx => (hxs x hx).2) htext
  · exact intercalate_inj hglue (fun x hx => (hxs x hx).1)
      (fun y hy => (hys y hy).1) hx hy htext

end Refit
