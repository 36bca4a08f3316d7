import Mathlib.Tactic

/-!
# Traversals that may fail

A traversal of a list that succeeds has succeeded at every element, so its
result is paired with the list element by element.  What succeeds once its result
is mapped has succeeded before.  A traversal of one list for each element of another
goes through the pairs in lexicographic order.
-/

namespace Refit

variable {α β ε : Type}

theorem exists_of_map_eq_ok
    {f : α → β} {x : Except ε α} {b : β} (hx : x.map f = .ok b) :
    ∃ a, x = .ok a ∧ f a = b := by
  cases x with
  | error e => cases hx
  | ok a =>
      cases hx
      exact ⟨a, rfl, rfl⟩

theorem exists_of_bind_eq_ok
    {f : α → Except ε β} {x : Except ε α} {b : β} (hx : x.bind f = .ok b) :
    ∃ a, x = .ok a ∧ f a = .ok b := by
  cases x with
  | error e => cases hx
  | ok a => exact ⟨a, rfl, hx⟩

theorem forall₂_of_mapM_eq_some
    {f : α → Option β} {xs : List α} {ys : List β}
    (hmap : xs.mapM f = some ys) :
    List.Forall₂ (fun x y => f x = some y) xs ys := by
  induction xs generalizing ys with
  | nil =>
      simp only [List.mapM_nil, Option.pure_def, Option.some.injEq] at hmap
      subst hmap
      exact .nil
  | cons x xs ih =>
      rw [List.mapM_cons] at hmap
      simp only [bind, Option.bind_eq_some_iff, pure, Option.some.injEq] at hmap
      obtain ⟨y, hy, rest, hrest, rfl⟩ := hmap
      exact .cons hy (ih hrest)

theorem mapM_eq_some_iff {f : α → Option β} {xs : List α} {ys : List β} :
    xs.mapM f = some ys ↔ List.Forall₂ (fun x y => f x = some y) xs ys := by
  constructor
  · exact forall₂_of_mapM_eq_some
  · intro hpaired
    induction hpaired with
    | nil => rfl
    | cons hxy _ ih =>
        rw [List.mapM_cons, hxy, ih]
        rfl

/-- A list can be paired with results when each of its elements has one. -/
theorem exists_forall₂_iff {R : α → β → Prop} {xs : List α} :
    (∃ ys, List.Forall₂ R xs ys) ↔ ∀ x ∈ xs, ∃ y, R x y := by
  induction xs with
  | nil => simp
  | cons x xs ih =>
      rw [List.forall_mem_cons, ← ih]
      constructor
      · rintro ⟨_, hxy | ⟨hxy, hrest⟩⟩
        exact ⟨⟨_, hxy⟩, ⟨_, hrest⟩⟩
      · rintro ⟨⟨y, hxy⟩, ⟨ys, hrest⟩⟩
        exact ⟨y :: ys, .cons hxy hrest⟩

theorem forall₂_of_mapM_eq_ok
    {f : α → Except ε β} {xs : List α} {ys : List β}
    (hmap : xs.mapM f = .ok ys) :
    List.Forall₂ (fun x y => f x = .ok y) xs ys := by
  induction xs generalizing ys with
  | nil =>
      simp only [List.mapM_nil, pure, Except.pure, Except.ok.injEq] at hmap
      subst hmap
      exact .nil
  | cons x xs ih =>
      rw [List.mapM_cons] at hmap
      cases hx : f x with
      | error e => simp [hx, bind, Except.bind] at hmap
      | ok y =>
          cases hrest : xs.mapM f with
          | error e => simp [hx, hrest, bind, Except.bind] at hmap
          | ok rest =>
              simp only [hx, hrest, bind, Except.bind, pure, Except.pure,
                Except.ok.injEq] at hmap
              subst hmap
              exact .cons hx (ih hrest)

theorem forall₂_getElem?_left
    {R : α → β → Prop} {xs : List α} {ys : List β}
    (h : List.Forall₂ R xs ys) {i : ℕ} {x : α} (hx : xs[i]? = some x) :
    ∃ y, ys[i]? = some y ∧ R x y := by
  induction h generalizing i with
  | nil => simp at hx
  | cons hxy _ ih =>
      cases i with
      | zero =>
          simp only [List.getElem?_cons_zero, Option.some.injEq] at hx
          subst hx
          exact ⟨_, rfl, hxy⟩
      | succ i => exact ih (by simpa using hx)

theorem forall₂_getElem?_right
    {R : α → β → Prop} {xs : List α} {ys : List β}
    (h : List.Forall₂ R xs ys) {i : ℕ} {y : β} (hy : ys[i]? = some y) :
    ∃ x, xs[i]? = some x ∧ R x y :=
  forall₂_getElem?_left h.flip hy

theorem forall₂_mem_right
    {R : α → β → Prop} {xs : List α} {ys : List β}
    (h : List.Forall₂ R xs ys) {y : β} (hy : y ∈ ys) : ∃ x ∈ xs, R x y := by
  obtain ⟨i, hi⟩ := List.mem_iff_getElem?.mp hy
  obtain ⟨x, hx, hxy⟩ := forall₂_getElem?_right h hi
  exact ⟨x, List.mem_of_getElem? hx, hxy⟩

theorem forall₂_set_left
    {R : α → β → Prop} {xs : List α} {ys : List β} (h : List.Forall₂ R xs ys) {i : ℕ} {x x' : α}
    (hx : xs[i]? = some x) (hR : ∀ y, R x y → R x' y) : List.Forall₂ R (xs.set i x') ys := by
  induction h generalizing i with
  | nil => cases hx
  | cons hxy hrest ih =>
      cases i with
      | zero =>
          cases hx
          exact .cons (hR _ hxy) hrest
      | succ i => exact .cons hxy (ih hx)

/-- What begins with earlier places goes before the rest, and behind equal first places the
order is that of what follows. -/
theorem pairwise_flatMap_cons
    {xs : List α} {place : α → ℕ} {rows : α → List (List ℕ)}
    (hxs : xs.Pairwise fun x y => place x < place y)
    (hrows : ∀ x ∈ xs, (rows x).Pairwise (· < ·)) :
    (xs.flatMap fun x => (rows x).map (place x :: ·)).Pairwise (· < ·) := by
  rw [List.pairwise_flatMap]
  constructor
  · intro x hx
    rw [List.pairwise_map]
    exact (hrows x hx).imp fun hlt => List.Lex.cons hlt
  · apply hxs.imp
    intro x y hlt as has bs hbs
    rcases List.mem_map.mp has with ⟨_, -, rfl⟩
    rcases List.mem_map.mp hbs with ⟨_, -, rfl⟩
    exact List.Lex.rel hlt

end Refit
