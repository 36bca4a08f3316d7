import Mathlib.Tactic
import Refit.Ranking.NameDistance

/-!
# The edit distance of names

The distance of two lists is the least number of insertions, deletions and substitutions
that turn one into the other, by recursion on their first characters.  It is a metric,
and it is the same for the reversed lists.  Of the two rows by which names are compared
one holds the distances of their beginnings, taken from the end, and the other is written
over whatever it held.  So the last entry of the last row is the distance of the names.
-/

namespace Refit

namespace NameDistance

def editDistance : List Char → List Char → ℕ
  | [], b => b.length
  | _ :: a, [] => a.length + 1
  | c :: a, d :: b =>
    min (min (editDistance a b + if c = d then 0 else 1) (editDistance a (d :: b) + 1))
      (editDistance (c :: a) b + 1)
termination_by a b => a.length + b.length

section Metric

@[simp] theorem editDistance_nil_left (b : List Char) : editDistance [] b = b.length := by
  rw [editDistance]

@[simp] theorem editDistance_nil_right (a : List Char) : editDistance a [] = a.length := by
  cases a with
  | nil => rw [editDistance]
  | cons c a => rw [editDistance, List.length_cons]

theorem editDistance_cons_cons (c d : Char) (a b : List Char) :
    editDistance (c :: a) (d :: b) =
      min (min (editDistance a b + if c = d then 0 else 1) (editDistance a (d :: b) + 1))
        (editDistance (c :: a) b + 1) := by
  rw [editDistance]

theorem editDistance_comm (a b : List Char) : editDistance a b = editDistance b a := by
  induction a, b using editDistance.induct with
  | case1 b => rw [editDistance_nil_left, editDistance_nil_right]
  | case2 c a => rw [editDistance_nil_left, editDistance_nil_right]
  | case3 c a d b hboth hleft hright =>
      rw [editDistance_cons_cons, editDistance_cons_cons, hboth, hleft, hright,
        if_congr (eq_comm (a := c) (b := d)) rfl rfl, min_assoc, min_assoc,
        min_comm (editDistance (d :: b) a + 1)]

theorem editDistance_cons_left_le (c : Char) (a b : List Char) :
    editDistance (c :: a) b ≤ editDistance a b + 1 := by
  cases b with
  | nil => simp
  | cons d b =>
      rw [editDistance_cons_cons]
      exact (min_le_left _ _).trans (min_le_right _ _)

theorem editDistance_cons_right_le (d : Char) (a b : List Char) :
    editDistance a (d :: b) ≤ editDistance a b + 1 := by
  rw [editDistance_comm a (d :: b), editDistance_comm a b]
  exact editDistance_cons_left_le d b a

theorem editDistance_cons_cons_le (c d : Char) (a b : List Char) :
    editDistance (c :: a) (d :: b) ≤ editDistance a b + if c = d then 0 else 1 := by
  rw [editDistance_cons_cons]
  exact (min_le_left _ _).trans (min_le_left _ _)

/-- One of the three ways to begin is the best. -/
theorem editDistance_cons_cons_cases (c d : Char) (a b : List Char) :
    editDistance (c :: a) (d :: b) = editDistance a b + (if c = d then 0 else 1) ∨
      editDistance (c :: a) (d :: b) = editDistance a (d :: b) + 1 ∨
      editDistance (c :: a) (d :: b) = editDistance (c :: a) b + 1 := by
  rw [editDistance_cons_cons]
  omega

theorem editDistance_le_max (a b : List Char) :
    editDistance a b ≤ max a.length b.length := by
  induction a, b using editDistance.induct with
  | case1 b => simp
  | case2 c a => simp
  | case3 c a d b hboth _ _ =>
      have hle := editDistance_cons_cons_le c d a b
      rw [List.length_cons, List.length_cons]
      split_ifs at hle <;> omega

theorem length_le_add_editDistance (a b : List Char) :
    b.length ≤ a.length + editDistance a b := by
  induction a, b using editDistance.induct with
  | case1 b => simp
  | case2 c a => simp
  | case3 c a d b hboth hleft hright =>
      simp only [List.length_cons] at hleft hright ⊢
      rcases editDistance_cons_cons_cases c d a b with hsame | hless | hmore
      · omega
      · omega
      · omega

theorem editDistance_self (a : List Char) : editDistance a a = 0 := by
  induction a with
  | nil => rw [editDistance_nil_left, List.length_nil]
  | cons c a ih =>
      have hle := editDistance_cons_cons_le c c a a
      rw [if_pos rfl, ih] at hle
      exact Nat.le_zero.mp hle

theorem editDistance_eq_zero_iff {a b : List Char} : editDistance a b = 0 ↔ a = b := by
  constructor
  · intro hzero
    induction a, b using editDistance.induct with
    | case1 b =>
        rw [editDistance_nil_left, List.length_eq_zero_iff] at hzero
        exact hzero.symm
    | case2 c a => simp at hzero
    | case3 c a d b hboth _ _ =>
        rcases editDistance_cons_cons_cases c d a b with hsame | hless | hmore
        · rw [hsame] at hzero
          split_ifs at hzero with hcd
          rw [hcd, hboth hzero]
        · rw [hless] at hzero
          cases hzero
        · rw [hmore] at hzero
          cases hzero
  · intro heq
    rw [heq]
    exact editDistance_self b

/-- To turn one list into another by way of a third takes no fewer edits. -/
theorem editDistance_triangle (a b c : List Char) :
    editDistance a c ≤ editDistance a b + editDistance b c := by
  match a, b, c with
  | [], b, c =>
      rw [editDistance_nil_left, editDistance_nil_left]
      exact length_le_add_editDistance b c
  | a, b, [] =>
      rw [editDistance_nil_right, editDistance_nil_right, editDistance_comm a b, add_comm]
      exact length_le_add_editDistance b a
  | a, [], c =>
      have hmax := editDistance_le_max a c
      rw [editDistance_nil_right, editDistance_nil_left]
      omega
  | x :: a, y :: b, z :: c =>
      have hsame := editDistance_cons_cons_le x z a c
      have hless := editDistance_cons_left_le x a (z :: c)
      have hmore := editDistance_cons_right_le z (x :: a) c
      rcases editDistance_cons_cons_cases x y a b with hfirst | hfirst | hfirst
      · rcases editDistance_cons_cons_cases y z b c with hnext | hnext | hnext
        · have hrest := editDistance_triangle a b c
          have hcost : (if x = z then 0 else 1) ≤
              (if x = y then 0 else 1) + if y = z then 0 else 1 := by
            by_cases hxy : x = y
            · rw [hxy, if_pos rfl, Nat.zero_add]
            · rw [if_neg hxy]
              split_ifs <;> omega
          omega
        · have hrest := editDistance_triangle a b (z :: c)
          omega
        · have hrest := editDistance_triangle (x :: a) (y :: b) c
          omega
      · have hrest := editDistance_triangle a (y :: b) (z :: c)
        omega
      · rcases editDistance_cons_cons_cases y z b c with hnext | hnext | hnext
        · have hrest := editDistance_triangle (x :: a) b c
          omega
        · have hrest := editDistance_triangle (x :: a) b (z :: c)
          omega
        · have hrest := editDistance_triangle (x :: a) (y :: b) c
          omega
termination_by a.length + b.length + c.length

end Metric

section Reversal

theorem editDistance_append_le (a b a' b' : List Char) :
    editDistance (a ++ a') (b ++ b') ≤ editDistance a b + editDistance a' b' := by
  induction a, b using editDistance.induct with
  | case1 b =>
      rw [List.nil_append, editDistance_nil_left]
      induction b with
      | nil => simp
      | cons d b ih =>
          have hle := editDistance_cons_right_le d a' (b ++ b')
          rw [List.cons_append, List.length_cons]
          omega
  | case2 c a =>
      rw [List.nil_append, editDistance_nil_right]
      induction c :: a with
      | nil => simp
      | cons c a ih =>
          have hle := editDistance_cons_left_le c (a ++ a') b'
          rw [List.cons_append, List.length_cons]
          omega
  | case3 c a d b hboth hleft hright =>
      rcases editDistance_cons_cons_cases c d a b with hsame | hless | hmore
      · have hle : editDistance (c :: a ++ a') (d :: b ++ b') ≤
            editDistance (a ++ a') (b ++ b') + if c = d then 0 else 1 :=
          editDistance_cons_cons_le c d _ _
        omega
      · have hle : editDistance (c :: a ++ a') (d :: b ++ b') ≤
            editDistance (a ++ a') (d :: b ++ b') + 1 := editDistance_cons_left_le c _ _
        omega
      · have hle : editDistance (c :: a ++ a') (d :: b ++ b') ≤
            editDistance (c :: a ++ a') (b ++ b') + 1 := editDistance_cons_right_le d _ _
        omega

theorem editDistance_reverse_le (a b : List Char) :
    editDistance a.reverse b.reverse ≤ editDistance a b := by
  induction a, b using editDistance.induct with
  | case1 b => simp
  | case2 c a => simp
  | case3 c a d b hboth hleft hright =>
      have ha : (c :: a).reverse = a.reverse ++ [c] := List.reverse_cons
      have hb : (d :: b).reverse = b.reverse ++ [d] := List.reverse_cons
      rcases editDistance_cons_cons_cases c d a b with hsame | hless | hmore
      · have hle := editDistance_append_le a.reverse b.reverse [c] [d]
        have hone := editDistance_cons_cons_le c d [] []
        rw [editDistance_nil_left, List.length_nil] at hone
        rw [ha, hb]
        omega
      · have hle := editDistance_append_le a.reverse (d :: b).reverse [c] []
        rw [List.append_nil, editDistance_nil_right, List.length_singleton] at hle
        rw [ha]
        omega
      · have hle := editDistance_append_le (c :: a).reverse b.reverse [] [d]
        rw [List.append_nil, editDistance_nil_left, List.length_singleton] at hle
        rw [hb]
        omega

theorem editDistance_reverse (a b : List Char) :
    editDistance a.reverse b.reverse = editDistance a b := by
  apply le_antisymm (editDistance_reverse_le a b)
  have hback := editDistance_reverse_le a.reverse b.reverse
  rwa [List.reverse_reverse, List.reverse_reverse] at hback

end Reversal

namespace Rows

variable {rows : Rows} {c d : Char} {p b : List Char} {j : ℕ}

/-- The row that is known holds the distances of `p` to the beginnings of `b`.  The other
row has its length and may hold anything. -/
structure Holds (rows : Rows) (p b : List Char) : Prop where
  previous : ∀ j ≤ b.length, rows.previous[j]? = some (editDistance p (b.take j).reverse)
  size : rows.previous.size = b.length + 1
  spare : rows.current.size = b.length + 1

/-- The row of `c :: p` is filled in up to the entry numbered `count`. -/
structure FilledTo (rows : Rows) (c : Char) (p b : List Char) (count : ℕ) : Prop
    extends rows.Holds p b where
  current : ∀ j ≤ count,
    rows.current[j]? = some (editDistance (c :: p) (b.take j).reverse)

theorem FilledTo.fill (h : rows.FilledTo c p b j) (hd : b[j]? = some d) :
    (rows.fill c (d, j)).FilledTo c p b (j + 1) := by
  have hlt : j < b.length := (List.getElem?_eq_some_iff.mp hd).1
  have hnext : (b.take (j + 1)).reverse = d :: (b.take j).reverse := by
    rw [List.take_add_one, hd, List.reverse_append]
    rfl
  have hdiagonal : rows.previous.getD j 0 = editDistance p (b.take j).reverse := by
    rw [Array.getD_eq_getD_getElem?, h.previous j hlt.le, Option.getD_some]
  have habove : rows.previous.getD (j + 1) 0 = editDistance p (d :: (b.take j).reverse) := by
    rw [Array.getD_eq_getD_getElem?, h.previous (j + 1) hlt, hnext, Option.getD_some]
  have hleft : rows.current.getD j 0 = editDistance (c :: p) (b.take j).reverse := by
    rw [Array.getD_eq_getD_getElem?, h.current j le_rfl, Option.getD_some]
  constructor
  · constructor
    · exact h.previous
    · exact h.size
    · unfold Rows.fill
      rw [Array.size_setIfInBounds, h.spare]
  · intro k hk
    unfold Rows.fill
    simp only
    rw [Array.getElem?_setIfInBounds, h.spare, hdiagonal, habove, hleft]
    split
    · next hkj =>
      rw [if_pos (by omega), ← hkj, hnext, editDistance_cons_cons]
    · next hkj => exact h.current k (by omega)

/-- The loop along the second name fills in the rest of the row. -/
theorem FilledTo.foldl {passed rest : List Char} (hb : passed ++ rest = b)
    (h : rows.FilledTo c p b passed.length) :
    ((rest.zipIdx passed.length).foldl (Rows.fill c) rows).FilledTo c p b b.length := by
  induction rest generalizing passed rows with
  | nil =>
      rw [List.append_nil] at hb
      rw [hb] at h
      exact h
  | cons d rest ih =>
      have hd : b[passed.length]? = some d := by
        rw [← hb, List.getElem?_append_right le_rfl, Nat.sub_self]
        rfl
      have hlength : (passed ++ [d]).length = passed.length + 1 := List.length_append
      have hnext := h.fill hd
      rw [← hlength] at hnext
      have hrest := ih (by rw [List.append_assoc, ← hb]; rfl) hnext
      rw [hlength] at hrest
      exact hrest

/-- One more character of the first name. -/
theorem Holds.turn (h : rows.Holds p b) (c : Char) :
    (rows.turn b (c, p.length)).Holds (c :: p) b := by
  let begun : Rows := ⟨rows.previous, rows.current.setIfInBounds 0 (p.length + 1)⟩
  have hbegun : begun.FilledTo c p b ([] : List Char).length := by
    constructor
    · constructor
      · exact h.previous
      · exact h.size
      · rw [Array.size_setIfInBounds, h.spare]
    · intro j hj
      rw [List.length_nil, Nat.le_zero] at hj
      rw [hj, Array.getElem?_setIfInBounds, if_pos rfl, if_pos (by rw [h.spare]; omega)]
      simp
  have hfilled := hbegun.foldl (List.nil_append b)
  constructor
  · exact hfilled.current
  · exact hfilled.spare
  · exact hfilled.size

/-- The loop along the first name takes its characters in front one after the other. -/
theorem Holds.foldl (h : rows.Holds p b) (rest : List Char) :
    ((rest.zipIdx p.length).foldl (Rows.turn b) rows).Holds (rest.reverse ++ p) b := by
  induction rest generalizing p rows with
  | nil => exact h
  | cons c rest ih =>
      have hrest := ih (h.turn c)
      rw [List.length_cons] at hrest
      rw [List.reverse_cons, List.append_assoc]
      exact hrest

theorem holds_start (b : List Char) : (start b.length).Holds [] b := by
  constructor
  · intro j hj
    unfold start
    rw [Array.getElem?_range, if_pos (by omega)]
    simp [hj]
  · exact Array.size_range
  · exact Array.size_replicate

end Rows

/-- The two loops find the distance. -/
theorem edits_eq (a b : List Char) : edits a b = editDistance a b := by
  have hrows := (Rows.holds_start b).foldl a
  have hlast := hrows.previous b.length le_rfl
  rw [List.append_nil, List.take_length, editDistance_reverse] at hlast
  unfold edits
  rw [Array.getD_eq_getD_getElem?]
  exact (congrArg (Option.getD · 0) hlast).trans (Option.getD_some)

end NameDistance

open NameDistance in
/-- The distance of two names is the edit distance of their lower-case forms, divided once
by the length of the longer.  What is divided is a metric on these forms and at most the
divisor. -/
theorem nameDistance_normalized (a b : String) :
    let lower (s : String) := Text.lowerChars s.toList
    nameDistance a b =
        (if lower a = [] ∧ lower b = [] then 0
        else Float.ofNat (editDistance (lower a) (lower b)) /
          Float.ofNat (max (lower a).length (lower b).length)) ∧
      editDistance (lower a) (lower b) = editDistance (lower b) (lower a) ∧
      (∀ c, editDistance (lower a) (lower c) ≤
        editDistance (lower a) (lower b) + editDistance (lower b) (lower c)) ∧
      editDistance (lower a) (lower b) ≤ max (lower a).length (lower b).length ∧
      (editDistance (lower a) (lower b) = 0 ↔ lower a = lower b) := by
  intro lower
  have hempty : max (lower a).length (lower b).length = 0 ↔ lower a = [] ∧ lower b = [] := by
    rw [Nat.max_eq_zero_iff, List.length_eq_zero_iff, List.length_eq_zero_iff]
  refine ⟨?_, editDistance_comm _ _, fun c => editDistance_triangle _ _ _,
    editDistance_le_max _ _, editDistance_eq_zero_iff⟩
  unfold nameDistance
  simp only [edits_eq]
  exact if_congr hempty rfl rfl

end Refit
