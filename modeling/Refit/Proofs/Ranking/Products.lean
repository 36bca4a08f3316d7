import Refit.Proofs.Decimal.Addition
import Refit.Proofs.Ranking.Pruning

/-!
# Products of pruned lists

A product goes through its lists in lexicographic order.  It begins with the first
candidates of all lists, and the product of pruned lists is a part of the whole
one, in the same order.  When each list begins with its best candidate, no other
choice has more direct matches, nor as many of them and a lesser distance.
-/

namespace Refit

namespace Combinations

theorem head?_distinct (candidates : List Candidate) :
    (distinct candidates).head? = candidates.head? := by
  cases candidates <;> rfl

theorem head?_rows (lists : List (List Candidate)) :
    (rows lists).head? = some (lists.map List.head?) := by
  induction lists with
  | nil => rfl
  | cons list lists ih =>
      cases list with
      | nil => rw [rows, List.head?_map, ih]; rfl
      | cons first rest =>
          obtain ⟨others, hrows⟩ := List.head?_eq_some_iff.mp ih
          have hproduct : rows ((first :: rest) :: lists) =
              (first :: rest).flatMap fun c => (rows lists).map (some c :: ·) := rfl
          rw [hproduct, List.flatMap_cons, hrows]
          rfl

theorem head?_rows_distinct (lists : List (List Candidate)) :
    (rows (lists.map distinct)).head? = some (lists.map List.head?) := by
  rw [head?_rows, List.map_map]
  simp only [Function.comp_def, head?_distinct]

theorem rows_sublist
    {parts wholes : List (List Candidate)} (htrims : List.Forall₂ Trims parts wholes) :
    (rows (parts.map distinct)).Sublist (rows (wholes.map distinct)) := by
  induction htrims with
  | nil => exact List.Sublist.refl _
  | @cons part whole parts wholes htrims _ ih =>
      have hhead := htrims.head
      have hdistinct := htrims.distinct
      cases part with
      | nil =>
          cases whole with
          | nil => exact ih.map _
          | cons first rest => cases hhead
      | cons first rest =>
          cases whole with
          | nil => cases hhead
          | cons first' rest' =>
              simp only [List.map_cons]
              refine (List.Sublist.flatMap hdistinct _).trans ?_
              exact List.Sublist.flatMap_right _ fun c _ => ih.map _

end Combinations

section Sums

/-- The distances of some candidates are finite numbers. -/
def FiniteDistances (candidates : List Candidate) : Prop :=
  ∀ c ∈ candidates, c.distance.toFloat.isFinite = true

/-- No candidate is farther than the one in its place. -/
def Nearer (as bs : List Candidate) : Prop :=
  List.Forall₂ (fun a b => a.distance.rank ≤ b.distance.rank) as bs

theorem order_foldl_le
    {as bs : List Candidate} (hnearer : Nearer as bs) (has : FiniteDistances as)
    (hbs : FiniteDistances bs) {x y : Float} (hx : x.isNaN = false)
    (hy : y.isNaN = false) (hxy : Double.order x ≤ Double.order y) :
    Double.order (as.foldl (fun sum c => sum + c.distance.toFloat) x) ≤
      Double.order (bs.foldl (fun sum c => sum + c.distance.toFloat) y) := by
  unfold Nearer at hnearer
  induction hnearer generalizing x y with
  | nil => exact hxy
  | @cons a b as bs hab _ ih =>
      have ha : a.distance.toFloat.isFinite = true := has a List.mem_cons_self
      have hb : b.distance.toFloat.isFinite = true := hbs b List.mem_cons_self
      have hdistance : Double.order a.distance.toFloat ≤ Double.order b.distance.toFloat := by
        rw [Double.order_toFloat ha, Double.order_toFloat hb]
        exact hab
      exact ih (fun c hc => has c (List.mem_cons_of_mem a hc))
        (fun c hc => hbs c (List.mem_cons_of_mem b hc))
        (Double.isNaN_add hx ha) (Double.isNaN_add hy hb)
        (Double.order_add_le hx hy ha hb hxy hdistance)

theorem totalDistance_le
    {as bs : List Candidate} (hnearer : Nearer as bs) (has : FiniteDistances as)
    (hbs : FiniteDistances bs) :
    Double.order (totalDistance as) ≤ Double.order (totalDistance bs) :=
  order_foldl_le hnearer has hbs rfl rfl le_rfl

theorem directCount_cons (c : Candidate) (candidates : List Candidate) :
    directCount (c :: candidates) =
      directCount candidates + if c.isDirect = true then 1 else 0 :=
  List.countP_cons

theorem directCount_of_ahead
    {as bs : List Candidate} (hahead : List.Forall₂ Candidate.Ahead as bs) :
    directCount bs ≤ directCount as ∧
      (directCount bs = directCount as → Nearer as bs) := by
  induction hahead with
  | nil => exact ⟨le_rfl, fun _ => .nil⟩
  | @cons a b as bs hab _ ih =>
      obtain ⟨hcount, hnearer⟩ := ih
      obtain ⟨hdirect, hdistance⟩ := hab
      rw [directCount_cons, directCount_cons]
      by_cases ha : a.isDirect = true
      · by_cases hb : b.isDirect = true
        · rw [if_pos ha, if_pos hb]
          refine ⟨by omega, fun heq => ?_⟩
          exact .cons (hdistance (ha.trans hb.symm)) (hnearer (by omega))
        · rw [if_pos ha, if_neg hb]
          exact ⟨by omega, fun heq => by omega⟩
      · have hb : b.isDirect ≠ true := fun hb => ha (hdirect hb)
        rw [if_neg ha, if_neg hb]
        refine ⟨hcount, fun heq => ?_⟩
        have hsame : a.isDirect = b.isDirect := by
          rw [Bool.eq_false_of_not_eq_true ha, Bool.eq_false_of_not_eq_true hb]
        exact .cons (hdistance hsame) (hnearer heq)

end Sums

end Refit
