import Refit.Proofs.Ranking.Repetitions
import Refit.Proofs.Traversal

/-!
# The product of the candidates

Of equal candidates of a list the first one is kept.  There is one assignment for each way
to choose from what is kept of every list, a list without candidates offers none, and the
assignments come in the lexicographic order of the places in the lists.
-/

namespace Refit

namespace Candidate

/-- What makes two candidates the same: all but the distance. -/
def glue (c : Candidate) : ℕ × Member × List ℕ × List Conversion × Conversion :=
  (c.operation, c.member, c.positions, c.conversions, c.returnConversion)

theorem same_iff {c d : Candidate} : c.same d = true ↔ c.glue = d.glue := by
  simp only [same, glue, Bool.and_eq_true, beq_iff_eq, Prod.mk.injEq, and_assoc]

theorem same_congr {c d : Candidate} (hglue : c.glue = d.glue) (e : Candidate) :
    e.same c = e.same d := by
  rw [Bool.eq_iff_iff, same_iff, same_iff, hglue]

end Candidate

namespace Combinations

open Candidate

variable {c d : Candidate} {list : List Candidate} {lists : List (List Candidate)}
  {choice : Option Candidate} {row : List (Option Candidate)}

/-- The choice of the first of several equal candidates of a list, or of none if the list
has none. -/
def Chosen (choice : Option Candidate) (list : List Candidate) : Prop :=
  match choice with
  | none => list = []
  | some c => list.find? (·.same c) = some c

/-- The place of a choice in its list. -/
def place (list : List Candidate) (choice : Option Candidate) : ℕ :=
  match choice with
  | none => 0
  | some c => list.findIdx (·.same c)

/-- The places of the choices, list by list. -/
def places (lists : List (List Candidate)) (row : List (Option Candidate)) : List ℕ :=
  List.zipWith place lists row

theorem mem_distinct_iff : c ∈ distinct list ↔ list.find? (·.same c) = some c := by
  rw [distinct_eq_firsts, mem_firsts_iff same_refl]

theorem pairwise_distinct (list : List Candidate) :
    (distinct list).Pairwise fun c d => place list (some c) < place list (some d) := by
  rw [distinct_eq_firsts]
  exact pairwise_findIdx_firsts same_refl list

theorem length_distinct (list : List Candidate) :
    (distinct list).length = (list.map glue).toFinset.card := by
  have hnodup : ((distinct list).map glue).Nodup := by
    rw [List.nodup_iff_pairwise_ne, List.pairwise_map]
    refine (pairwise_distinct list).imp ?_
    intro c d hlt hglue
    simp only [place, same_congr hglue] at hlt
    exact lt_irrefl _ hlt
  have hmem : ∀ g, g ∈ (distinct list).map glue ↔ g ∈ list.map glue := by
    intro g
    rw [List.mem_map, List.mem_map]
    constructor
    · rintro ⟨c, hc, rfl⟩
      exact ⟨c, List.mem_of_find?_eq_some (mem_distinct_iff.mp hc), rfl⟩
    · rintro ⟨c, hc, rfl⟩
      cases hfirst : list.find? (·.same c) with
      | none => exact absurd c.same_refl (List.find?_eq_none.mp hfirst c hc)
      | some d =>
          have hsame := List.find?_some hfirst
          have hglue : d.glue = c.glue := same_iff.mp hsame
          refine ⟨d, mem_distinct_iff.mpr ?_, hglue⟩
          simp only [same_congr hglue]
          exact hfirst
  calc (distinct list).length
      = ((distinct list).map glue).toFinset.card := by
        rw [List.toFinset_card_of_nodup hnodup, List.length_map]
    _ = (list.map glue).toFinset.card := by
        congr 1
        ext g
        rw [List.mem_toFinset, List.mem_toFinset, hmem]

/-- The choices that a list offers, in the order of their places. -/
def choices : List Candidate → List (Option Candidate)
  | [] => [none]
  | list => (distinct list).map some

theorem choices_cons (c : Candidate) (rest : List Candidate) :
    choices (c :: rest) = (distinct (c :: rest)).map some := rfl

theorem mem_choices_iff : choice ∈ choices list ↔ Chosen choice list := by
  cases list with
  | nil =>
      cases choice with
      | none => simp [choices, Chosen]
      | some c => simp [choices, Chosen]
  | cons d rest =>
      rw [choices_cons, List.mem_map]
      cases choice with
      | none => simp [Chosen]
      | some c =>
          rw [Chosen, ← mem_distinct_iff]
          simp

theorem pairwise_choices (list : List Candidate) :
    (choices list).Pairwise fun a b => place list a < place list b := by
  cases list with
  | nil => exact List.pairwise_singleton _ _
  | cons c rest =>
      rw [choices_cons, List.pairwise_map]
      exact pairwise_distinct (c :: rest)

theorem length_choices (list : List Candidate) :
    (choices list).length = max (list.map glue).toFinset.card 1 := by
  cases list with
  | nil => rfl
  | cons c rest =>
      have hpositive : 1 ≤ (distinct (c :: rest)).length := Nat.succ_pos _
      rw [choices_cons, List.length_map, ← length_distinct, max_eq_left hpositive]

theorem rows_distinct_cons (list : List Candidate) (lists : List (List Candidate)) :
    rows ((list :: lists).map distinct) =
      (choices list).flatMap fun choice => (rows (lists.map distinct)).map (choice :: ·) := by
  cases list with
  | nil => rw [choices, List.flatMap_singleton, List.map_cons, distinct, rows]
  | cons c rest =>
      rw [choices_cons, List.flatMap_map]
      rfl

theorem mem_rows_iff :
    row ∈ rows (lists.map distinct) ↔ List.Forall₂ Chosen row lists := by
  induction lists generalizing row with
  | nil => simp [rows]
  | cons list lists ih =>
      rw [rows_distinct_cons, List.forall₂_cons_right_iff]
      simp only [List.mem_flatMap, List.mem_map, mem_choices_iff, ih]
      constructor
      · rintro ⟨choice, hchoice, rest, hrest, rfl⟩
        exact ⟨choice, rest, hchoice, hrest, rfl⟩
      · rintro ⟨choice, rest, hchoice, hrest, rfl⟩
        exact ⟨choice, hchoice, rest, hrest, rfl⟩

theorem pairwise_rows (lists : List (List Candidate)) :
    ((rows (lists.map distinct)).map (places lists)).Pairwise (· < ·) := by
  induction lists with
  | nil => exact List.pairwise_singleton _ _
  | cons list lists ih =>
      have hplaces : (rows ((list :: lists).map distinct)).map (places (list :: lists)) =
          (choices list).flatMap fun choice =>
            ((rows (lists.map distinct)).map (places lists)).map (place list choice :: ·) := by
        rw [rows_distinct_cons, List.map_flatMap]
        simp only [List.map_map]
        rfl
      rw [hplaces]
      exact pairwise_flatMap_cons (pairwise_choices list) fun _ _ => ih

theorem length_rows (lists : List (List Candidate)) :
    (rows (lists.map distinct)).length =
      (lists.map fun list => max (list.map glue).toFinset.card 1).prod := by
  induction lists with
  | nil => rfl
  | cons list lists ih =>
      rw [rows_distinct_cons, List.length_flatMap]
      simp only [List.length_map, ih, List.map_const', List.sum_replicate, length_choices,
        List.map_cons, List.prod_cons, smul_eq_mul]

/-- Exactly one assignment for each way to choose, in lexicographic order, and no two of
them equal. -/
theorem exhaustive_product (initializers : List Initializer) (lists : List (List Candidate)) :
    (∀ a, a ∈ exhaustive initializers lists ↔
      a.initializers = initializers ∧ List.Forall₂ Chosen a.methods lists) ∧
      ((exhaustive initializers lists).map fun a => places lists a.methods).Pairwise (· < ·) ∧
      (exhaustive initializers lists).length =
        (lists.map fun list => max (list.map glue).toFinset.card 1).prod ∧
      (exhaustive initializers lists).Pairwise fun a b => a.same b = false := by
  constructor
  · intro a
    rw [exhaustive_eq, List.mem_map]
    constructor
    · rintro ⟨row, hrow, rfl⟩
      exact ⟨rfl, mem_rows_iff.mp hrow⟩
    · rintro ⟨rfl, hmethods⟩
      exact ⟨a.methods, mem_rows_iff.mpr hmethods, rfl⟩
  constructor
  · rw [exhaustive_eq, List.map_map]
    exact pairwise_rows lists
  constructor
  · rw [exhaustive_eq, List.length_map]
    exact length_rows lists
  · rw [exhaustive_eq, ← firsts_rows, List.pairwise_map]
    refine (pairwise_firsts sameRow (rows lists)).imp ?_
    intro as bs hother
    rw [Assignment.same, Bool.and_eq_false_iff]
    exact .inr hother

end Combinations

end Refit
