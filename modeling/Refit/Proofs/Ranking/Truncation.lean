import Refit.Proofs.Ranking.Choices

/-!
# Cutting lists down to a ceiling

While there are too many ways to choose, the longest list loses its last candidate, the
last of several longest ones.  The turns come to an end, and what they leave is within the
ceiling.  No turn is taken without need: the lists that are cut are cut to about the same
length, and before the last turn the ceiling was exceeded.
-/

namespace Refit

namespace Combinations

variable {ceiling size factor : ℕ} {list : List Candidate} {lists next : List (List Candidate)}

/-- The number of ways to choose from the lists, however large it is. -/
def ways (lists : List (List Candidate)) : ℕ := (lists.map fun list => max list.length 1).prod

theorem ways_cons (list : List Candidate) (lists : List (List Candidate)) :
    ways (list :: lists) = max list.length 1 * ways lists := by
  rw [ways, List.map_cons, List.prod_cons]
  rfl

/-- Where sizes stop, they may as well stop before each multiplication. -/
theorem min_min_mul (hfactor : 1 ≤ factor) :
    min greatestSize (min greatestSize size * factor) = min greatestSize (size * factor) := by
  rcases le_total greatestSize size with hle | hle
  · have hleft : greatestSize ≤ greatestSize * factor := Nat.le_mul_of_pos_right _ hfactor
    have hright : greatestSize ≤ size * factor := hle.trans (Nat.le_mul_of_pos_right _ hfactor)
    rw [min_eq_left hle, min_eq_left hleft, min_eq_left hright]
  · rw [min_eq_right hle]

theorem foldl_choiceCount (size : ℕ) (lists : List (List Candidate)) :
    lists.foldl (fun size list => min greatestSize (size * max list.length 1))
        (min greatestSize size) =
      min greatestSize (size * ways lists) := by
  induction lists generalizing size with
  | nil => rw [List.foldl_nil, ways, List.map_nil, List.prod_nil, mul_one]
  | cons list lists ih =>
      rw [List.foldl_cons, min_min_mul (le_max_right _ _), ih, ways_cons, mul_assoc]

theorem choiceCount_eq_min (lists : List (List Candidate)) :
    choiceCount lists = min greatestSize (ways lists) := by
  calc choiceCount lists
      = min greatestSize (1 * ways lists) := foldl_choiceCount 1 lists
    _ = min greatestSize (ways lists) := by rw [one_mul]

theorem ceiling_lt_ways (h : ceiling < choiceCount lists) : ceiling < ways lists := by
  rw [choiceCount_eq_min] at h
  exact h.trans_le (min_le_right _ _)

theorem ways_le_ceiling (hbound : ceiling < greatestSize) (h : choiceCount lists ≤ ceiling) :
    ways lists ≤ ceiling := by
  rw [choiceCount_eq_min, min_le_iff] at h
  omega

theorem length_exhaustive_le (initializers : List Initializer) (lists : List (List Candidate)) :
    (exhaustive initializers lists).length ≤ ways lists := by
  rw [exhaustive_eq, List.length_map, length_rows, ways]
  apply List.prod_le_prod'
  intro list _
  have hcard : (list.map Candidate.glue).toFinset.card ≤ list.length := by
    calc (list.map Candidate.glue).toFinset.card
        ≤ (list.map Candidate.glue).length := List.toFinset_card_le _
      _ = list.length := List.length_map _
  exact max_le_max hcard le_rfl

namespace Caps

/-- One turn, which is taken only if there are too many ways to choose: a list of two
candidates or more loses the last, the list being the last of the longest ones. -/
def Turn (ceiling : ℕ) (lists next : List (List Candidate)) : Prop :=
  ceiling < choiceCount lists ∧ ∃ i list, lists[i]? = some list ∧ 2 ≤ list.length ∧
    (∀ other ∈ lists, other.length ≤ list.length) ∧
    (∀ j other, i < j → lists[j]? = some other → other.length < list.length) ∧
    next = lists.set i list.dropLast

theorem longest_cons (list : List Candidate) (lists : List (List Candidate)) :
    longest (list :: lists) = max list.length (longest lists) := by
  have hfrom : ∀ size, lists.foldl (fun n list => max n list.length) size =
      max size (longest lists) := by
    unfold longest
    induction lists with
    | nil => exact fun size => (max_eq_left (Nat.zero_le size)).symm
    | cons list lists ih =>
        intro size
        rw [List.foldl_cons, List.foldl_cons, ih, ih (max 0 list.length), Nat.zero_max, max_assoc]
  rw [longest, List.foldl_cons, hfrom, Nat.zero_max]

theorem length_le_longest (hlist : list ∈ lists) : list.length ≤ longest lists := by
  induction lists with
  | nil => cases hlist
  | cons other rest ih =>
      rw [longest_cons]
      rcases List.mem_cons.mp hlist with rfl | hrest
      · exact le_max_left _ _
      · exact (ih hrest).trans (le_max_right _ _)

theorem exists_longest (h : 0 < longest lists) : ∃ list ∈ lists, list.length = longest lists := by
  induction lists with
  | nil => cases h
  | cons other rest ih =>
      rw [longest_cons] at h ⊢
      rcases le_total (longest rest) other.length with hle | hle
      · rw [max_eq_left hle]
        exact ⟨other, List.mem_cons_self, rfl⟩
      · rw [max_eq_right hle] at h ⊢
        rcases ih h with ⟨list, hlist, hlength⟩
        exact ⟨list, List.mem_cons_of_mem other hlist, hlength⟩

/-- The last list of a length that occurs is the one that loses its last candidate. -/
theorem dropFromLast_eq_set {length : ℕ} (h : ∃ list ∈ lists, list.length = length) :
    ∃ i list, lists[i]? = some list ∧ list.length = length ∧
      (∀ j other, i < j → lists[j]? = some other → other.length ≠ length) ∧
      dropFromLast length lists = lists.set i list.dropLast := by
  induction lists with
  | nil =>
      rcases h with ⟨list, hlist, -⟩
      cases hlist
  | cons list rest ih =>
      by_cases hlater : ∃ other ∈ rest, other.length = length
      · rcases ih hlater with ⟨i, other, hi, hlength, hlast, hdrop⟩
        have hskip : (rest.any (·.length == length) || list.length ≠ length) = true := by
          simpa using Or.inl hlater
        refine ⟨i + 1, other, hi, hlength, ?_, ?_⟩
        · intro j last hij hj
          cases j with
          | zero => cases hij
          | succ j => exact hlast j last (Nat.lt_of_succ_lt_succ hij) hj
        · rw [dropFromLast, if_pos hskip, hdrop]
          rfl
      · have hlength : list.length = length := by
          rcases h with ⟨other, hother, hlength⟩
          rcases List.mem_cons.mp hother with rfl | hrest
          · exact hlength
          · exact absurd ⟨other, hrest, hlength⟩ hlater
        have htaken : ¬ (rest.any (·.length == length) || list.length ≠ length) = true := by
          simpa [hlength] using hlater
        refine ⟨0, list, rfl, hlength, ?_, ?_⟩
        · intro j last hj hlast hsame
          cases j with
          | zero => cases hj
          | succ j => exact hlater ⟨last, List.mem_of_getElem? hlast, hsame⟩
        · rw [dropFromLast, if_neg htaken]
          rfl

theorem turn_dropFromLast (hcount : ceiling < choiceCount lists) (hlongest : 1 < longest lists) :
    Turn ceiling lists (dropFromLast (longest lists) lists) := by
  rcases dropFromLast_eq_set (exists_longest (Nat.zero_lt_of_lt hlongest)) with
    ⟨i, list, hi, hlength, hlast, hdrop⟩
  refine ⟨hcount, i, list, hi, by omega, ?_, ?_, hdrop⟩
  · intro other hother
    rw [hlength]
    exact length_le_longest hother
  · intro j other hij hj
    have hne := hlast j other hij hj
    have hle := length_le_longest (List.mem_of_getElem? hj)
    omega

theorem Turn.longest (h : Turn ceiling lists next) : 1 < longest lists := by
  rcases h with ⟨-, i, list, hi, hlength, -⟩
  have hle := length_le_longest (List.mem_of_getElem? hi)
  omega

section Turns

/-- The number of candidates in all lists. -/
def total (lists : List (List Candidate)) : ℕ := lists.foldr (·.length + ·) 0

theorem total_cons (list : List Candidate) (lists : List (List Candidate)) :
    total (list :: lists) = list.length + total lists := rfl

theorem length_le_total (hlist : list ∈ lists) : list.length ≤ total lists := by
  induction lists with
  | nil => cases hlist
  | cons other rest ih =>
      rw [total_cons]
      rcases List.mem_cons.mp hlist with rfl | hrest
      · exact Nat.le_add_right _ _
      · exact (ih hrest).trans (Nat.le_add_left _ _)

theorem total_set_dropLast {i : ℕ} (hi : lists[i]? = some list) (hlist : 0 < list.length) :
    total (lists.set i list.dropLast) + 1 = total lists := by
  induction lists generalizing i with
  | nil => cases hi
  | cons other rest ih =>
      cases i with
      | zero =>
          cases hi
          rw [List.set_cons_zero, total_cons, total_cons, List.length_dropLast]
          omega
      | succ i =>
          rw [List.set_cons_succ, total_cons, total_cons, ← ih hi]
          omega

theorem Turn.total (h : Turn ceiling lists next) : total next + 1 = total lists := by
  rcases h with ⟨-, i, list, hi, hlength, -, -, rfl⟩
  exact total_set_dropLast hi (by omega)

theorem shrink_reaches (ceiling fuel : ℕ) (lists : List (List Candidate)) :
    Relation.ReflTransGen (Turn ceiling) lists (shrink ceiling fuel lists) := by
  induction fuel generalizing lists with
  | zero => exact .refl
  | succ fuel ih =>
      unfold shrink
      split
      · exact .refl
      · next hcount =>
        split
        · exact .refl
        · next hlongest =>
          have hturn := turn_dropFromLast (Nat.lt_of_not_le hcount) (Nat.lt_of_not_le hlongest)
          exact .head hturn (ih _)

/-- Each turn drops a candidate, so as many turns as there are candidates suffice. -/
theorem shrink_stops {fuel : ℕ} (hfuel : total lists ≤ fuel) :
    ¬ Turn ceiling (shrink ceiling fuel lists) next := by
  induction fuel generalizing lists with
  | zero =>
      rintro ⟨-, i, list, hi, hlength, -⟩
      have hle : list.length ≤ total lists := length_le_total (List.mem_of_getElem? hi)
      omega
  | succ fuel ih =>
      unfold shrink
      split
      · next hcount => exact fun hturn => absurd hturn.1 (Nat.not_lt.mpr hcount)
      · next hcount =>
        split
        · next hlongest => exact fun hturn => absurd hturn.longest (Nat.not_lt.mpr hlongest)
        · next hlongest =>
          have hturn := turn_dropFromLast (Nat.lt_of_not_le hcount) (Nat.lt_of_not_le hlongest)
          have hdropped := hturn.total
          exact ih (by omega)

/-- Where no turn is possible, the ceiling is kept. -/
theorem choiceCount_le_of_stops (hceiling : 1 ≤ ceiling) (h : ∀ next, ¬ Turn ceiling lists next) :
    choiceCount lists ≤ ceiling := by
  by_contra hcount
  have hlongest : longest lists ≤ 1 := by
    by_contra hlongest
    exact h _ (turn_dropFromLast (Nat.lt_of_not_le hcount) (Nat.lt_of_not_le hlongest))
  have hways : ways lists = 1 := by
    apply List.prod_eq_one
    intro size hsize
    rcases List.mem_map.mp hsize with ⟨list, hlist, rfl⟩
    exact max_eq_right ((length_le_longest hlist).trans hlongest)
  have hone : 1 < ways lists := hceiling.trans_lt (ceiling_lt_ways (Nat.lt_of_not_le hcount))
  omega

end Turns

/-- What is left of the lists: a part of each that begins as it does and that is not empty
unless it was, and no list is longer by two than one that was cut. -/
structure LeftOf (start lists : List (List Candidate)) : Prop where
  parts : List.Forall₂ (fun part whole => part <+: whole ∧ (whole ≠ [] → part ≠ [])) lists start
  level : ∀ (i : ℕ) (part : List Candidate), lists[i]? = some part → start[i]? ≠ some part →
    ∀ other ∈ lists, other.length ≤ part.length + 1

theorem LeftOf.refl (lists : List (List Candidate)) : LeftOf lists lists where
  parts := List.forall₂_same.mpr fun list _ => ⟨List.prefix_refl list, id⟩
  level := fun _ _ hi hcut _ _ => absurd hi hcut

theorem LeftOf.turn {start : List (List Candidate)} (h : LeftOf start lists)
    (hturn : Turn ceiling lists next) : LeftOf start next := by
  rcases hturn with ⟨-, i, list, hi, hlength, hlongest, -, rfl⟩
  have hdropped : list.dropLast.length + 1 = list.length := by
    rw [List.length_dropLast]
    omega
  have hshorter : ∀ other ∈ lists.set i list.dropLast, other.length ≤ list.length := by
    intro other hother
    rcases List.mem_or_eq_of_mem_set hother with hother | rfl
    · exact hlongest other hother
    · omega
  constructor
  · refine forall₂_set_left h.parts hi ?_
    rintro whole ⟨hbegins, -⟩
    constructor
    · exact (List.dropLast_prefix list).trans hbegins
    · intro _ hempty
      rw [hempty] at hdropped
      simp at hdropped
      omega
  · intro j part hj hcut other hother
    by_cases hij : i = j
    · subst hij
      have hpart : part = list.dropLast := by
        rw [List.getElem?_set_self (List.getElem?_eq_some_iff.mp hi).1] at hj
        exact (Option.some.inj hj).symm
      rw [hpart, hdropped]
      exact hshorter other hother
    · rw [List.getElem?_set_ne hij] at hj
      rcases List.mem_or_eq_of_mem_set hother with hother | rfl
      · exact h.level j part hj hcut other hother
      · have hle := h.level j part hj hcut list (List.mem_of_getElem? hi)
        omega

theorem LeftOf.reaches {start : List (List Candidate)}
    (h : Relation.ReflTransGen (Turn ceiling) start lists) : LeftOf start lists := by
  induction h with
  | refl => exact LeftOf.refl start
  | tail _ hturn ih => exact ih.turn hturn

section Fit

variable {caps : Caps}

theorem fit_reaches (caps : Caps) (lists : List (List Candidate)) :
    Relation.ReflTransGen (Turn caps.ceiling) lists (caps.fit lists) := by
  unfold fit
  split
  · exact shrink_reaches _ _ lists
  · exact .refl

theorem fit_stops (htruncate : caps.truncate = true) (lists next : List (List Candidate)) :
    ¬ Turn caps.ceiling (caps.fit lists) next := by
  rw [fit, if_pos htruncate]
  exact shrink_stops le_rfl

/-- The lists after the last turn are within the ceiling, and before it they were not. -/
theorem exists_before_fit (hcut : caps.fit lists ≠ lists) :
    ∃ before, Relation.ReflTransGen (Turn caps.ceiling) lists before ∧
      Turn caps.ceiling before (caps.fit lists) ∧ caps.ceiling < ways before := by
  rcases Relation.ReflTransGen.cases_tail (fit_reaches caps lists) with
    hsame | ⟨before, hbefore, hturn⟩
  · exact absurd hsame hcut
  · exact ⟨before, hbefore, hturn, ceiling_lt_ways hturn.1⟩

theorem length_assignments_le (htruncate : caps.truncate = true) (hceiling : 1 ≤ caps.ceiling)
    (hbound : caps.ceiling < greatestSize) (initializers : List Initializer)
    (lists : List (List Candidate)) :
    (caps.assignments initializers lists).length ≤ caps.ceiling := by
  have hcount : choiceCount (caps.fit (caps.filter lists)) ≤ caps.ceiling :=
    choiceCount_le_of_stops hceiling fun next => fit_stops htruncate _ next
  calc (caps.assignments initializers lists).length
      ≤ ways (caps.fit (caps.filter lists)) := length_exhaustive_le _ _
    _ ≤ caps.ceiling := ways_le_ceiling hbound hcount

end Fit

/-- Lists with too many ways to choose are cut turn by turn, no further than the ceiling
asks for. -/
theorem truncation_minimal (caps : Caps) (htruncate : caps.truncate = true)
    (hceiling : 1 ≤ caps.ceiling) (hbound : caps.ceiling < 2 ^ 64 - 1)
    (initializers : List Initializer) (lists : List (List Candidate)) :
    (caps.assignments initializers lists).length ≤ caps.ceiling ∧
      Relation.ReflTransGen (Turn caps.ceiling) (caps.filter lists)
        (caps.fit (caps.filter lists)) ∧
      (∀ next, ¬ Turn caps.ceiling (caps.fit (caps.filter lists)) next) ∧
      LeftOf (caps.filter lists) (caps.fit (caps.filter lists)) ∧
      (caps.fit (caps.filter lists) ≠ caps.filter lists → ∃ before,
        Relation.ReflTransGen (Turn caps.ceiling) (caps.filter lists) before ∧
          Turn caps.ceiling before (caps.fit (caps.filter lists)) ∧
          caps.ceiling < ways before) ∧
      ∀ counted, choiceCount counted =
        if ways counted < 2 ^ 64 - 1 then ways counted else 2 ^ 64 - 1 := by
  have hreaches := fit_reaches caps (caps.filter lists)
  constructor
  · exact length_assignments_le htruncate hceiling hbound initializers lists
  constructor
  · exact hreaches
  constructor
  · intro next
    exact fit_stops htruncate _ next
  constructor
  · exact LeftOf.reaches hreaches
  constructor
  · exact exists_before_fit
  · intro counted
    rw [choiceCount_eq_min]
    have hgreatest : greatestSize = 2 ^ 64 - 1 := rfl
    rw [hgreatest]
    split
    · next hless => exact min_eq_right hless.le
    · next hmore => exact min_eq_left (Nat.le_of_not_lt hmore)

end Caps

end Combinations

namespace Samples

/-- Two candidates, the better one first. -/
def pair : List Candidate :=
  [{ member := { name := "pop" }, positions := [], conversions := [] },
    { member := { name := "push" }, positions := [], conversions := [] }]

def threeWays : Combinations.Caps := ⟨2, 1, 3, true⟩

theorem filter_pairs : threeWays.filter [pair, pair] = [pair, pair] := by
  have hranked : Candidate.rank pair = pair := List.mergeSort_of_pairwise (by decide)
  simp only [Combinations.Caps.filter, List.map_cons, List.map_nil, hranked]
  rfl

end Samples

open Combinations Samples in
theorem Combinations.Caps.truncation_minimal_pairs :
    (threeWays.assignments [.static] [pair, pair]).length ≤ 3 ∧
      ∃ before, Turn 3 before (threeWays.fit (threeWays.filter [pair, pair])) ∧
        3 < ways before := by
  rcases truncation_minimal threeWays rfl (by decide) (by decide) [.static] [pair, pair] with
    ⟨hlength, -, -, -, hcut, -⟩
  have hfit : threeWays.fit (threeWays.filter [pair, pair]) ≠ threeWays.filter [pair, pair] := by
    rw [filter_pairs]
    intro hsame
    have hlengths := congrArg (List.map List.length) hsame
    revert hlengths
    decide
  rcases hcut hfit with ⟨before, -, hturn, hways⟩
  exact ⟨hlength, before, hturn, hways⟩

end Refit
