import Refit.Proofs.Firsts
import Refit.Ranking.Combinations

/-!
# Repeated rows

The exhaustive search grows the rows of a product from left to right, and of several
equal rows the first one counts.  It does not matter whether the whole product is gone
through with a set of the rows that were seen, or equal candidates are dropped from each
list beforehand.
-/

namespace Refit

section Unseen

variable {α : Type*} {r : α → α → Bool}

theorem unseen_eq
    (htrans : ∀ a b c, r a b = true → r b c = true → r a c = true)
    (seen as : List α) :
    unseen r seen as = (firsts r as).filter fun a => !seen.any (r · a) := by
  induction as generalizing seen with
  | nil => rfl
  | cons a rest ih =>
      rw [unseen, firsts, List.filter_cons]
      cases hseen : seen.any (r · a) with
      | true =>
          simp only [if_true, Bool.not_true, Bool.false_eq_true, if_false]
          rw [ih, List.filter_filter]
          refine List.filter_congr fun b _ => ?_
          -- What is equal to `a` is equal to what `a` is equal to.
          cases hab : r a b with
          | false => simp
          | true =>
              obtain ⟨s, hs, hsa⟩ := List.any_eq_true.mp hseen
              have hb : seen.any (r · b) = true :=
                List.any_eq_true.mpr ⟨s, hs, htrans s a b hsa hab⟩
              simp [hb]
      | false =>
          simp only [Bool.false_eq_true, if_false, Bool.not_false, if_true]
          rw [ih, List.filter_filter]
          congr 1
          refine List.filter_congr fun b _ => ?_
          rw [List.any_cons, Bool.not_or, Bool.and_comm]

theorem unseen_nil
    (htrans : ∀ a b c, r a b = true → r b c = true → r a c = true) (as : List α) :
    unseen r [] as = firsts r as := by
  rw [unseen_eq htrans]
  exact List.filter_eq_self.mpr fun _ _ => rfl

theorem firsts_map
    {β : Type*} {r' : β → β → Bool} {f : α → β}
    (hf : ∀ a b, r' (f a) (f b) = r a b) (as : List α) :
    firsts r' (as.map f) = (firsts r as).map f := by
  induction as with
  | nil => rfl
  | cons a rest ih =>
      rw [List.map_cons, firsts, firsts, ih, List.map_cons, List.filter_map]
      congr 3
      funext b
      simp only [Function.comp_apply, hf]

theorem unseen_map
    {β : Type*} {r' : β → β → Bool} {f : α → β}
    (hf : ∀ a b, r' (f a) (f b) = r a b) (as : List α) :
    unseen r' [] (as.map f) = (unseen r [] as).map f := by
  have hseen : ∀ seen, unseen r' (seen.map f) (as.map f) = (unseen r seen as).map f := by
    induction as with
    | nil => exact fun _ => rfl
    | cons a as ih =>
        intro seen
        have hany : (seen.map f).any (r' · (f a)) = seen.any (r · a) := by
          rw [List.any_map]
          simp only [Function.comp_def, hf]
        rw [List.map_cons, unseen, unseen, hany, ih, ← List.map_cons, ih]
        split_ifs <;> rfl
  exact hseen []

end Unseen

section Entries

variable {α : Type*} {r : α → α → Bool}

theorem isEqv_refl (hrefl : ∀ a, r a a = true) (as : List α) : as.isEqv as r = true := by
  induction as with
  | nil => rfl
  | cons a as ih => rw [List.isEqv, hrefl, ih, Bool.and_self]

theorem isEqv_trans
    (htrans : ∀ a b c, r a b = true → r b c = true → r a c = true) {as bs cs : List α}
    (hab : as.isEqv bs r = true) (hbc : bs.isEqv cs r = true) : as.isEqv cs r = true := by
  induction as generalizing bs cs with
  | nil =>
      cases bs with
      | nil => exact hbc
      | cons b bs => cases hab
  | cons a as ih =>
      cases bs with
      | nil => cases hab
      | cons b bs =>
          cases cs with
          | nil => cases hbc
          | cons c cs =>
              rw [List.isEqv, Bool.and_eq_true] at hab hbc ⊢
              exact ⟨htrans a b c hab.1 hbc.1, ih hab.2 hbc.2⟩

end Entries

namespace Candidate

theorem same_refl (c : Candidate) : c.same c = true := by
  simp [same]

theorem same_trans (a b c : Candidate) (hab : a.same b = true) (hbc : b.same c = true) :
    a.same c = true := by
  simp only [same, Bool.and_eq_true, beq_iff_eq] at hab hbc ⊢
  obtain ⟨⟨⟨⟨h₁, h₂⟩, h₃⟩, h₄⟩, h₅⟩ := hab
  rw [h₁, h₂, h₃, h₄, h₅]
  exact hbc

end Candidate

theorem Initializer.same_refl (i : Initializer) : i.same i = true := by
  cases i with
  | constructor c => exact c.same_refl
  | static => rfl

namespace Combinations

open Assignment

/-- The candidates without repetitions of an earlier one. -/
def distinct : List Candidate → List Candidate
  | [] => []
  | c :: rest => c :: (distinct rest).filter (!c.same ·)

theorem distinct_eq_firsts (candidates : List Candidate) :
    distinct candidates = firsts Candidate.same candidates := by
  induction candidates with
  | nil => rfl
  | cons c rest ih => rw [distinct, ih, firsts]

/-- All ways to choose one candidate from each list that has one, in lexicographic order. -/
def rows : List (List Candidate) → List (List (Option Candidate))
  | [] => [[]]
  | [] :: lists => (rows lists).map (none :: ·)
  | list :: lists => list.flatMap fun c => (rows lists).map (some c :: ·)

/-- Two rows choose the same for every method. -/
def sameRow (as bs : List (Option Candidate)) : Bool := as.isEqv bs sameChoice

theorem sameRow_cons (a b : Option Candidate) (as bs : List (Option Candidate)) :
    sameRow (a :: as) (b :: bs) = (sameChoice a b && sameRow as bs) := rfl

theorem sameChoice_refl (choice : Option Candidate) : sameChoice choice choice = true := by
  cases choice with
  | none => rfl
  | some c => exact c.same_refl

theorem sameChoice_trans
    (a b c : Option Candidate) (hab : sameChoice a b = true)
    (hbc : sameChoice b c = true) : sameChoice a c = true := by
  cases a with
  | none =>
      cases b with
      | none => exact hbc
      | some b => cases hab
  | some a =>
      cases b with
      | none => cases hab
      | some b =>
          cases c with
          | none => cases hbc
          | some c => exact a.same_trans b c hab hbc

theorem sameRow_refl (row : List (Option Candidate)) : sameRow row row = true :=
  isEqv_refl sameChoice_refl row

theorem sameRow_trans (as bs cs : List (Option Candidate))
    (hab : sameRow as bs = true) (hbc : sameRow bs cs = true) :
    sameRow as cs = true :=
  isEqv_trans sameChoice_trans hab hbc

/-- The rows that choose one of the candidates first, for all candidates in order. -/
def extensions (candidates : List Candidate) (rest : List (List (Option Candidate))) :
    List (List (Option Candidate)) :=
  candidates.flatMap fun c => rest.map (some c :: ·)

/-- A row is equal to one of those that choose `c` first when its own first choice
is, for its rest is among theirs. -/
theorem any_sameRow_cons
    {rest : List (List (Option Candidate))} {row : List (Option Candidate)}
    (hrow : row ∈ rest) (c d : Candidate) :
    (rest.map (some c :: ·)).any (sameRow · (some d :: row)) = c.same d := by
  rw [Bool.eq_iff_iff, List.any_map, List.any_eq_true]
  constructor
  · rintro ⟨other, -, hsame⟩
    rw [Function.comp_apply, sameRow_cons, Bool.and_eq_true] at hsame
    exact hsame.1
  · intro hsame
    refine ⟨row, hrow, ?_⟩
    rw [Function.comp_apply, sameRow_cons, Bool.and_eq_true]
    exact ⟨hsame, sameRow_refl row⟩

theorem filter_extensions
    (c : Candidate) (candidates : List Candidate) (rest : List (List (Option Candidate))) :
    (extensions candidates (firsts sameRow rest)).filter
        (fun row => !(rest.map (some c :: ·)).any (sameRow · row)) =
      extensions (candidates.filter (!c.same ·)) (firsts sameRow rest) := by
  induction candidates with
  | nil => rfl
  | cons d candidates ih =>
      unfold extensions at ih ⊢
      have hrows : ((firsts sameRow rest).map (some d :: ·)).filter
          (fun row => !(rest.map (some c :: ·)).any (sameRow · row)) =
            ((firsts sameRow rest).filter fun _ => !c.same d).map (some d :: ·) := by
        rw [List.filter_map]
        congr 1
        refine List.filter_congr fun row hrow => ?_
        rw [Function.comp_apply, any_sameRow_cons (firsts_subset sameRow rest hrow)]
      rw [List.flatMap_cons, List.filter_append, hrows, ih, List.filter_cons]
      cases c.same d <;> simp

theorem firsts_extensions
    (candidates : List Candidate) (rest : List (List (Option Candidate))) :
    firsts sameRow (extensions candidates rest) =
      extensions (distinct candidates) (firsts sameRow rest) := by
  induction candidates with
  | nil => rfl
  | cons c candidates ih =>
      have hsame : ∀ a b : List (Option Candidate),
          sameRow (some c :: a) (some c :: b) = sameRow a b := by
        intro a b
        rw [sameRow_cons, sameChoice, c.same_refl, Bool.true_and]
      have hcons : ∀ (ds : List Candidate) (rows : List (List (Option Candidate))),
          extensions (c :: ds) rows = rows.map (some c :: ·) ++ extensions ds rows :=
        fun _ _ => rfl
      rw [hcons, firsts_append, firsts_map hsame, ih, filter_extensions, distinct, hcons]

theorem firsts_rows (lists : List (List Candidate)) :
    firsts sameRow (rows lists) = rows (lists.map distinct) := by
  induction lists with
  | nil => rfl
  | cons list lists ih =>
      cases list with
      | nil =>
          have hsame : ∀ a b : List (Option Candidate),
              sameRow (none :: a) (none :: b) = sameRow a b := fun _ _ => rfl
          rw [rows, firsts_map hsame, ih]
          rfl
      | cons c rest =>
          have hproduct : rows ((c :: rest) :: lists) = extensions (c :: rest) (rows lists) :=
            rfl
          rw [hproduct, firsts_extensions, ih]
          rfl

section Growth

/-- Growing rows to the right comes to the same as putting all that the lists offer
behind each of them. -/
theorem foldl_extended
    (lists : List (List Candidate)) (begun : List (List (Option Candidate))) :
    lists.foldl extended begun = begun.flatMap fun row => (rows lists).map (row ++ ·) := by
  induction lists generalizing begun with
  | nil => simp [rows]
  | cons list lists ih =>
      rw [List.foldl_cons, ih]
      cases list with
      | nil =>
          rw [rows, extended, List.isEmpty_nil, if_pos rfl, List.flatMap_map]
          simp only [List.map_map, Function.comp_def, List.append_assoc, List.singleton_append]
      | cons c rest =>
          have hproduct : rows ((c :: rest) :: lists) = extensions (c :: rest) (rows lists) :=
            rfl
          rw [hproduct, extensions, extended, List.isEmpty_cons, if_neg (by decide),
            List.flatMap_assoc]
          simp only [List.flatMap_map, List.map_flatMap, List.map_map, Function.comp_def,
            List.append_assoc, List.singleton_append]

theorem grown_rows (lists : List (List Candidate)) :
    lists.foldl extended [[]] = rows lists := by
  rw [foldl_extended, List.flatMap_singleton]
  simp

/-- Each row of the product of the distinct candidates is made an assignment, in order. -/
theorem exhaustive_eq
    (initializers : List Initializer) (lists : List (List Candidate)) :
    exhaustive initializers lists =
      (rows (lists.map distinct)).map fun methods => ⟨initializers, methods⟩ := by
  have hsame : ∀ as bs : List (Option Candidate),
      Assignment.same ⟨initializers, as⟩ ⟨initializers, bs⟩ = sameRow as bs := by
    intro as bs
    unfold Assignment.same
    rw [isEqv_refl Initializer.same_refl, Bool.true_and]
    rfl
  unfold exhaustive
  rw [grown_rows, unseen_map hsame, unseen_nil sameRow_trans, firsts_rows]

end Growth

end Combinations

end Refit
