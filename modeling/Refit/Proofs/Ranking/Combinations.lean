import Refit.Proofs.Ranking.Repetitions

/-!
# Combinations choose from the lists

Whatever is dropped on the way, an assignment takes the candidate of each method
from the list of that method, and keeps the initializers that it was given.
-/

namespace Refit

theorem Candidate.mem_rank {c : Candidate} {candidates : List Candidate} :
    c ∈ rank candidates ↔ c ∈ candidates :=
  List.mem_mergeSort

theorem Quota.mem_of_mem_keep
    {quota : Quota} {room : ℕ} {candidates : List Candidate} {c : Candidate}
    (hc : c ∈ quota.keep room candidates) : c ∈ candidates := by
  induction candidates generalizing quota room with
  | nil =>
      cases room <;> simp [keep] at hc
  | cons candidate rest ih =>
      cases room with
      | zero => simp [keep] at hc
      | succ room =>
          simp only [keep] at hc
          split at hc
          · rcases List.mem_cons.mp hc with rfl | hc
            · exact List.mem_cons_self
            · exact List.mem_cons_of_mem _ (ih hc)
          · exact List.mem_cons_of_mem _ (ih hc)

namespace Combinations

theorem mem_of_mem_distinct
    {c : Candidate} {candidates : List Candidate} (hc : c ∈ distinct candidates) :
    c ∈ candidates := by
  rw [distinct_eq_firsts] at hc
  exact firsts_subset Candidate.same candidates hc

/-- Each list holds candidates of the list in the same place only. -/
def Within (lists wider : List (List Candidate)) : Prop :=
  List.Forall₂ (· ⊆ ·) lists wider

theorem Within.refl (lists : List (List Candidate)) : Within lists lists :=
  List.forall₂_same.mpr fun list _ => List.Subset.refl list

theorem Within.trans
    {lists wider widest : List (List Candidate)}
    (h : Within lists wider) (hwider : Within wider widest) :
    Within lists widest := by
  induction h generalizing widest with
  | nil => exact hwider
  | cons hlist _ ih =>
      cases hwider with
      | cons hhead htail => exact .cons (List.Subset.trans hlist hhead) (ih htail)

theorem within_map
    {f : List Candidate → List Candidate} (hf : ∀ list, f list ⊆ list)
    (lists : List (List Candidate)) : Within (lists.map f) lists := by
  induction lists with
  | nil => exact .nil
  | cons list lists ih => exact .cons (hf list) ih

/-- A choice from lists: a candidate of the list in the same place, or none. -/
def Chooses (row : List (Option Candidate)) (lists : List (List Candidate)) :
    Prop :=
  List.Forall₂ (fun chosen list => ∀ c, chosen = some c → c ∈ list) row lists

theorem Chooses.mono
    {row : List (Option Candidate)} {lists wider : List (List Candidate)}
    (h : Chooses row lists) (hwithin : Within lists wider) :
    Chooses row wider := by
  induction h generalizing wider with
  | nil =>
      cases hwithin
      exact .nil
  | cons hchosen _ ih =>
      cases hwithin with
      | cons hlist hrest =>
          exact .cons (fun c hc => hlist (hchosen c hc)) (ih hrest)

theorem chooses_of_mem_rows
    {row : List (Option Candidate)} {lists : List (List Candidate)}
    (hrow : row ∈ rows lists) : Chooses row lists := by
  induction lists generalizing row with
  | nil =>
      rw [rows, List.mem_singleton] at hrow
      subst hrow
      exact .nil
  | cons list lists ih =>
      cases list with
      | nil =>
          obtain ⟨rest, hrest, rfl⟩ := List.mem_map.mp hrow
          exact .cons (by simp) (ih hrest)
      | cons c list =>
          obtain ⟨chosen, hchosen, hrow⟩ := List.mem_flatMap.mp hrow
          obtain ⟨rest, hrest, rfl⟩ := List.mem_map.mp hrow
          refine .cons ?_ (ih hrest)
          rintro _ ⟨⟩
          exact hchosen

theorem chooses_of_mem_exhaustive
    {initializers : List Initializer} {lists : List (List Candidate)}
    {a : Assignment} (ha : a ∈ exhaustive initializers lists) :
    a.initializers = initializers ∧ Chooses a.methods lists := by
  rw [exhaustive_eq] at ha
  obtain ⟨row, hrow, rfl⟩ := List.mem_map.mp ha
  refine ⟨rfl, (chooses_of_mem_rows hrow).mono (within_map ?_ lists)⟩
  exact fun list c hc => mem_of_mem_distinct hc

namespace Caps

theorem within_filter (caps : Caps) (lists : List (List Candidate)) :
    Within (caps.filter lists) lists :=
  within_map (fun _ _ hc => Candidate.mem_rank.mp (Quota.mem_of_mem_keep hc))
    lists

theorem within_dropFromLast (length : ℕ) (lists : List (List Candidate)) :
    Within (dropFromLast length lists) lists := by
  induction lists with
  | nil => exact .nil
  | cons list rest ih =>
      unfold dropFromLast
      split
      · exact .cons (List.Subset.refl list) ih
      · exact .cons (List.dropLast_subset list) (Within.refl rest)

theorem within_shrink (ceiling fuel : ℕ) (lists : List (List Candidate)) :
    Within (shrink ceiling fuel lists) lists := by
  induction fuel generalizing lists with
  | zero => exact Within.refl lists
  | succ fuel ih =>
      unfold shrink
      split
      · exact Within.refl lists
      split
      · exact Within.refl lists
      · exact (ih _).trans (within_dropFromLast _ lists)

theorem within_fit (caps : Caps) (lists : List (List Candidate)) :
    Within (caps.fit lists) lists := by
  unfold fit
  split
  · exact within_shrink _ _ lists
  · exact Within.refl lists

end Caps

end Combinations

open Combinations in
theorem Settings.chooses_of_mem_assignments
    {s : Settings} {initializers : List Initializer}
    {lists : List (List Candidate)} {a : Assignment}
    (ha : a ∈ s.assignments initializers lists) :
    a.initializers = initializers ∧ Chooses a.methods lists := by
  unfold assignments at ha
  split at ha
  · exact chooses_of_mem_exhaustive ha
  · obtain ⟨hinitializers, hchooses⟩ := chooses_of_mem_exhaustive ha
    exact ⟨hinitializers,
      hchooses.mono ((Caps.within_fit _ _).trans (Caps.within_filter _ lists))⟩

theorem Assignment.forall₂_chosen
    {a : Assignment} {lists : List (List Candidate)}
    (hcomplete : a.isComplete = true)
    (hchooses : Combinations.Chooses a.methods lists) :
    List.Forall₂ (fun c list => c ∈ list) a.chosen lists := by
  obtain ⟨initializers, methods⟩ := a
  unfold isComplete at hcomplete
  unfold chosen
  simp only at hcomplete hchooses ⊢
  induction hchooses with
  | nil => exact .nil
  | @cons method list methods lists hmethod _ ih =>
      rw [List.all_cons, Bool.and_eq_true] at hcomplete
      obtain ⟨c, rfl⟩ := Option.isSome_iff_exists.mp hcomplete.1
      exact .cons (hmethod c rfl) (ih hcomplete.2)

end Refit
