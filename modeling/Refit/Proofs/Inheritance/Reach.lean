import Mathlib.Logic.Relation
import Mathlib.Tactic
import Refit.Inheritance.Reach

/-!
# The walk enters exactly the reachable names

The walk is given a number of turns and stops without complaint when they run
out.  Every turn takes one name off the stack, and a name puts its successors
there once only, so turns for the stack and for the edges of the names not yet
entered are enough.  With enough turns the entered names are closed under
successors; together with soundness this makes them the reachable ones.
-/

namespace Refit.Reach

variable {next : String → List String}

/-- A bound on the successors of some names, name by name. -/
abbrev Budget := List (String × Nat)

namespace Budget

/-- What the budget allows for one name. -/
def allowance (budget : Budget) (name : String) : Nat :=
  ((budget.filter fun e => e.1 = name).map (·.2)).sum

/-- What the budget allows for the names that are not entered yet. -/
def pending (budget : Budget) (entered : List String) : Nat :=
  ((budget.filter fun e => e.1 ∉ entered).map (·.2)).sum

def total (budget : Budget) : Nat := (budget.map (·.2)).sum

/-- No name has more successors than it is allowed. -/
def Covers (budget : Budget) (next : String → List String) : Prop :=
  ∀ name, (next name).length ≤ budget.allowance name

theorem pending_cons_add_allowance
    (budget : Budget) {entered : List String} {name : String}
    (hname : name ∉ entered) :
    budget.pending (name :: entered) + budget.allowance name =
      budget.pending entered := by
  induction budget with
  | nil => rfl
  | cons e rest ih =>
      unfold pending allowance at ih ⊢
      by_cases heq : e.1 = name
      · simp [heq, hname] at ih ⊢
        omega
      · by_cases hentered : e.1 ∈ entered <;>
          simp [heq, hentered] at ih ⊢ <;> omega

theorem pending_le_total (budget : Budget) (entered : List String) :
    budget.pending entered ≤ budget.total := by
  unfold pending total
  exact (List.filter_sublist.map _).sum_le_sum (by simp)

end Budget

theorem mem_walk_of_mem_entered (fuel : Nat) (entered stack : List String) :
    ∀ x ∈ entered, x ∈ walk next fuel entered stack := by
  induction fuel generalizing entered stack with
  | zero =>
      intro x hx
      exact hx
  | succ fuel ih =>
      intro x hx
      cases stack with
      | nil => exact hx
      | cons name stack =>
          simp only [walk]
          split
          · exact ih entered stack x hx
          · exact ih _ _ x (List.mem_cons_of_mem name hx)

theorem walk_sound (fuel : Nat) (entered stack : List String) :
    ∀ x ∈ walk next fuel entered stack,
      x ∈ entered ∨
        ∃ s ∈ stack, Relation.ReflTransGen (fun a b => b ∈ next a) s x := by
  induction fuel generalizing entered stack with
  | zero =>
      intro x hx
      exact .inl hx
  | succ fuel ih =>
      intro x hx
      cases stack with
      | nil => exact .inl hx
      | cons name stack =>
          simp only [walk] at hx
          split at hx
          · rcases ih entered stack x hx with hmem | ⟨s, hs, hreach⟩
            · exact .inl hmem
            · exact .inr ⟨s, List.mem_cons_of_mem name hs, hreach⟩
          · rcases ih _ _ x hx with hmem | ⟨s, hs, hreach⟩
            · rcases List.mem_cons.mp hmem with rfl | hmem
              · exact .inr ⟨x, List.mem_cons_self, .refl⟩
              · exact .inl hmem
            · rcases List.mem_append.mp hs with hs | hs
              · have hedge : s ∈ next name := by
                  rw [List.mem_reverse, List.mem_filter] at hs
                  exact hs.1
                exact .inr ⟨name, List.mem_cons_self, .head hedge hreach⟩
              · exact .inr ⟨s, List.mem_cons_of_mem name hs, hreach⟩

/-- With turns for the stack and for all that may still be put there, the walk
enters the stack and is closed under successors. -/
theorem walk_closed
    {budget : Budget} (hcovers : budget.Covers next)
    (fuel : Nat) (entered stack : List String)
    (hfuel : stack.length + budget.pending entered ≤ fuel) :
    (∀ x ∈ stack, x ∈ walk next fuel entered stack) ∧
      ∀ x ∈ walk next fuel entered stack, x ∉ entered →
        ∀ y ∈ next x, y ∈ walk next fuel entered stack := by
  induction fuel generalizing entered stack with
  | zero =>
      have hstack : stack = [] := List.length_eq_zero_iff.mp (by omega)
      subst hstack
      exact ⟨by simp, fun x hx hnot => absurd hx hnot⟩
  | succ fuel ih =>
      cases stack with
      | nil => exact ⟨by simp, fun x hx hnot => absurd hx hnot⟩
      | cons name stack =>
          rw [List.length_cons] at hfuel
          simp only [walk]
          split
          · next hentered =>
            obtain ⟨hstack, hnext⟩ := ih entered stack (by omega)
            refine ⟨fun x hx => ?_, hnext⟩
            rcases List.mem_cons.mp hx with rfl | hx
            · exact mem_walk_of_mem_entered _ _ _ _ (by simpa using hentered)
            · exact hstack x hx
          · next hfresh =>
            have hname : name ∉ entered := by simpa using hfresh
            have hpending := budget.pending_cons_add_allowance hname
            have hpushed :
                (((next name).filter
                  (!(name :: entered).contains ·)).reverse ++ stack).length ≤
                  budget.allowance name + stack.length := by
              rw [List.length_append, List.length_reverse]
              have hfilter := List.length_filter_le
                (!(name :: entered).contains ·) (next name)
              have hallowed := hcovers name
              omega
            obtain ⟨hstack, hnext⟩ := ih (name :: entered)
              (((next name).filter
                (!(name :: entered).contains ·)).reverse ++ stack) (by omega)
            refine ⟨fun x hx => ?_, fun x hx hnot y hy => ?_⟩
            · rcases List.mem_cons.mp hx with rfl | hx
              · exact mem_walk_of_mem_entered _ _ _ _ List.mem_cons_self
              · exact hstack x (List.mem_append_right _ hx)
            · by_cases hx_name : x = name
              · subst hx_name
                by_cases hy_entered : y ∈ x :: entered
                · exact mem_walk_of_mem_entered _ _ _ _ hy_entered
                · apply hstack y
                  rw [List.mem_append, List.mem_reverse, List.mem_filter]
                  exact .inl ⟨hy, by simpa using hy_entered⟩
              · exact hnext x hx (by simp [hx_name, hnot]) y hy

/-- The names that the walk enters are those reachable from the starts, when the
bound covers all edges. -/
theorem mem_reachable_iff
    {budget : Budget} (hcovers : budget.Covers next)
    {bound : Nat} (hbound : budget.total ≤ bound)
    (starts : List String) (x : String) :
    x ∈ reachable next bound starts ↔
      ∃ s ∈ starts, Relation.ReflTransGen (fun a b => b ∈ next a) s x := by
  have hpending := budget.pending_le_total []
  obtain ⟨hstarts, hclosed⟩ :=
    walk_closed hcovers (bound + starts.length + 1) [] starts (by omega)
  rw [reachable, List.mem_reverse]
  constructor
  · intro hx
    rcases walk_sound _ _ _ x hx with hmem | hreach
    · simp at hmem
    · exact hreach
  · rintro ⟨s, hs, hreach⟩
    induction hreach with
    | refl => exact hstarts s hs
    | tail _ hedge ih => exact hclosed _ ih (by simp) _ hedge

end Refit.Reach
