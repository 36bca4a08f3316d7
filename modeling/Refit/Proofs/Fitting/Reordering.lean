import Mathlib.Tactic
import Refit.Proofs.Ranking.Ties
import Refit.Fitting.Fitter
import Refit.Samples.Stacks

/-!
# The order of discovery

The search meets the members of a component in the order in which they were found.  Up
to the ranking it only collects them, so that another order of the members gives another
order of what is collected; from the ranking on nothing of the order is left.  The one
place that takes the first of several without ranking them looks for a constructor
without parameters, and of those a component has one at most.
-/

namespace Refit

namespace Component

/-- What is added depends on which methods are there, not on their order. -/
theorem addUnlessOverridden_perm {methods methods' : List Member}
    (hperm : methods.Perm methods') (more : List Member) :
    (addUnlessOverridden methods more).Perm (addUnlessOverridden methods' more) := by
  induction more generalizing methods methods' with
  | nil => exact hperm
  | cons m more ih =>
      unfold addUnlessOverridden
      apply ih
      rw [hperm.any_eq]
      split
      · exact hperm
      · exact hperm.append_right [m]

variable {c : Component} {members : List Member}

theorem visibleMethods_perm (hmembers : members.Perm c.members) :
    ({ c with members } : Component).visibleMethods.Perm c.visibleMethods := by
  have hmethods : ({ c with members } : Component).methods.Perm c.methods :=
    hmembers.filter _
  unfold visibleMethods
  cases hhierarchy : c.hierarchy with
  | none => exact hmethods
  | some h => exact addUnlessOverridden_perm hmethods h.inherited

/-- A class has one constructor for a list of parameters at most. -/
def ConstructorsApart (c : Component) : Prop := (c.constructors.map (·.params)).Nodup

end Component

namespace Fitter

variable {f : Fitter} {c : Component} {members : List Member}

theorem usableConstructors_perm (hmembers : members.Perm c.members) :
    (f.usableConstructors { c with members }).Perm (f.usableConstructors c) := by
  have hconstructors : ({ c with members } : Component).constructors.Perm c.constructors :=
    hmembers.filter _
  have hmade : ({ c with members } : Component).canBeMade = c.canBeMade := rfl
  have hdefault : defaultConstructor { c with members } = defaultConstructor c := rfl
  unfold usableConstructors
  rw [hmade, hdefault, hconstructors.isEmpty_eq]
  split
  · exact (hconstructors.filter _).append_right _
  · exact List.Perm.refl _

theorem nodup_params_usableConstructors (hapart : c.ConstructorsApart) :
    ((f.usableConstructors c).map (·.params)).Nodup := by
  unfold usableConstructors
  split_ifs with hmade hnone
  · rw [List.isEmpty_iff.mp hnone]
    simp
  · rw [List.append_nil]
    exact hapart.sublist (List.filter_sublist.map _)
  · simp

theorem noArgument?_eq_of_perm {constructors constructors' : List Member}
    (hapart : (constructors.map (·.params)).Nodup) (hperm : constructors.Perm constructors') :
    noArgument? constructors = noArgument? constructors' := by
  have hone : ∀ m ∈ constructors, ∀ m' ∈ constructors, m.arity = 0 → m'.arity = 0 → m = m' := by
    intro m hm m' hm' harity harity'
    apply List.inj_on_of_nodup_map hapart hm hm'
    rw [List.eq_nil_of_length_eq_zero harity, List.eq_nil_of_length_eq_zero harity']
  have hfound : constructors.find? (·.arity == 0) = constructors'.find? (·.arity == 0) := by
    cases hfind : constructors.find? (·.arity == 0) with
    | none =>
        symm
        rw [List.find?_eq_none] at hfind ⊢
        intro m hm
        exact hfind m (hperm.mem_iff.mpr hm)
    | some m =>
        cases hfind' : constructors'.find? (·.arity == 0) with
        | none =>
            rw [List.find?_eq_none] at hfind'
            have hm := hperm.mem_iff.mp (List.mem_of_find?_eq_some hfind)
            exact absurd (List.find?_some hfind) (hfind' m hm)
        | some m' =>
            rw [hone m (List.mem_of_find?_eq_some hfind) m'
              (hperm.mem_iff.mpr (List.mem_of_find?_eq_some hfind'))
              (by simpa using List.find?_some hfind) (by simpa using List.find?_some hfind')]
  unfold noArgument?
  rw [hfound]

theorem rankedLists_of_perm (hmembers : members.Perm c.members) (m : Matcher) (i : Interface) :
    f.rankedLists m { c with members } i = f.rankedLists m c i := by
  unfold rankedLists
  apply List.map_congr_left
  intro wanted _
  apply m.rank_candidatesFor_of_perm
  exact (Component.visibleMethods_perm hmembers).filter _

theorem initializers?_of_perm (hapart : c.ConstructorsApart) (hmembers : members.Perm c.members)
    (m : Matcher) (i : Interface) (lists : List (List Candidate)) :
    f.initializers? m { c with members } i lists = f.initializers? m c i lists := by
  have hperm := (usableConstructors_perm (f := f) hmembers).symm
  have hnoArgument := noArgument?_eq_of_perm (nodup_params_usableConstructors hapart) hperm
  unfold initializers? initializer?
  simp only [hnoArgument, fun number wanted => m.rank_constructorsFor_of_perm number wanted hperm]

theorem adapters_of_perm (catalog : Catalog) (hapart : c.ConstructorsApart)
    (hmembers : members.Perm c.members) (i : Interface) (limit : ℕ) :
    f.adapters catalog { c with members } i limit = f.adapters catalog c i limit := by
  unfold adapters
  simp only [rankedLists_of_perm hmembers, initializers?_of_perm hapart hmembers]

/-- The adapters of a component do not depend on the order of its members, nor do the
candidates for any one operation. -/
theorem discovery_order :
    (∀ (f : Fitter) (catalog : Catalog) (c : Component) (i : Interface) (limit : ℕ)
      (members : List Member), c.ConstructorsApart → members.Perm c.members →
        f.adapters catalog { c with members } i limit = f.adapters catalog c i limit) ∧
    ∀ (m : Matcher) (operation : ℕ) (wanted : Operation) (members members' : List Member),
      members.Perm members' →
        Candidate.rank (m.candidatesFor operation wanted members) =
          Candidate.rank (m.candidatesFor operation wanted members') ∧
        Candidate.rank (m.constructorsFor operation wanted members) =
          Candidate.rank (m.constructorsFor operation wanted members') := by
  constructor
  · intro f catalog c i limit members hapart hmembers
    exact adapters_of_perm catalog hapart hmembers i limit
  · intro m operation wanted members members' hperm
    exact ⟨m.rank_candidatesFor_of_perm operation wanted hperm,
      m.rank_constructorsFor_of_perm operation wanted hperm⟩

end Fitter

open Samples in
/-- A stack with its members from last to first. -/
theorem Fitter.discovery_order_listStack :
    listStack.ConstructorsApart ∧
      ∀ f limit,
        Fitter.adapters f ⟨[listStack]⟩
          { listStack with members := listStack.members.reverse } stack limit =
        Fitter.adapters f ⟨[listStack]⟩ listStack stack limit := by
  have hapart : listStack.ConstructorsApart := by
    unfold Component.ConstructorsApart
    decide
  apply And.intro hapart
  intro f limit
  exact Fitter.discovery_order.1 f ⟨[listStack]⟩ listStack stack limit _ hapart
    (List.reverse_perm _)

end Refit
