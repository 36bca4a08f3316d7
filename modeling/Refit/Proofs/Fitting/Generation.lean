import Refit.Fitting.Fitter
import Refit.Proofs.Ranking.Products
import Refit.Samples.Stacks

/-!
# Capped and exhaustive search

The caps decide how many adapters are found, not whether there are any and which
is the best.  All pools of assignments begin with the one that takes the first
candidate everywhere; no other comes before it, so a stable sort leaves it there.
-/

namespace Refit

namespace Combinations

/-- The first candidate of every list. -/
def firstChoice (initializers : List Initializer) (lists : List (List Candidate)) :
    Assignment :=
  ⟨initializers, lists.map List.head?⟩

/-- Some of the assignments from some lists, in their order, the first choice
before all others. -/
structure Pool (initializers : List Initializer) (lists : List (List Candidate))
    (pool : List Assignment) : Prop where
  part : pool.Sublist (exhaustive initializers lists)
  head : pool.head? = some (firstChoice initializers lists)

theorem pool_of_trims
    {parts wholes : List (List Candidate)} (htrims : List.Forall₂ Trims parts wholes)
    (initializers : List Initializer) :
    Pool initializers wholes (exhaustive initializers parts) := by
  have hheads : parts.map List.head? = wholes.map List.head? := by
    induction htrims with
    | nil => rfl
    | cons htrims _ ih => rw [List.map_cons, List.map_cons, htrims.head, ih]
  constructor
  · rw [exhaustive_eq, exhaustive_eq]
    exact (rows_sublist htrims).map _
  · unfold firstChoice
    rw [exhaustive_eq, List.head?_map, head?_rows_distinct, hheads]
    rfl

theorem pool_assignments
    {s : Settings} (hmethods : 1 ≤ s.methodMax) {lists : List (List Candidate)}
    (hranked : ∀ list ∈ lists, Candidate.rank list = list)
    (initializers : List Initializer) :
    Pool initializers lists (s.assignments initializers lists) := by
  unfold Settings.assignments
  cases s.generation with
  | exhaustive => exact pool_of_trims (trims_self lists) initializers
  | capped =>
      have hfilter := @Caps.trims_filter (Caps.ofSettings s) hmethods lists hranked
      exact pool_of_trims (trims_trans (Caps.trims_fit _) hfilter) initializers

theorem firstChoice_ahead
    {lists : List (List Candidate)} {chosen : List Candidate}
    (hchosen : List.Forall₂ (fun c list => c ∈ list) chosen lists)
    (hranked : ∀ list ∈ lists, Candidate.rank list = list)
    (initializers : List Initializer) :
    (firstChoice initializers lists).isComplete = true ∧
      List.Forall₂ Candidate.Ahead (firstChoice initializers lists).chosen chosen := by
  induction hchosen with
  | nil => exact ⟨rfl, .nil⟩
  | @cons c list chosen lists hc _ ih =>
      obtain ⟨hcomplete, hahead⟩ :=
        ih fun other hother => hranked other (List.mem_cons_of_mem list hother)
      have hrank : Candidate.rank list = list := hranked list List.mem_cons_self
      cases list with
      | nil => cases hc
      | cons first rest =>
          refine ⟨hcomplete, .cons ?_ hahead⟩
          refine Candidate.ahead_of_rank_eq_cons hrank ?_
          rw [hrank]
          exact hc

theorem finiteDistances_of_forall₂
    {lists : List (List Candidate)} {chosen : List Candidate}
    (hchosen : List.Forall₂ (fun c list => c ∈ list) chosen lists)
    (hfinite : ∀ list ∈ lists, FiniteDistances list) : FiniteDistances chosen := by
  intro c hc
  induction hchosen with
  | nil => cases hc
  | @cons d list chosen lists hd _ ih =>
      rcases List.mem_cons.mp hc with rfl | hc
      · exact hfinite list List.mem_cons_self c hd
      · exact ih (fun other hother => hfinite other (List.mem_cons_of_mem list hother)) hc

end Combinations

theorem Assignment.map_some_chosen {a : Assignment} (hcomplete : a.isComplete = true) :
    a.chosen.map some = a.methods := by
  obtain ⟨initializers, methods⟩ := a
  unfold isComplete at hcomplete
  unfold chosen
  simp only at hcomplete ⊢
  induction methods with
  | nil => rfl
  | cons method methods ih =>
      rw [List.all_cons, Bool.and_eq_true] at hcomplete
      obtain ⟨c, rfl⟩ := Option.isSome_iff_exists.mp hcomplete.1
      exact congrArg (some c :: ·) (ih hcomplete.2)

/-- The adapter without its number. -/
def Adapter.unnumbered (a : Adapter) : Adapter := { a with adapterId := 0 }

namespace Fitter

open Combinations

instance : Std.TransCmp compareAssignments :=
  inferInstanceAs (Std.TransCmp (compareLex
    (fun a b : Assignment => compareOn (fun a : Assignment => directCount a.chosen) b a)
    (compareOn fun a : Assignment => Distance.ofFloat (totalDistance a.chosen))))

theorem compareAssignments_of_ahead
    {a b : Assignment} (hahead : List.Forall₂ Candidate.Ahead a.chosen b.chosen)
    (ha : FiniteDistances a.chosen) (hb : FiniteDistances b.chosen) :
    (compareAssignments a b).isLE = true := by
  obtain ⟨hcount, hnearer⟩ := directCount_of_ahead hahead
  unfold compareAssignments
  rw [Ordering.isLE_then_iff_and]
  refine ⟨Nat.isLE_compare.mpr hcount, ?_⟩
  rcases hcount.lt_or_eq with hlt | heq
  · exact .inl (Nat.compare_eq_lt.mpr hlt)
  · have htotal := totalDistance_le (hnearer heq) ha hb
    exact .inr (Int.isLE_compare.mpr htotal)

theorem rankAssignments_sublist
    {part whole : List Assignment} (hpart : part.Sublist whole) :
    (rankAssignments part).Sublist (rankAssignments whole) :=
  mergeSort_sublist isLE_trans isLE_total (hpart.filter _)

section Pools

variable {initializers : List Initializer} {lists : List (List Candidate)}
  {pool : List Assignment}

theorem forall₂_chosen_of_mem
    (hpool : Pool initializers lists pool) {a : Assignment} (ha : a ∈ pool)
    (hcomplete : a.isComplete = true) :
    List.Forall₂ (fun c list => c ∈ list) a.chosen lists :=
  a.forall₂_chosen hcomplete (chooses_of_mem_exhaustive (hpool.part.subset ha)).2

/-- The first choice is the best assignment of a pool, unless no assignment is
complete. -/
theorem head?_rankAssignments
    (hpool : Pool initializers lists pool)
    (hranked : ∀ list ∈ lists, Candidate.rank list = list)
    (hfinite : ∀ list ∈ lists, FiniteDistances list) :
    (rankAssignments pool).head? =
      if (firstChoice initializers lists).isComplete = true then
        some (firstChoice initializers lists)
      else none := by
  obtain ⟨others, hcons⟩ := List.head?_eq_some_iff.mp hpool.head
  have hmem : firstChoice initializers lists ∈ pool := by
    rw [hcons]
    exact List.mem_cons_self
  unfold rankAssignments
  by_cases hcomplete : (firstChoice initializers lists).isComplete = true
  · have hfirst := finiteDistances_of_forall₂
      (forall₂_chosen_of_mem hpool hmem hcomplete) hfinite
    have hleast : ∀ b ∈ others.filter (·.isComplete),
        (compareAssignments (firstChoice initializers lists) b).isLE = true := by
      intro b hb
      obtain ⟨hb, hbcomplete⟩ := List.mem_filter.mp hb
      have hbpool : b ∈ pool := by
        rw [hcons]
        exact List.mem_cons_of_mem _ hb
      have hchosen := forall₂_chosen_of_mem hpool hbpool hbcomplete
      exact compareAssignments_of_ahead
        (firstChoice_ahead hchosen hranked initializers).2 hfirst
        (finiteDistances_of_forall₂ hchosen hfinite)
    rw [if_pos hcomplete, hcons, List.filter_cons_of_pos hcomplete,
      mergeSort_cons_of_least isLE_trans isLE_total hleast, List.head?_cons]
  · have hnone : pool.filter (·.isComplete) = [] := by
      rw [List.filter_eq_nil_iff]
      intro b hb hbcomplete
      have hchosen := forall₂_chosen_of_mem hpool hb hbcomplete
      exact hcomplete (firstChoice_ahead hchosen hranked initializers).1
    rw [if_neg hcomplete, hnone, List.mergeSort_nil, List.head?_nil]

end Pools

/-- The same search with another way to combine candidates. -/
def combining (f : Fitter) (g : Generation) : Fitter :=
  { f with settings := { f.settings with generation := g } }

/-- The candidates among which a search chooses. -/
def listsFor (f : Fitter) (catalog : Catalog) (c : Component) (i : Interface) :
    List (List Candidate) :=
  f.rankedLists ⟨catalog, f.settings.maxParamsLength⟩ c i

theorem rank_of_mem_listsFor
    {f : Fitter} {catalog : Catalog} {c : Component} {i : Interface}
    {list : List Candidate} (hlist : list ∈ f.listsFor catalog c i) :
    Candidate.rank list = list := by
  obtain ⟨_, -, rfl⟩ := List.mem_map.mp hlist
  exact Candidate.rank_rank _

/-- The adapters for some assignments, numbered in their order. -/
def numbered (c : Component) (i : Interface) (assignments : List Assignment) :
    List Adapter :=
  assignments.zipIdx.map fun (assignment, adapterId) =>
    { adapterId, candidateId := c.id, component := c.name, interface := i.name
      initializers := assignment.initializers, methods := assignment.chosen }

theorem adapters_combining_eq
    (f : Fitter) (catalog : Catalog) (c : Component) (i : Interface) (g : Generation)
    (limit : ℕ) :
    (f.combining g).adapters catalog c i limit =
      if c.kind = .interface then []
      else if (!i.methods.isEmpty && (f.listsFor catalog c i).all (·.isEmpty)) = true then []
      else
        match f.initializers? ⟨catalog, f.settings.maxParamsLength⟩ c i
            (f.listsFor catalog c i) with
        | none => []
        | some initializers =>
          numbered c i ((rankAssignments ((f.combining g).settings.assignments initializers
            (f.listsFor catalog c i))).take limit) :=
  rfl

/-- The way to combine candidates plays no part until there are initializers. -/
theorem adapters_combining
    (f : Fitter) (catalog : Catalog) (c : Component) (i : Interface) :
    (∀ g limit, (f.combining g).adapters catalog c i limit = []) ∨
      ∃ initializers, ∀ g limit, (f.combining g).adapters catalog c i limit =
        numbered c i ((rankAssignments ((f.combining g).settings.assignments initializers
          (f.listsFor catalog c i))).take limit) := by
  have hadapters := f.adapters_combining_eq catalog c i
  by_cases hkind : c.kind = .interface
  · left
    intro g limit
    rw [hadapters, if_pos hkind]
  by_cases hempty : (!i.methods.isEmpty && (f.listsFor catalog c i).all (·.isEmpty)) = true
  · left
    intro g limit
    rw [hadapters, if_neg hkind, if_pos hempty]
  cases hinitializers : f.initializers? ⟨catalog, f.settings.maxParamsLength⟩ c i
      (f.listsFor catalog c i) with
  | none =>
      left
      intro g limit
      rw [hadapters, if_neg hkind, if_neg hempty, hinitializers]
  | some initializers =>
      right
      refine ⟨initializers, fun g limit => ?_⟩
      rw [hadapters, if_neg hkind, if_neg hempty, hinitializers]

theorem head?_numbered
    (c : Component) (i : Interface) (assignments : List Assignment) :
    (numbered c i assignments).head? = assignments.head?.map fun a =>
      { adapterId := 0, candidateId := c.id, component := c.name, interface := i.name
        initializers := a.initializers, methods := a.chosen } := by
  cases assignments <;> rfl

theorem methodMax_of_validate
    {s : Settings} (hvalid : s.validate = .ok ()) : 1 ≤ s.methodMax := by
  unfold Settings.validate at hvalid
  cases hfind : s.limits.find? (·.2 == 0) with
  | some limit =>
      rw [hfind] at hvalid
      cases hvalid
  | none =>
      have hlimit := List.find?_eq_none.mp hfind ("method_max", s.methodMax)
        List.mem_cons_self
      simp only [beq_iff_eq] at hlimit
      omega

theorem unnumbered_numbered
    (c : Component) (i : Interface) (assignments : List Assignment) :
    (numbered c i assignments).map Adapter.unnumbered = assignments.map fun a =>
      { adapterId := 0, candidateId := c.id, component := c.name, interface := i.name
        initializers := a.initializers, methods := a.chosen } := by
  unfold numbered
  rw [List.map_map]
  conv_rhs => rw [← List.zipIdx_map_fst 0 assignments, List.map_map]
  rfl

theorem finite_of_mem_matchParams
    {m : Matcher} {operation : ℕ} {wanted : Operation} {member : Member}
    {plain converted : Option Conversion} {x : Float} {c : Candidate}
    (hx : x.isFinite = true)
    (hc : c ∈ m.matchParams operation wanted member plain converted (.ofFloat x)) :
    c.distance.toFloat.isFinite = true := by
  have hdistance : c.distance = .ofFloat x := by
    unfold Matcher.matchParams at hc
    simp only at hc
    split_ifs at hc
    · split at hc
      · rw [List.mem_singleton.mp hc]
      · cases hc
    · cases plain with
      | none => cases hc
      | some result =>
          obtain ⟨positions, -, hpositions⟩ := List.mem_filterMap.mp hc
          obtain ⟨conversions, -, rfl⟩ := Option.map_eq_some_iff.mp hpositions
          rfl
  rw [hdistance]
  change (Float.ofBits x.toBits).isFinite = true
  rw [Float.ofBits_toBits]
  exact hx

/-- Candidates are as far as the names of their members. -/
theorem finiteDistances_of_names
    {f : Fitter} {catalog : Catalog} {c : Component} {i : Interface}
    (hnames : ∀ wanted ∈ i.methods, ∀ m ∈ c.visibleMethods,
      (nameDistance wanted.name m.name).isFinite = true) :
    ∀ list ∈ f.listsFor catalog c i, FiniteDistances list := by
  intro list hlist candidate hcandidate
  obtain ⟨⟨wanted, number⟩, hwanted, rfl⟩ := List.mem_map.mp hlist
  have hwanted : wanted ∈ i.methods := by
    have hfst := List.mem_map_of_mem (f := Prod.fst) hwanted
    rwa [List.zipIdx_map_fst] at hfst
  obtain ⟨m, hm, hmatch⟩ := List.mem_flatMap.mp (Candidate.mem_rank.mp hcandidate)
  have hvisible : m ∈ c.visibleMethods :=
    (List.mem_filter.mp (List.mem_filter.mp hm).1).1
  unfold Matcher.matchMethod at hmatch
  split_ifs at hmatch
  · cases hmatch
  · exact finite_of_mem_matchParams (hnames wanted hwanted m hvisible) hmatch

/-- Whatever the caps, the capped search finds adapters where the exhaustive one
does, and the same one first: it takes the first-ranked candidate of every list.
Its adapters are some of those that an unlimited exhaustive search finds, in the
same order. -/
theorem capped_refines_exhaustive
    (f : Fitter) (hvalid : f.settings.validate = .ok ())
    (catalog : Catalog) (c : Component) (i : Interface)
    (hfinite : ∀ list ∈ f.listsFor catalog c i, FiniteDistances list) :
    (∀ limit, (f.combining .capped).adapters catalog c i limit = [] ↔
      (f.combining .exhaustive).adapters catalog c i limit = []) ∧
    (∀ limit, ((f.combining .capped).adapters catalog c i limit).head? =
        ((f.combining .exhaustive).adapters catalog c i limit).head? ∧
      ∀ best ∈ ((f.combining .capped).adapters catalog c i limit).head?,
        best.methods.map some = (f.listsFor catalog c i).map List.head?) ∧
    ∃ enough, ∀ limit limit', enough ≤ limit' →
      (((f.combining .capped).adapters catalog c i limit).map Adapter.unnumbered).Sublist
        (((f.combining .exhaustive).adapters catalog c i limit').map
          Adapter.unnumbered) := by
  have hmethods := methodMax_of_validate hvalid
  rcases adapters_combining f catalog c i with hnone | ⟨initializers, hsome⟩
  · refine ⟨fun limit => ?_, fun limit => ⟨?_, fun best hbest => ?_⟩, 0,
      fun limit limit' _ => ?_⟩
    · rw [hnone, hnone]
    · rw [hnone, hnone]
    · rw [hnone] at hbest
      cases hbest
    · rw [hnone, hnone]
  have hpool : ∀ g, Pool initializers (f.listsFor catalog c i)
      ((f.combining g).settings.assignments initializers (f.listsFor catalog c i)) :=
    fun g => pool_assignments (s := (f.combining g).settings) hmethods
      (fun _ hlist => rank_of_mem_listsFor hlist) initializers
  have hhead := fun g => head?_rankAssignments (hpool g)
    (fun _ hlist => rank_of_mem_listsFor hlist) hfinite
  have hfirst : ∀ g limit, ((f.combining g).adapters catalog c i limit).head? =
      if limit = 0 then none
      else if (firstChoice initializers (f.listsFor catalog c i)).isComplete = true then
        (numbered c i [firstChoice initializers (f.listsFor catalog c i)]).head?
      else none := by
    intro g limit
    rw [hsome, head?_numbered, List.head?_take, hhead]
    split_ifs <;> rfl
  have hsame : ∀ limit, ((f.combining .capped).adapters catalog c i limit).head? =
      ((f.combining .exhaustive).adapters catalog c i limit).head? := by
    intro limit
    rw [hfirst, hfirst]
  refine ⟨fun limit => ?_, fun limit => ⟨hsame limit, fun best hbest => ?_⟩, ?_⟩
  · rw [← List.head?_eq_none_iff, hsame limit, List.head?_eq_none_iff]
  · rw [hfirst] at hbest
    split_ifs at hbest with hzero hcomplete
    · cases hbest
    · cases hbest
      exact Assignment.map_some_chosen hcomplete
    · cases hbest
  · refine ⟨(rankAssignments ((f.combining .exhaustive).settings.assignments initializers
      (f.listsFor catalog c i))).length, fun limit limit' henough => ?_⟩
    rw [hsome, hsome, unnumbered_numbered, unnumbered_numbered,
      List.take_of_length_le henough]
    refine List.Sublist.map _ ((List.take_sublist limit _).trans ?_)
    exact rankAssignments_sublist (hpool .capped).part

end Fitter

namespace Samples

/-- One candidate for each method, of which there is one use. -/
def frugal : Fitter := .ofSettings { methodMax := 1, candidateMax := 1 }

end Samples

open Samples in
theorem Fitter.capped_refines_exhaustive_frugal :
    frugal.settings.validate = .ok () ∧
      (∀ list ∈ frugal.listsFor ⟨[listStack]⟩ listStack stack, FiniteDistances list) ∧
      ∀ limit,
        ((frugal.combining .capped).adapters ⟨[listStack]⟩ listStack stack limit).head? =
          ((frugal.combining .exhaustive).adapters ⟨[listStack]⟩ listStack stack
            limit).head? := by
  have hvalid : frugal.settings.validate = .ok () := rfl
  have hfinite : ∀ list ∈ frugal.listsFor ⟨[listStack]⟩ listStack stack,
      FiniteDistances list := finiteDistances_of_names (by decide +kernel)
  obtain ⟨-, hhead, -⟩ := capped_refines_exhaustive frugal hvalid ⟨[listStack]⟩ listStack
    stack hfinite
  exact ⟨hvalid, hfinite, fun limit => (hhead limit).1⟩

end Refit
