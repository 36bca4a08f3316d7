import Refit.Proofs.Fitting.Generation
import Refit.Proofs.Fitting.WellFormed
import Refit.Samples.Echo

/-!
# Whether there is an adapter

A component that can be made from nothing serves an interface as soon as every method has a
candidate.  One that cannot has to do without an instance.  For this it would be enough that
every method has a static candidate; but the search decides before it chooses, and goes without
an instance only if no candidate of any method needs one.
-/

namespace Refit

namespace Combinations

/-- There is a choice for every method when no list is empty. -/
theorem exists_complete_iff {initializers : List Initializer} {lists : List (List Candidate)} :
    (∃ a ∈ exhaustive initializers lists, a.isComplete = true) ↔ ∀ list ∈ lists, list ≠ [] := by
  constructor
  · rintro ⟨a, ha, hcomplete⟩ list hlist
    have hchosen := a.forall₂_chosen hcomplete (chooses_of_mem_exhaustive ha).2
    obtain ⟨c, -, hc⟩ := forall₂_mem_right hchosen hlist
    exact List.ne_nil_of_mem hc
  · intro hlists
    have hpool : Pool initializers lists (exhaustive initializers lists) :=
      pool_of_trims (trims_self lists) initializers
    refine ⟨firstChoice initializers lists, List.mem_of_head? hpool.head, ?_⟩
    unfold Assignment.isComplete firstChoice
    rw [List.all_eq_true]
    intro choice hchoice
    obtain ⟨list, hlist, rfl⟩ := List.mem_map.mp hchoice
    rw [List.isSome_head?]
    exact hlists list hlist

end Combinations

namespace Fitter

open Combinations

variable {f : Fitter} {catalog : Catalog} {c : Component} {i : Interface}

/-- A candidate for the method with this number: a visible method that the rules accept, with
glue that fits. -/
def Accepts (f : Fitter) (catalog : Catalog) (c : Component) (i : Interface) (number : ℕ)
    (candidate : Candidate) : Prop :=
  ∃ wanted m, i.methods[number]? = some wanted ∧ m ∈ c.visibleMethods ∧
    m.isConstructor = false ∧ MemberRule.allAccept f.rules wanted m = true ∧
    candidate ∈ Matcher.matchMethod ⟨catalog, f.settings.maxParamsLength⟩ number wanted m

/-- A class that declares a constructor without parameters which may be used, or none at all. -/
def MadeFromNothing (f : Fitter) (c : Component) : Prop :=
  c.kind = .concrete ∧
    (c.constructors = [] ∨
      ∃ m ∈ c.constructors, m.arity = 0 ∧
        (f.settings.includePrivate = true ∨ m.visibility ≠ .nowhere))

/-- Every method has a candidate, and if the component cannot be made from nothing, one that
is static. -/
structure Servable (f : Fitter) (catalog : Catalog) (c : Component) (i : Interface) : Prop where
  accepted : ∀ number < i.methods.length, ∃ candidate, f.Accepts catalog c i number candidate
  made : f.MadeFromNothing c ∨ ∀ number < i.methods.length,
    ∃ candidate, f.Accepts catalog c i number candidate ∧ candidate.member.isStatic = true

section Lists

theorem getElem?_listsFor (number : ℕ) :
    (f.listsFor catalog c i)[number]? = i.methods[number]?.map fun wanted =>
      Candidate.rank (Matcher.candidatesFor ⟨catalog, f.settings.maxParamsLength⟩ number wanted
        (c.visibleMethods.filter (MemberRule.allAccept f.rules wanted))) := by
  unfold listsFor rankedLists
  simp only [List.getElem?_map, List.getElem?_zipIdx, Nat.zero_add, Option.map_map]
  rfl

theorem mem_listsFor_iff {number : ℕ} {list : List Candidate}
    (hlist : (f.listsFor catalog c i)[number]? = some list) {candidate : Candidate} :
    candidate ∈ list ↔ f.Accepts catalog c i number candidate := by
  rw [getElem?_listsFor, Option.map_eq_some_iff] at hlist
  obtain ⟨wanted, hwanted, rfl⟩ := hlist
  unfold Accepts Matcher.candidatesFor
  simp only [Candidate.mem_rank, List.mem_flatMap, List.mem_filter, Bool.not_eq_true']
  constructor
  · rintro ⟨m, ⟨⟨hvisible, haccepted⟩, hmethod⟩, hcandidate⟩
    exact ⟨wanted, m, hwanted, hvisible, hmethod, haccepted, hcandidate⟩
  · rintro ⟨other, m, hother, hvisible, hmethod, haccepted, hcandidate⟩
    rw [hwanted] at hother
    cases hother
    exact ⟨m, ⟨⟨hvisible, haccepted⟩, hmethod⟩, hcandidate⟩

theorem length_listsFor (f : Fitter) (catalog : Catalog) (c : Component) (i : Interface) :
    (f.listsFor catalog c i).length = i.methods.length := by
  simp [listsFor, rankedLists]

theorem listsFor_ne_nil (hmethods : i.methods ≠ []) : f.listsFor catalog c i ≠ [] := by
  rw [← List.length_pos_iff, length_listsFor]
  exact List.length_pos_iff.mpr hmethods

theorem exists_listsFor {number : ℕ} (hnumber : number < i.methods.length) :
    ∃ list, (f.listsFor catalog c i)[number]? = some list := by
  rw [← length_listsFor f catalog c i] at hnumber
  exact ⟨_, List.getElem?_eq_getElem hnumber⟩

theorem exists_number_of_mem_listsFor {list : List Candidate}
    (hlist : list ∈ f.listsFor catalog c i) :
    ∃ number < i.methods.length, (f.listsFor catalog c i)[number]? = some list := by
  obtain ⟨number, hnumber⟩ := List.getElem?_of_mem hlist
  refine ⟨number, ?_, hnumber⟩
  rw [← length_listsFor f catalog c i]
  exact (List.getElem?_eq_some_iff.mp hnumber).1

theorem listsFor_nonempty_iff :
    (∀ list ∈ f.listsFor catalog c i, list ≠ []) ↔
      ∀ number < i.methods.length, ∃ candidate, f.Accepts catalog c i number candidate := by
  constructor
  · intro hlists number hnumber
    obtain ⟨list, hlist⟩ := exists_listsFor hnumber
    obtain ⟨candidate, hcandidate⟩ :=
      List.exists_mem_of_ne_nil list (hlists list (List.mem_of_getElem? hlist))
    exact ⟨candidate, (mem_listsFor_iff hlist).mp hcandidate⟩
  · intro haccepted list hmem
    obtain ⟨number, hnumber, hlist⟩ := exists_number_of_mem_listsFor hmem
    obtain ⟨candidate, hcandidate⟩ := haccepted number hnumber
    exact List.ne_nil_of_mem ((mem_listsFor_iff hlist).mpr hcandidate)

theorem listsFor_static_iff :
    (∀ list ∈ f.listsFor catalog c i, ∀ candidate ∈ list, candidate.member.isStatic = true) ↔
      ∀ number candidate, f.Accepts catalog c i number candidate →
        candidate.member.isStatic = true := by
  constructor
  · intro hlists number candidate haccepts
    have hnumber : number < i.methods.length := by
      obtain ⟨wanted, -, hwanted, -⟩ := haccepts
      exact (List.getElem?_eq_some_iff.mp hwanted).1
    obtain ⟨list, hlist⟩ := exists_listsFor hnumber
    exact hlists list (List.mem_of_getElem? hlist) candidate
      ((mem_listsFor_iff hlist).mpr haccepts)
  · intro haccepted list hmem candidate hcandidate
    obtain ⟨number, -, hlist⟩ := exists_number_of_mem_listsFor hmem
    exact haccepted number candidate ((mem_listsFor_iff hlist).mp hcandidate)

end Lists

section Makers

theorem allStatic_listsFor_iff (hmethods : i.methods ≠ []) :
    allStatic (f.listsFor catalog c i) = true ↔
      (∀ number < i.methods.length, ∃ candidate, f.Accepts catalog c i number candidate) ∧
        ∀ number candidate, f.Accepts catalog c i number candidate →
          candidate.member.isStatic = true := by
  have hlists : allStatic (f.listsFor catalog c i) = true ↔
      ∀ list ∈ f.listsFor catalog c i,
        list ≠ [] ∧ ∀ candidate ∈ list, candidate.member.isStatic = true := by
    simp [allStatic, listsFor_ne_nil hmethods]
  rw [hlists, ← listsFor_nonempty_iff, ← listsFor_static_iff]
  exact forall₂_and

theorem mem_usableConstructors_iff {m : Member} :
    m ∈ f.usableConstructors c ↔
      c.kind = .concrete ∧
        ((m ∈ c.constructors ∧ (f.settings.includePrivate = true ∨ m.visibility ≠ .nowhere)) ∨
          (c.constructors = [] ∧ m = defaultConstructor c)) := by
  unfold usableConstructors Component.canBeMade
  by_cases hkind : c.kind = .concrete
  · by_cases hnone : c.constructors = []
    · simp [hkind, hnone]
    · simp [hkind, hnone]
  · simp [hkind]

theorem noArgument?_isSome_iff :
    (noArgument? (f.usableConstructors c)).isSome = true ↔ f.MadeFromNothing c := by
  have hfound : (noArgument? (f.usableConstructors c)).isSome = true ↔
      ∃ m ∈ f.usableConstructors c, m.arity = 0 := by
    simp [noArgument?, List.find?_isSome]
  rw [hfound]
  unfold MadeFromNothing
  simp only [mem_usableConstructors_iff]
  constructor
  · rintro ⟨m, ⟨hkind, ⟨hdeclared, husable⟩ | ⟨hnone, -⟩⟩, harity⟩
    · exact ⟨hkind, .inr ⟨m, hdeclared, harity, husable⟩⟩
    · exact ⟨hkind, .inl hnone⟩
  · rintro ⟨hkind, hnone | ⟨m, hdeclared, harity, husable⟩⟩
    · exact ⟨defaultConstructor c, ⟨hkind, .inr ⟨hnone, rfl⟩⟩, rfl⟩
    · exact ⟨m, ⟨hkind, .inl ⟨hdeclared, husable⟩⟩, harity⟩

/-- An interface without constructors is constructed from nothing, or not at all. -/
theorem isSome_initializers?_iff {m : Matcher} {lists : List (List Candidate)}
    (hconstructors : i.constructors = []) :
    (f.initializers? m c i lists).isSome = true ↔
      allStatic lists = true ∨ f.MadeFromNothing c := by
  rw [← noArgument?_isSome_iff]
  unfold initializers?
  simp only [hconstructors, List.isEmpty_nil, if_true]
  cases allStatic lists with
  | true => simp
  | false => simp

end Makers

theorem rankAssignments_ne_nil_iff {assignments : List Assignment} :
    rankAssignments assignments ≠ [] ↔ ∃ a ∈ assignments, a.isComplete = true := by
  constructor
  · intro hsome
    obtain ⟨a, ha⟩ := List.exists_mem_of_ne_nil _ hsome
    exact ⟨a, mem_rankAssignments.mp ha⟩
  · rintro ⟨a, ha⟩
    exact List.ne_nil_of_mem (mem_rankAssignments.mpr ha)

/-- There is an adapter when there are initializers and a choice for every method. -/
theorem adapters_ne_nil_iff (hgeneration : f.settings.generation = .exhaustive)
    (hkind : c.kind ≠ .interface) (hmethods : i.methods ≠ []) {limit : ℕ} (hlimit : 1 ≤ limit) :
    f.adapters catalog c i limit ≠ [] ↔
      (f.initializers? ⟨catalog, f.settings.maxParamsLength⟩ c i
          (f.listsFor catalog c i)).isSome = true ∧
        ∀ list ∈ f.listsFor catalog c i, list ≠ [] := by
  have hself : f.combining .exhaustive = f := by
    unfold combining
    rw [← hgeneration]
  have hsearch := f.adapters_combining_eq catalog c i .exhaustive limit
  rw [hself, if_neg hkind] at hsearch
  rw [hsearch]
  split
  · next hnone =>
    -- A method without candidates is among those of the interface.
    rw [Bool.and_eq_true, List.all_eq_true] at hnone
    obtain ⟨list, hlist⟩ := List.exists_mem_of_ne_nil _ (listsFor_ne_nil hmethods)
    have hempty := List.isEmpty_iff.mp (hnone.2 list hlist)
    exact iff_of_false (fun h => h rfl) fun h => h.2 list hlist hempty
  · cases f.initializers? ⟨catalog, f.settings.maxParamsLength⟩ c i (f.listsFor catalog c i) with
    | none => simp
    | some initializers =>
        have hassignments : f.settings.assignments initializers (f.listsFor catalog c i) =
            exhaustive initializers (f.listsFor catalog c i) := by
          unfold Settings.assignments
          rw [hgeneration]
        have hlimit : limit ≠ 0 := Nat.one_le_iff_ne_zero.mp hlimit
        rw [← exists_complete_iff, ← rankAssignments_ne_nil_iff, ← hassignments]
        simp [numbered, hlimit]

/-- What can be served is served, unless the component would have to do without an instance
while one of the candidates needs one. -/
theorem adapters_exist_iff (f : Fitter) (hgeneration : f.settings.generation = .exhaustive)
    (catalog : Catalog) (c : Component) (hkind : c.kind ≠ .interface) (i : Interface)
    (hconstructors : i.constructors = []) (hmethods : i.methods ≠ []) (limit : ℕ)
    (hlimit : 1 ≤ limit) :
    f.adapters catalog c i limit ≠ [] ↔
      f.Servable catalog c i ∧
        (f.MadeFromNothing c ∨ ∀ number candidate, f.Accepts catalog c i number candidate →
          candidate.member.isStatic = true) := by
  rw [adapters_ne_nil_iff hgeneration hkind hmethods hlimit,
    isSome_initializers?_iff hconstructors, allStatic_listsFor_iff hmethods,
    listsFor_nonempty_iff]
  constructor
  · rintro ⟨⟨-, hstatic⟩ | hmade, haccepted⟩
    · refine ⟨⟨haccepted, .inr fun number hnumber => ?_⟩, .inr hstatic⟩
      obtain ⟨candidate, haccepts⟩ := haccepted number hnumber
      exact ⟨candidate, haccepts, hstatic number candidate haccepts⟩
    · exact ⟨⟨haccepted, .inl hmade⟩, .inl hmade⟩
  · rintro ⟨⟨haccepted, -⟩, hmade | hstatic⟩
    · exact ⟨.inr hmade, haccepted⟩
    · exact ⟨.inl ⟨haccepted, hstatic⟩, haccepted⟩

end Fitter

namespace Samples

/-- A static method, and one that does the same on an instance. -/
def halfStatic (kind : ComponentKind) : Component :=
  { util with kind, members := [echo, { echo with name := "again", isStatic := false }] }

def thorough : Fitter := frugal.combining .exhaustive

theorem accepts_echo (kind : ComponentKind) :
    thorough.Accepts ⟨[halfStatic kind]⟩ (halfStatic kind) echoing 0 echoCandidate :=
  ⟨echoWanted, echo, rfl, List.mem_cons_self, rfl, rfl, List.mem_singleton_self _⟩

theorem servable_halfStatic (kind : ComponentKind) :
    thorough.Servable ⟨[halfStatic kind]⟩ (halfStatic kind) echoing := by
  constructor
  · intro number hnumber
    obtain rfl : number = 0 := Nat.lt_one_iff.mp hnumber
    exact ⟨echoCandidate, accepts_echo kind⟩
  · right
    intro number hnumber
    obtain rfl : number = 0 := Nat.lt_one_iff.mp hnumber
    exact ⟨echoCandidate, accepts_echo kind, rfl⟩

end Samples

open Samples in
/-- The class can be made from nothing, so it does not matter that a candidate needs an
instance. -/
theorem Fitter.adapters_exist_halfStatic :
    thorough.settings.generation = .exhaustive ∧ (halfStatic .concrete).kind ≠ .interface ∧
      echoing.constructors = [] ∧ echoing.methods ≠ [] ∧
      thorough.adapters ⟨[halfStatic .concrete]⟩ (halfStatic .concrete) echoing 1 ≠ [] := by
  have hmade : thorough.MadeFromNothing (halfStatic .concrete) := ⟨rfl, .inl rfl⟩
  refine ⟨rfl, nofun, rfl, nofun, ?_⟩
  rw [adapters_exist_iff thorough rfl ⟨[halfStatic .concrete]⟩ (halfStatic .concrete) nofun
    echoing rfl nofun 1 le_rfl]
  exact ⟨servable_halfStatic .concrete, .inl hmade⟩

open Samples in
/-- The static method alone would do for the abstract component, but the other one is a
candidate too. -/
theorem Fitter.adapters_mixed_none :
    thorough.Servable ⟨[halfStatic .abstract]⟩ (halfStatic .abstract) echoing ∧
      thorough.adapters ⟨[halfStatic .abstract]⟩ (halfStatic .abstract) echoing 10 = [] := by
  refine ⟨servable_halfStatic .abstract, ?_⟩
  by_contra hsome
  have hkind : (halfStatic .abstract).kind ≠ .interface := nofun
  have hmethods : echoing.methods ≠ [] := nofun
  have hsearch := (adapters_ne_nil_iff rfl hkind hmethods (by decide)).mp hsome
  rcases (isSome_initializers?_iff rfl).mp hsearch.1 with hstatic | ⟨hkind, -⟩
  · have hall := ((allStatic_listsFor_iff hmethods).mp hstatic).2
    have hagain := hall 0 _ ⟨echoWanted, { echo with name := "again", isStatic := false }, rfl,
      List.mem_cons_of_mem _ List.mem_cons_self, rfl, rfl, List.mem_singleton_self _⟩
    cases hagain
  · cases hkind

end Refit
