import Refit.Fitting.Fitter
import Refit.Proofs.Matching.Candidates
import Refit.Proofs.Ranking.Combinations

/-!
# Adapters are well formed

An adapter serves each method of the interface by a visible method that the
rules accept, and each constructor by a constructor that the component may be
made with.  Only when all its methods are static it goes without an instance.
-/

namespace Refit

/-- A candidate serves the method with this number. -/
structure Candidate.ServesMethod (s : Fitter) (component : Component)
    (number : ℕ) (wanted : Operation) (c : Candidate) : Prop where
  operation : c.operation = number
  visible : c.member ∈ component.visibleMethods
  accepted : MemberRule.allAccept s.rules wanted c.member = true
  method : c.member.isConstructor = false
  arity : c.member.arity = wanted.arity
  positions : c.positions.Perm (List.range wanted.arity)
  conversions : c.conversions.length = wanted.arity

/-- A candidate serves the constructor with this number, for that many inputs. -/
structure Candidate.ServesConstructor (s : Fitter) (component : Component)
    (number arity : ℕ) (c : Candidate) : Prop where
  operation : c.operation = number
  usable : c.member ∈ s.usableConstructors component
  positions_length : c.positions.length = c.member.arity
  conversions_length : c.conversions.length = c.member.arity
  position_lt : ∀ position ∈ c.positions, position < arity

/-- The number of inputs of a constructor of the interface; an interface without
constructors is constructed from nothing. -/
def Interface.constructorArity (i : Interface) (number : ℕ) : ℕ :=
  match i.constructors[number]? with
  | some wanted => wanted.arity
  | none => 0

structure Adapter.WellFormed (s : Fitter) (component : Component)
    (i : Interface) (a : Adapter) : Prop where
  methods_length : a.methods.length = i.methods.length
  methods : ∀ (number : ℕ) (wanted : Operation),
    i.methods[number]? = some wanted →
      ∃ c, a.methods[number]? = some c ∧
        c.ServesMethod s component number wanted
  initializers_length : a.initializers.length = max 1 i.constructors.length
  constructors : ∀ (number : ℕ) (c : Candidate),
    a.initializers[number]? = some (.constructor c) →
      c.ServesConstructor s component number (i.constructorArity number)
  static : Initializer.static ∈ a.initializers →
    ∀ c ∈ a.methods, c.member.isStatic = true

namespace Fitter

variable {s : Fitter} {component : Component} {i : Interface}

theorem isConstructor_of_mem_usableConstructors
    {m : Member} (hm : m ∈ s.usableConstructors component) :
    m.isConstructor = true := by
  unfold usableConstructors at hm
  split at hm
  · rw [List.mem_append] at hm
    rcases hm with hdeclared | hdefault
    · exact (List.mem_filter.mp (List.mem_filter.mp hdeclared).1).2
    · split at hdefault
      · rw [List.mem_singleton] at hdefault
        subst hdefault
        rfl
      · cases hdefault
  · cases hm

theorem servesConstructor_of_noArgument?
    {c : Candidate} {number arity : ℕ}
    (hc : noArgument? (s.usableConstructors component) = some c) :
    { c with operation := number }.ServesConstructor s component number
      arity := by
  obtain ⟨m, hm, rfl⟩ := Option.map_eq_some_iff.mp hc
  have harity : m.arity = 0 := by simpa using List.find?_some hm
  exact ⟨rfl, List.mem_of_find?_eq_some hm, harity.symm, harity.symm, by simp⟩

theorem servesConstructor_of_mem_constructorsFor
    {m : Matcher} {number : ℕ} {wanted : Operation} {c : Candidate}
    (hc : c ∈ m.constructorsFor number wanted (s.usableConstructors component)) :
    c.ServesConstructor s component number wanted.arity := by
  obtain ⟨hoperation, hmember, -, hfits, -⟩ := Matcher.mem_constructorsFor hc
  refine ⟨hoperation, hmember, ?_, ?_, fun _ => hfits.position_lt⟩
  · rw [hfits.positions.length_eq, List.length_range, hfits.arity]
  · rw [hfits.conversions, hfits.arity]

theorem initializer?_cases
    {m : Matcher} {static : Bool} {number : ℕ} {wanted : Operation}
    {init : Initializer}
    (hinit : initializer? m (s.usableConstructors component) static number
      wanted = some init) :
    (∃ c, init = .constructor c ∧
      c.ServesConstructor s component number wanted.arity) ∨
    (init = .static ∧ static = true) := by
  unfold initializer? at hinit
  split at hinit
  · next best rest hrank =>
    cases hinit
    have hbest : best ∈ m.constructorsFor number wanted
        (s.usableConstructors component) :=
      Candidate.mem_rank.mp (hrank ▸ List.mem_cons_self)
    exact .inl ⟨best, rfl, servesConstructor_of_mem_constructorsFor hbest⟩
  split at hinit
  · next fallback hfallback =>
    split at hinit
    · cases hinit
      exact .inl ⟨_, rfl, servesConstructor_of_noArgument? hfallback⟩
    split at hinit
    · next hstatic =>
      cases hinit
      exact .inr ⟨rfl, hstatic⟩
    · cases hinit
  · split at hinit
    · next hstatic =>
      cases hinit
      exact .inr ⟨rfl, hstatic⟩
    · cases hinit

theorem initializers?_cases
    {m : Matcher} {lists : List (List Candidate)} {inits : List Initializer}
    (hinits : s.initializers? m component i lists = some inits) :
    inits.length = max 1 i.constructors.length ∧
    (∀ (number : ℕ) (c : Candidate), inits[number]? = some (.constructor c) →
      c.ServesConstructor s component number (i.constructorArity number)) ∧
    (Initializer.static ∈ inits → allStatic lists = true) := by
  unfold initializers? at hinits
  simp only at hinits
  split at hinits
  · next hnone =>
    rw [List.isEmpty_iff] at hnone
    split at hinits
    · next hstatic =>
      cases hinits
      refine ⟨by simp [hnone], ?_, fun _ => hstatic⟩
      intro number c hc
      cases number <;> simp at hc
    · obtain ⟨c, hc, rfl⟩ := Option.map_eq_some_iff.mp hinits
      refine ⟨by simp [hnone], ?_, by simp⟩
      intro number other hother
      cases number with
      | zero =>
          cases hother
          have hserves : ({ c with operation := 0 } : Candidate).ServesConstructor
              s component 0 (i.constructorArity 0) :=
            servesConstructor_of_noArgument? hc
          obtain ⟨m, -, rfl⟩ := Option.map_eq_some_iff.mp hc
          exact hserves
      | succ number => simp at hother
  · next hsome =>
    have hpaired := forall₂_of_mapM_eq_some hinits
    have hlength : inits.length = i.constructors.length := by
      rw [← hpaired.length_eq, List.length_zipIdx]
    have hpositive : 0 < i.constructors.length := by
      rw [List.length_pos_iff]
      simpa using hsome
    refine ⟨by omega, ?_, ?_⟩
    · intro number c hc
      obtain ⟨⟨wanted, place⟩, hplace, hinit⟩ := forall₂_getElem?_right hpaired hc
      rw [List.getElem?_zipIdx, Option.map_eq_some_iff] at hplace
      obtain ⟨wanted, hwanted, hpair⟩ := hplace
      simp only [Nat.zero_add, Prod.mk.injEq] at hpair
      obtain ⟨rfl, rfl⟩ := hpair
      rcases initializer?_cases hinit with ⟨other, heq, hserves⟩ | ⟨heq, -⟩
      · cases heq
        simpa [Interface.constructorArity, hwanted] using hserves
      · cases heq
    · intro hstatic
      obtain ⟨number, hnumber⟩ := List.getElem?_of_mem hstatic
      obtain ⟨⟨wanted, place⟩, -, hinit⟩ :=
        forall₂_getElem?_right hpaired hnumber
      rcases initializer?_cases hinit with ⟨other, heq, -⟩ | ⟨-, hstatic⟩
      · cases heq
      · exact hstatic

theorem servesMethod_of_mem_rankedLists
    {catalog : Catalog} {longest : ℕ} {number : ℕ} {list : List Candidate}
    (hlist : (s.rankedLists ⟨catalog, longest⟩ component i)[number]? = some list)
    {c : Candidate} (hc : c ∈ list) :
    ∃ wanted, i.methods[number]? = some wanted ∧
      c.ServesMethod s component number wanted := by
  unfold rankedLists at hlist
  simp only [List.getElem?_map, List.getElem?_zipIdx, Nat.zero_add,
    Option.map_map, Option.map_eq_some_iff] at hlist
  obtain ⟨wanted, hwanted, rfl⟩ := hlist
  obtain ⟨hoperation, hmember, hmethod, hfits, -⟩ :=
    Matcher.mem_candidatesFor (Candidate.mem_rank.mp hc)
  obtain ⟨hvisible, haccepted⟩ := List.mem_filter.mp hmember
  exact ⟨wanted, hwanted, hoperation, hvisible, haccepted, hmethod, hfits.arity,
    hfits.positions, hfits.conversions⟩

theorem mem_rankAssignments
    {a : Assignment} {assignments : List Assignment} :
    a ∈ rankAssignments assignments ↔ a ∈ assignments ∧ a.isComplete = true := by
  unfold rankAssignments
  rw [List.mem_mergeSort, List.mem_filter]

theorem adapters_eq_some
    {catalog : Catalog} {limit number : ℕ} {a : Adapter}
    (ha : (s.adapters catalog component i limit)[number]? = some a) :
    ∃ inits assignment,
      s.initializers? ⟨catalog, s.settings.maxParamsLength⟩ component i
        (s.rankedLists ⟨catalog, s.settings.maxParamsLength⟩ component i) =
          some inits ∧
      assignment ∈ s.settings.assignments inits
        (s.rankedLists ⟨catalog, s.settings.maxParamsLength⟩ component i) ∧
      assignment.isComplete = true ∧
      a.adapterId = number ∧ a.initializers = assignment.initializers ∧
      a.methods = assignment.chosen := by
  unfold adapters at ha
  split at ha
  · simp at ha
  simp only at ha
  split at ha
  · simp at ha
  split at ha
  · simp at ha
  next inits hinits =>
  simp only [List.getElem?_map, List.getElem?_zipIdx, Nat.zero_add,
    Option.map_map, Option.map_eq_some_iff] at ha
  obtain ⟨assignment, hassignment, rfl⟩ := ha
  have hmem := List.mem_of_mem_take (List.mem_of_getElem? hassignment)
  obtain ⟨hgenerated, hcomplete⟩ := mem_rankAssignments.mp hmem
  exact ⟨inits, assignment, hinits, hgenerated, hcomplete, rfl, rfl, rfl⟩

theorem candidateId_of_mem_adapters
    {catalog : Catalog} {limit : ℕ} {a : Adapter}
    (ha : a ∈ s.adapters catalog component i limit) : a.candidateId = component.id := by
  unfold adapters at ha
  split at ha
  · simp at ha
  simp only at ha
  split at ha
  · simp at ha
  split at ha
  · simp at ha
  · obtain ⟨_, -, rfl⟩ := List.mem_map.mp ha
    rfl

theorem nodup_adapterIds
    (s : Fitter) (catalog : Catalog) (component : Component) (i : Interface) (limit : ℕ) :
    ((s.adapters catalog component i limit).map (·.adapterId)).Nodup := by
  have hids : (s.adapters catalog component i limit).map (·.adapterId) =
      List.range (s.adapters catalog component i limit).length := by
    refine List.ext_getElem? fun number => ?_
    rw [List.getElem?_map]
    cases ha : (s.adapters catalog component i limit)[number]? with
    | none =>
        rw [List.getElem?_eq_none_iff] at ha
        simp [ha]
    | some a =>
        obtain ⟨-, -, -, -, -, hid, -, -⟩ := adapters_eq_some ha
        obtain ⟨hlt, -⟩ := List.getElem?_eq_some_iff.mp ha
        simp [hid, hlt]
  rw [hids]
  exact List.nodup_range

theorem length_adapters_le
    (s : Fitter) (catalog : Catalog) (component : Component) (i : Interface)
    (limit : ℕ) : (s.adapters catalog component i limit).length ≤ limit := by
  unfold adapters
  split
  · simp
  simp only
  split
  · simp
  split
  · simp
  · rw [List.length_map, List.length_zipIdx, List.length_take]
    omega

theorem adapter_wellFormed
    {catalog : Catalog} {limit number : ℕ} {a : Adapter}
    (ha : (s.adapters catalog component i limit)[number]? = some a) :
    a.adapterId = number ∧ a.WellFormed s component i := by
  obtain ⟨inits, assignment, hinits, hgenerated, hcomplete, hid, hinitializers,
    hmethods⟩ := adapters_eq_some ha
  obtain ⟨hlength, hconstructors, hstatic⟩ := initializers?_cases hinits
  obtain ⟨hkept, hchooses⟩ := Settings.chooses_of_mem_assignments hgenerated
  have hchosen := assignment.forall₂_chosen hcomplete hchooses
  rw [hkept] at hinitializers
  refine ⟨hid, ⟨?_, ?_, by rw [hinitializers, hlength], ?_, ?_⟩⟩
  · rw [hmethods, hchosen.length_eq]
    simp [rankedLists]
  · intro place wanted hwanted
    have hlist : ∃ list, (s.rankedLists
        ⟨catalog, s.settings.maxParamsLength⟩ component i)[place]? =
          some list := by
      simp [rankedLists, List.getElem?_zipIdx, hwanted]
    obtain ⟨list, hlist⟩ := hlist
    obtain ⟨c, hc, hmem⟩ := forall₂_getElem?_right hchosen hlist
    obtain ⟨other, hother, hserves⟩ := servesMethod_of_mem_rankedLists hlist hmem
    rw [hwanted] at hother
    cases hother
    exact ⟨c, by rw [hmethods, hc], hserves⟩
  · intro place c hc
    rw [hinitializers] at hc
    exact hconstructors place c hc
  · intro hmem c hc
    rw [hinitializers] at hmem
    rw [hmethods] at hc
    obtain ⟨place, hplace⟩ := List.getElem?_of_mem hc
    obtain ⟨list, hlist, hin⟩ := forall₂_getElem?_left hchosen hplace
    have hall := hstatic hmem
    unfold allStatic at hall
    simp only [Bool.and_eq_true, List.all_eq_true] at hall
    exact (hall.2 list (List.mem_of_getElem? hlist)).2 c hin

end Fitter

end Refit
