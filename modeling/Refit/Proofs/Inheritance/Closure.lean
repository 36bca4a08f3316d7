import Refit.Inheritance.Resolution
import Refit.Proofs.Inheritance.Reach

/-!
# Resolved hierarchies as closures

Two relations on names are declared by a list of components: a type extends its
direct supertypes, and it stands under these and under the interfaces declared
for it.  Resolution collects what is reachable along them.  Nothing is assumed
of the list, so cycles, repeated names and unknown names are covered.
-/

namespace Refit

@[simp] theorem NameSet.mem_ofList {x : String} {names : List String} :
    x ∈ NameSet.ofList names ↔ x ∈ names := by
  have hfold : ∀ set : NameSet,
      x ∈ names.foldl (fun set name => set.insert name) set ↔
        x ∈ set ∨ x ∈ names := by
    induction names with
    | nil => simp
    | cons name names ih =>
        intro set
        rw [List.foldl_cons, ih, NameSet.mem_insert, List.mem_cons]
        tauto
  simpa [NameSet.ofList] using hfold []

namespace Resolution

variable {components : List Component}

/-- `b` is a direct supertype of `a`. -/
def Extends (components : List Component) (a b : String) : Prop :=
  b ∈ directSupertypes components a

/-- `b` is a direct supertype of `a` or an interface declared for it. -/
def Under (components : List Component) (a b : String) : Prop :=
  a ≠ rootType ∧ (Extends components a b ∨ b ∈ declaredInterfaces components a)

theorem mem_of_lookup? {name : String} {c : Component}
    (hc : lookup? components name = some c) :
    c ∈ components ∧ c.name = name := by
  have hmem := List.mem_of_find?_eq_some hc
  have hname := List.find?_some hc
  exact ⟨List.mem_reverse.mp hmem, by simpa using hname⟩

theorem lookup?_eq_none_iff {name : String} :
    lookup? components name = none ↔ ∀ c ∈ components, c.name ≠ name := by
  simp [lookup?, List.find?_eq_none]

theorem mem_directSupertypes {a b : String} :
    b ∈ directSupertypes components a ↔
      a ≠ rootType ∧
        ∃ c ∈ components, c.name = a ∧ c.superName.getD rootType = b := by
  unfold directSupertypes
  by_cases hroot : a = rootType
  · simp [hroot]
  · simp [hroot, List.mem_eraseDups, and_assoc]

theorem mem_declaredInterfaces {a b : String} :
    b ∈ declaredInterfaces components a ↔
      ∃ c, lookup? components a = some c ∧ b ∈ c.interfaces := by
  unfold declaredInterfaces
  cases lookup? components a <;> simp

theorem Extends.under {a b : String} (hab : Extends components a b) :
    Under components a b :=
  ⟨(mem_directSupertypes.mp hab).1, .inl hab⟩

theorem Extends.reach_under {a b : String}
    (hab : Relation.ReflTransGen (Extends components) a b) :
    Relation.ReflTransGen (Under components) a b :=
  Relation.ReflTransGen.mono (fun _ _ => Extends.under) _ _ hab

section Edges

theorem length_eraseDups_le (names : List String) :
    names.eraseDups.length ≤ names.length := by
  induction hlength : names.length using Nat.strong_induction_on
    generalizing names with
  | _ n ih =>
      cases names with
      | nil => simp
      | cons name names =>
          rw [List.length_cons] at hlength
          have hfilter := List.length_filter_le (fun other => !other == name) names
          have hrest := ih _ (by omega)
            (names.filter fun other => !other == name) rfl
          rw [List.eraseDups_cons, List.length_cons]
          omega

/-- Every component has one edge to its supertype. -/
def superBudget (components : List Component) : Reach.Budget :=
  components.map fun c => (c.name, 1)

theorem superBudget_total : (superBudget components).total = components.length := by
  simp [superBudget, Reach.Budget.total, Function.comp_def]

theorem superBudget_allowance (name : String) :
    (superBudget components).allowance name =
      (components.filter (·.name == name)).length := by
  induction components with
  | nil => rfl
  | cons c components ih =>
      unfold superBudget Reach.Budget.allowance at ih ⊢
      by_cases hname : c.name = name
      · simp [hname] at ih ⊢
        omega
      · simpa [hname] using ih

theorem length_directSupertypes_le (name : String) :
    (directSupertypes components name).length ≤
      (superBudget components).allowance name := by
  rw [superBudget_allowance]
  unfold directSupertypes
  split
  · simp
  · exact (length_eraseDups_le _).trans (by simp)

theorem superBudget_covers :
    (superBudget components).Covers (directSupertypes components) :=
  length_directSupertypes_le

end Edges

theorem mem_ancestors_iff {name x : String} :
    x ∈ ancestors components name ↔
      Relation.ReflTransGen (Extends components) name x := by
  have hcovers : (superBudget components).Covers (directSupertypes components) :=
    superBudget_covers
  have hreach := Reach.mem_reachable_iff hcovers superBudget_total.le [name] x
  unfold ancestors Extends
  simpa using hreach

section Collecting

variable {due names : List String} {found mid after : NameSet} {fuel : ℕ}

/-- More names were found, each with what is directly above it, as far as that
is not due to be entered later. -/
structure Completes (components : List Component) (due : List String)
    (found after : NameSet) : Prop where
  keeps : ∀ x ∈ found, x ∈ after
  closed : ∀ x ∈ after, x ∉ found → ∀ y, Under components x y →
    y = rootType ∨ y ∈ after ∨ y ∈ due

theorem Completes.refl : Completes components due found found :=
  ⟨fun _ hx => hx, fun _ hx hnot => absurd hx hnot⟩

theorem Completes.trans
    (hfirst : Completes components due found mid)
    (hsecond : Completes components due mid after) :
    Completes components due found after := by
  constructor
  · intro x hx
    exact hsecond.keeps x (hfirst.keeps x hx)
  · intro x hx hnot y hxy
    by_cases hmid : x ∈ mid
    · rcases hfirst.closed x hmid hnot y hxy with hroot | hy | hdue
      · exact .inl hroot
      · exact .inr (.inl (hsecond.keeps y hy))
      · exact .inr (.inr hdue)
    · exact hsecond.closed x hx hmid y hxy

/-- The number of components whose names are not found yet. -/
def missing (components : List Component) (found : NameSet) : ℕ :=
  components.countP fun c => c.name ∉ found

theorem missing_le (hkeeps : ∀ x ∈ found, x ∈ after) :
    missing components after ≤ missing components found := by
  apply List.countP_mono_left
  intro c _ hc
  simp only [decide_eq_true_eq] at hc ⊢
  intro hfound
  exact hc (hkeeps c.name hfound)

theorem missing_insert_lt {c : Component} (hc : c ∈ components)
    (hnot : c.name ∉ found) :
    missing components (found.insert c.name) < missing components found := by
  unfold missing
  induction components with
  | nil => simp at hc
  | cons d rest ih =>
      have hrest : missing rest (found.insert c.name) ≤ missing rest found :=
        missing_le fun x hx => NameSet.mem_insert.mpr (.inr hx)
      unfold missing at hrest
      rw [List.countP_cons, List.countP_cons]
      by_cases hname : d.name = c.name
      · simp [hname, hnot]
        simp at hrest
        omega
      · have hmem : c ∈ rest := by
          rcases List.mem_cons.mp hc with rfl | hmem
          · exact absurd rfl hname
          · exact hmem
        have hlt := ih hmem
        simp only [NameSet.mem_insert, hname, false_or] at hlt ⊢
        omega

/-- Steps that each enter one name enter all names, with turns enough for what
is still missing. -/
theorem foldl_completes
    {step : NameSet → String → NameSet}
    (hstep : ∀ name ∈ names, ∀ found, missing components found < fuel →
      Completes components due found (step found name) ∧
        (name = rootType ∨ name ∈ step found name))
    (hfound : missing components found < fuel) :
    Completes components due found (names.foldl step found) ∧
      ∀ name ∈ names, name = rootType ∨ name ∈ names.foldl step found := by
  induction names generalizing found with
  | nil => exact ⟨.refl, by simp⟩
  | cons name names ih =>
      obtain ⟨hfirst, hname⟩ := hstep name List.mem_cons_self found hfound
      have hmissing := (missing_le hfirst.keeps).trans_lt hfound
      obtain ⟨hrest, hnames⟩ :=
        ih (fun other hother => hstep other (List.mem_cons_of_mem _ hother)) hmissing
      rw [List.foldl_cons]
      refine ⟨hfirst.trans hrest, ?_⟩
      intro other hother
      rcases List.mem_cons.mp hother with rfl | hother
      · exact hname.imp_right (hrest.keeps other)
      · exact hnames other hother

/-- Entering a name brings in the interfaces declared for it; the types that it
extends are due. -/
theorem enter_completes
    {add : NameSet → String → NameSet} {name : String}
    (hadd : ∀ s found, missing components found < fuel →
      Completes components [] found (add found s) ∧
        (s = rootType ∨ s ∈ add found s))
    (hdue : ∀ y, Extends components name y → y ∈ due)
    (hfound : missing components found < fuel + 1) :
    Completes components due found (enter components add found name) ∧
      (name = rootType ∨ name ∈ enter components add found name) := by
  unfold enter
  split
  · next hdone =>
    rw [Bool.or_eq_true, decide_eq_true_eq, List.contains_iff_mem] at hdone
    exact ⟨.refl, hdone⟩
  next hfresh =>
  have hnot : name ∉ found := by
    intro hmem
    simp [hmem] at hfresh
  have hself : name ∈ found.insert name := NameSet.mem_insert.mpr (.inl rfl)
  -- Only a component declares interfaces, and then one less is missing.
  have hdeclared :
      Completes components [] (found.insert name)
          ((declaredInterfaces components name).foldl add (found.insert name)) ∧
        ∀ s ∈ declaredInterfaces components name, s = rootType ∨
          s ∈ (declaredInterfaces components name).foldl add (found.insert name) := by
    cases hlookup : lookup? components name with
    | none =>
        have hnone : declaredInterfaces components name = [] := by
          simp [declaredInterfaces, hlookup]
        rw [hnone]
        exact ⟨.refl, by simp⟩
    | some c =>
        obtain ⟨hc, rfl⟩ := mem_of_lookup? hlookup
        have hlt := missing_insert_lt hc hnot
        exact foldl_completes (fun s _ found hmissing => hadd s found hmissing)
          (by omega)
  obtain ⟨hfold, hall⟩ := hdeclared
  refine ⟨⟨?_, ?_⟩, .inr (hfold.keeps name hself)⟩
  · intro x hx
    exact hfold.keeps x (NameSet.mem_insert.mpr (.inr hx))
  · intro x hx hxnot y hxy
    by_cases hxname : x = name
    · subst hxname
      rcases hxy.2 with hsuper | hinterface
      · exact .inr (.inr (hdue y hsuper))
      · exact (hall y hinterface).imp_right .inl
    · have hxfresh : x ∉ found.insert name := by
        simp [NameSet.mem_insert, hxname, hxnot]
      rcases hfold.closed x hx hxfresh y hxy with hroot | hy | hnone
      · exact .inl hroot
      · exact .inr (.inl hy)
      · simp at hnone

theorem collect_completes (name : String) (hfuel : missing components found < fuel) :
    Completes components [] found (collect components fuel found name) ∧
      (name = rootType ∨ name ∈ collect components fuel found name) := by
  induction fuel generalizing found name with
  | zero => omega
  | succ fuel ih =>
      unfold collect
      split
      · next hdone =>
        rw [Bool.or_eq_true, decide_eq_true_eq, List.contains_iff_mem] at hdone
        exact ⟨.refl, hdone⟩
      -- What is above an ancestor is an ancestor too, so nothing stays due.
      have hstep : ∀ a ∈ ancestors components name, ∀ found,
          missing components found < fuel + 1 →
          Completes components (ancestors components name) found
              (enter components (collect components fuel) found a) ∧
            (a = rootType ∨
              a ∈ enter components (collect components fuel) found a) := by
        intro a ha found hmissing
        refine enter_completes (fun s found hmissing => ih s hmissing) ?_ hmissing
        intro y hay
        exact mem_ancestors_iff.mpr ((mem_ancestors_iff.mp ha).tail hay)
      obtain ⟨hfold, hall⟩ := foldl_completes hstep hfuel
      refine ⟨⟨hfold.keeps, ?_⟩, hall name (mem_ancestors_iff.mpr .refl)⟩
      intro x hx hnot y hxy
      rcases hfold.closed x hx hnot y hxy with hroot | hy | hdue
      · exact .inl hroot
      · exact .inr (.inl hy)
      · exact (hall y hdue).imp_right .inl

theorem foldl_sound
    {step : NameSet → String → NameSet} {P : String → Prop}
    (hstep : ∀ name ∈ names, ∀ found, (∀ x ∈ found, P x) →
      ∀ x ∈ step found name, P x)
    (hfound : ∀ x ∈ found, P x) : ∀ x ∈ names.foldl step found, P x := by
  induction names generalizing found with
  | nil => exact hfound
  | cons name names ih =>
      exact ih (fun other hother => hstep other (List.mem_cons_of_mem _ hother))
        (hstep name List.mem_cons_self found hfound)

/-- Nothing is collected but what satisfies a property that the interface has
and that passes on to whatever is directly above. -/
theorem collect_sound
    {P : String → Prop} (hup : ∀ x y, P x → Under components x y → P y)
    {name : String} (hname : P name)
    (hfound : ∀ x ∈ found, x ≠ rootType ∧ P x) :
    ∀ x ∈ collect components fuel found name, x ≠ rootType ∧ P x := by
  induction fuel generalizing found name with
  | zero => exact hfound
  | succ fuel ih =>
      unfold collect
      split
      · exact hfound
      have hreach : ∀ a ∈ ancestors components name, P a := by
        intro a ha
        have hpath := Extends.reach_under (mem_ancestors_iff.mp ha)
        clear ha
        induction hpath with
        | refl => exact hname
        | tail _ hedge hprev => exact hup _ _ hprev hedge
      refine foldl_sound (fun a ha found hfound => ?_) hfound
      unfold enter
      split
      · exact hfound
      next hfresh =>
      have hroot : a ≠ rootType := by
        intro hroot
        simp [hroot] at hfresh
      refine foldl_sound (fun s hs found hfound => ih ?_ hfound) ?_
      · exact hup a s (hreach a ha) ⟨hroot, .inr hs⟩
      · intro x hx
        rcases NameSet.mem_insert.mp hx with rfl | hx
        · exact ⟨hroot, hreach x ha⟩
        · exact hfound x hx

end Collecting

theorem mem_interfaceClosure_iff {starts : List String} {x : String} :
    x ∈ interfaceClosure components starts ↔
      x ≠ rootType ∧
        ∃ s ∈ starts, Relation.ReflTransGen (Under components) s x := by
  have hmissing : missing components [] < components.length + 1 :=
    Nat.lt_succ_of_le List.countP_le_length
  obtain ⟨hclosed, hstarts⟩ := foldl_completes
    (fun s (_ : s ∈ starts) found hfound => collect_completes s hfound) hmissing
  have hsound : ∀ x ∈ interfaceClosure components starts,
      x ≠ rootType ∧
        ∃ s ∈ starts, Relation.ReflTransGen (Under components) s x := by
    refine foldl_sound (fun s hs found hfound => ?_)
      (fun _ hx => absurd hx List.not_mem_nil)
    exact collect_sound (fun _ _ ⟨s, hs, hreach⟩ hedge => ⟨s, hs, hreach.tail hedge⟩)
      ⟨s, hs, .refl⟩ hfound
  constructor
  · exact hsound x
  · rintro ⟨hroot, s, hs, hreach⟩
    have hfound : x = rootType ∨ x ∈ interfaceClosure components starts := by
      induction hreach with
      | refl => exact hstarts s hs
      | @tail y z _ hedge ih =>
          have hy := (ih hedge.1).resolve_left hedge.1
          rcases hclosed.closed y hy List.not_mem_nil z hedge with hz | hz | hz
          · exact .inl hz
          · exact .inr hz
          · simp at hz
    exact hfound.resolve_left hroot

theorem mem_supertypes_resolve {subject : Component} {x : String} :
    x ∈ (resolve components subject).supertypes ↔
      x = rootType ∨
        x ≠ subject.name ∧
          Relation.ReflTransGen (Extends components) subject.name x := by
  simp only [resolve, NameSet.mem_insert, NameSet.mem_erase, NameSet.mem_ofList,
    mem_ancestors_iff]
  tauto

/-- The interfaces from which those of a component follow: the declared ones of
the component and of every other type it extends. -/
def StartsFrom (components : List Component) (subject : Component)
    (s : String) : Prop :=
  s ∈ subject.interfaces ∨
    ∃ a, a ≠ subject.name ∧
      Relation.ReflTransGen (Extends components) subject.name a ∧
      s ∈ declaredInterfaces components a

theorem mem_interfaces_resolve {subject : Component} {x : String} :
    x ∈ (resolve components subject).interfaces ↔
      x ≠ rootType ∧ x ≠ subject.name ∧
        ∃ s, StartsFrom components subject s ∧
          Relation.ReflTransGen (Under components) s x := by
  have hstarts : ∀ s,
      s ∈ subject.interfaces ++
          (((ancestors components subject.name).filter
            (· ≠ subject.name)).filterMap (lookup? components)).flatMap
              (·.interfaces) ↔
        StartsFrom components subject s := by
    intro s
    simp only [List.mem_append, List.mem_flatMap, List.mem_filterMap,
      List.mem_filter, mem_ancestors_iff, StartsFrom, mem_declaredInterfaces,
      decide_eq_true_eq]
    constructor
    · rintro (hs | ⟨c, ⟨a, ⟨hreach, hne⟩, hc⟩, hs⟩)
      · exact .inl hs
      · exact .inr ⟨a, hne, hreach, c, hc, hs⟩
    · rintro (hs | ⟨a, hne, hreach, c, hc, hs⟩)
      · exact .inl hs
      · exact .inr ⟨c, ⟨a, ⟨hreach, hne⟩, hc⟩, hs⟩
  simp only [resolve, NameSet.mem_erase, mem_interfaceClosure_iff, hstarts]
  tauto

end Resolution

end Refit
