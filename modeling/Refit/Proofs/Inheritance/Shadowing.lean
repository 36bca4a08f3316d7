import Refit.Proofs.Firsts
import Refit.Proofs.Inheritance.Chains
import Refit.Proofs.Inheritance.Subtyping

/-!
# Shadowing

A component inherits from the types on its super chain.  Each hands down the methods that are open
to the package of the component, and of the methods with one name and the same parameters the
nearest type's first is taken.  The methods that a component shows and those that a call finds are
the declared ones first and then, by the same rule, the inherited ones.
-/

namespace Refit

namespace Member

theorem overrides_iff {m other : Member} :
    m.overrides other = true ↔ m.name = other.name ∧ m.params = other.params := by
  simp [overrides]

theorem overrides_refl (m : Member) : m.overrides m = true :=
  overrides_iff.mpr ⟨rfl, rfl⟩

theorem overrides_symm (m other : Member) (h : m.overrides other = true) :
    other.overrides m = true := by
  obtain ⟨hname, hparams⟩ := overrides_iff.mp h
  exact overrides_iff.mpr ⟨hname.symm, hparams.symm⟩

theorem overrides_trans (k m other : Member) (hkm : k.overrides m = true)
    (hmo : m.overrides other = true) : k.overrides other = true := by
  obtain ⟨hname, hparams⟩ := overrides_iff.mp hkm
  obtain ⟨hname', hparams'⟩ := overrides_iff.mp hmo
  exact overrides_iff.mpr ⟨hname.trans hname', hparams.trans hparams'⟩

theorem isOpenTo_iff {m : Member} {package : String} :
    m.isOpenTo package = true ↔
      m.isConstructor = false ∧ m.visibility ≠ .nowhere ∧
        (m.visibility = .package → m.package = package) := by
  unfold isOpenTo
  cases m.visibility <;> simp

/-- What a call by name and number of arguments looks for. -/
def isCalled (name : String) (arity : Nat) (m : Member) : Bool :=
  m.name == name && m.arity == arity

theorem isCalled_of_overrides {name : String} {arity : Nat} (m other : Member)
    (h : m.overrides other = true) (hother : other.isCalled name arity = true) :
    m.isCalled name arity = true := by
  obtain ⟨hname, hparams⟩ := overrides_iff.mp h
  unfold isCalled Member.arity at hother ⊢
  rwa [hname, hparams]

end Member

namespace Component

theorem addUnlessOverridden_eq (methods more : List Member) :
    addUnlessOverridden methods more =
      methods ++ (firsts Member.overrides more).filter
        fun m => !methods.any (·.overrides m) := by
  induction more generalizing methods with
  | nil => simp [addUnlessOverridden, firsts]
  | cons m more ih =>
      rw [addUnlessOverridden, ih, firsts, List.filter_cons, List.filter_filter]
      cases hm : methods.any (·.overrides m) with
      | true =>
          -- What overrides `m` overrides whatever `m` overrides.
          simp only [if_true, Bool.not_true, Bool.false_eq_true, if_false]
          congr 1
          refine List.filter_congr fun b _ => ?_
          cases hmb : m.overrides b with
          | false => simp
          | true =>
              obtain ⟨o, ho, hom⟩ := List.any_eq_true.mp hm
              have hany : methods.any (·.overrides b) = true :=
                List.any_eq_true.mpr ⟨o, ho, Member.overrides_trans o m b hom hmb⟩
              rw [hany]
              rfl
      | false =>
          simp only [Bool.false_eq_true, if_false, Bool.not_false, if_true,
            List.append_assoc, List.cons_append, List.nil_append]
          congr 2
          refine List.filter_congr fun b _ => ?_
          simp only [List.any_append, List.any_cons, List.any_nil, Bool.or_false, Bool.not_or]

theorem addUnlessOverridden_append (methods more further : List Member) :
    addUnlessOverridden methods (more ++ further) =
      addUnlessOverridden (addUnlessOverridden methods more) further := by
  induction more generalizing methods with
  | nil => rfl
  | cons m more ih => exact ih _

end Component

namespace Resolution

variable {components resolved : List Component} {package : String} {chain : List String}

/-- The methods of a type that components of a package inherit, as far as no nearer type has
them. -/
def handedDown (components : List Component) (package name : String) : List Member :=
  match lookup? components name with
  | some c => c.methods.filter (·.isOpenTo package)
  | none => []

theorem isOpenTo_of_handedDown {name : String} {m : Member}
    (hm : m ∈ handedDown components package name) : m.isOpenTo package = true := by
  unfold handedDown at hm
  split at hm
  · exact (List.mem_filter.mp hm).2
  · cases hm

theorem foldl_inheritFrom (inherited : List Member) (chain : List String) :
    (chain.filterMap (lookup? components)).foldl (inheritFrom package) inherited =
      Component.addUnlessOverridden inherited
        (chain.flatMap (handedDown components package)) := by
  induction chain generalizing inherited with
  | nil => rfl
  | cons name chain ih =>
      rw [List.flatMap_cons, Component.addUnlessOverridden_append, ← ih, List.filterMap_cons,
        handedDown]
      cases lookup? components name <;> rfl

/-- Of the methods with the name and the parameters of `m`, the types of the chain hand down `k`
first, the nearest of them before the others. -/
def NearestOf (components : List Component) (package : String) (chain : List String)
    (m k : Member) : Prop :=
  ∃ near a far, chain = near ++ a :: far ∧
    (handedDown components package a).find? (·.overrides m) = some k ∧
    ∀ b ∈ near, ∀ other ∈ handedDown components package b, other.overrides m = false

theorem nearestOf_iff {m k : Member} :
    NearestOf components package chain m k ↔
      (chain.flatMap (handedDown components package)).find? (·.overrides m) = some k := by
  rw [List.find?_flatMap, List.findSome?_eq_some_iff]
  simp only [NearestOf, List.find?_eq_none, Bool.not_eq_true]

/-- The methods that components of a package inherit along a chain of types. -/
structure InheritsAlong (components : List Component) (package : String) (chain : List String)
    (inherited : List Member) : Prop where
  /-- Of each name with its parameters there is one method, the nearest. -/
  one : ∀ a ∈ chain, ∀ m ∈ handedDown components package a,
    ∃ k, inherited.filter (·.overrides m) = [k] ∧ NearestOf components package chain m k
  only : ∀ k ∈ inherited, ∃ a ∈ chain, k ∈ handedDown components package a
  visible : ∀ k ∈ inherited, k.isConstructor = false ∧ k.visibility ≠ .nowhere ∧
    (k.visibility = .package → k.package = package)
  /-- They are in the order of the chain and, within a type, in the order of declaration. -/
  order : inherited.Pairwise fun k l =>
    (chain.flatMap (handedDown components package)).findIdx (·.overrides k) <
      (chain.flatMap (handedDown components package)).findIdx (·.overrides l)

theorem inheritsAlong_firsts (components : List Component) (package : String)
    (chain : List String) :
    InheritsAlong components package chain
      (firsts Member.overrides (chain.flatMap (handedDown components package))) := by
  have hfrom : ∀ k ∈ firsts Member.overrides (chain.flatMap (handedDown components package)),
      ∃ a ∈ chain, k ∈ handedDown components package a :=
    fun k hk => List.mem_flatMap.mp (firsts_subset _ _ hk)
  constructor
  · intro a ha m hm
    have hmem := List.mem_flatMap.mpr ⟨a, ha, hm⟩
    have hfound :
        ((chain.flatMap (handedDown components package)).find? (·.overrides m)).isSome :=
      List.find?_isSome.mpr ⟨m, hmem, Member.overrides_refl m⟩
    obtain ⟨k, hk⟩ := Option.isSome_iff_exists.mp hfound
    refine ⟨k, ?_, nearestOf_iff.mpr hk⟩
    rw [filter_firsts Member.overrides_symm Member.overrides_trans, hk]
    rfl
  · exact hfrom
  · intro k hk
    obtain ⟨a, -, ha⟩ := hfrom k hk
    exact Member.isOpenTo_iff.mp (isOpenTo_of_handedDown ha)
  · exact pairwise_findIdx_firsts Member.overrides_refl _

theorem inherited_resolve {c : Component}
    (hancestors : ancestors components c.name = c.name :: chain)
    (hnodup : (c.name :: chain).Nodup) :
    (resolve components c).inherited =
      firsts Member.overrides (chain.flatMap (handedDown components c.package)) := by
  have hstrict : (ancestors components c.name).filter (· ≠ c.name) = chain := by
    rw [hancestors, List.filter_cons_of_neg (by simp), List.filter_eq_self]
    intro a ha
    have hne : a ≠ c.name := by
      rintro rfl
      exact (List.nodup_cons.mp hnodup).1 ha
    simpa using hne
  simp only [resolve, hstrict, foldl_inheritFrom, Component.addUnlessOverridden_eq]
  simp

theorem visibleMethods_of_apart {c : Component} {h : Hierarchy}
    (hhierarchy : c.hierarchy = some h)
    (hapart : h.inherited.Pairwise fun k l => k.overrides l = false) :
    c.visibleMethods =
      c.methods ++ h.inherited.filter fun m => !c.methods.any (·.overrides m) := by
  unfold Component.visibleMethods
  rw [hhierarchy]
  simp only [Component.addUnlessOverridden_eq, firsts_eq_self hapart]

/-- A call finds a declared method; only where there is none, inherited ones are tried. -/
theorem find?_shown (methods inherited : List Member) (name : String) (arity : Nat) :
    (methods ++ inherited.filter fun m => !methods.any (·.overrides m)).find?
        (·.isCalled name arity) =
      (methods.find? (·.isCalled name arity)).or
        (inherited.find? (·.isCalled name arity)) := by
  rw [List.find?_append]
  cases hdeclared : methods.find? (·.isCalled name arity) with
  | some m => rfl
  | none =>
      rw [List.find?_eq_none] at hdeclared
      refine find?_filter_of_imp fun m _ hm => ?_
      rw [Bool.not_eq_true', List.any_eq_false]
      intro o ho hom
      exact hdeclared o ho (Member.isCalled_of_overrides o m hom hm)

/-- What the resolved component `r` has from the types on the super chain of `c`. -/
structure NearestFirst (components resolved : List Component) (c r : Component)
    (chain : List String) (h : Hierarchy) : Prop where
  attached : r = { c with hierarchy := some h }
  chained : SuperChain components c.name chain
  inherits : InheritsAlong components c.package chain h.inherited
  shows : r.visibleMethods =
    c.methods ++ h.inherited.filter fun m => !c.methods.any (·.overrides m)
  finds : ∀ name arity, (Catalog.mk resolved).findMethod? c.name name arity =
    (c.methods.find? (·.isCalled name arity)).or
      (chain.findSome? fun a =>
        (handedDown components c.package a).find? (·.isCalled name arity))

/-- Methods are inherited nearest first, shown behind the declared ones unless these override them,
and found by a call in this order. -/
theorem inherited_nearest_first (components : List Component)
    (hdistinct : (components.map (·.name)).Nodup)
    (hfresh : ∀ c ∈ components, c.hierarchy = none) :
    ∃ resolved, resolveAll components = .ok resolved ∧
      List.Forall₂ (fun c r => ∃ chain h, NearestFirst components resolved c r chain h)
        components resolved := by
  have hresolved := resolveAll_of_unresolved hfresh
  refine ⟨_, hresolved, ?_⟩
  rw [List.forall₂_map_right_iff, List.forall₂_same]
  intro c hc
  obtain ⟨chain, hancestors, hchain⟩ := exists_superChain hdistinct c.name
  have hinherited := inherited_resolve hancestors hchain.nodup
  have hshown : ({ c with hierarchy := some (resolve components c) } : Component).visibleMethods =
      c.methods ++
        (resolve components c).inherited.filter (fun m => !c.methods.any (·.overrides m)) :=
    visibleMethods_of_apart rfl (hinherited ▸ pairwise_firsts _ _)
  refine ⟨chain, resolve components c, rfl, hchain, ?_, hshown, ?_⟩
  · rw [hinherited]
    exact inheritsAlong_firsts components c.package chain
  · intro name arity
    have hget := lookup?_resolved hresolved c.name
    rw [lookup?_of_mem hdistinct hc] at hget
    calc (Catalog.mk _).findMethod? c.name name arity
        = ({ c with hierarchy := some (resolve components c) } : Component).visibleMethods.find?
            (·.isCalled name arity) := by
          simp only [Catalog.findMethod?, Catalog.get?, hget, Option.map_some]
          rfl
      _ = (c.methods.find? (·.isCalled name arity)).or
            ((resolve components c).inherited.find? (·.isCalled name arity)) := by
          rw [hshown, find?_shown]
      _ = _ := by
          rw [hinherited, find?_firsts Member.isCalled_of_overrides, List.find?_flatMap]

/-- Two packages in one circle of types, with overloads and with methods that are not open to both,
and a type under one that is not there. -/
def knotted : List Component :=
  [{ name := "app.Leaf", id := "leaf", superName := some "app.Middle"
     members := [{ name := "run", declaring := "app.Leaf" }] },
    { name := "app.Middle", id := "middle", superName := some "lib.Base"
      members :=
        [{ name := "<init>", kind := .constructor, declaring := "app.Middle" },
          { name := "size", visibility := .package, declaring := "app.Middle" },
          { name := "grow", visibility := .nowhere, declaring := "app.Middle" }] },
    { name := "lib.Base", id := "base", superName := some "app.Leaf"
      members :=
        [{ name := "size", declaring := "lib.Base" },
          { name := "size", params := [.object], declaring := "lib.Base" },
          { name := "run", visibility := .family, declaring := "lib.Base" },
          { name := "grow", visibility := .package, declaring := "lib.Base" }] },
    { name := "lib.Lone", id := "lone", superName := some "lib.Missing" }]

theorem inherited_nearest_first_knotted :
    (knotted.map (·.name)).Nodup ∧ (∀ c ∈ knotted, c.hierarchy = none) ∧
    ∃ resolved, resolveAll knotted = .ok resolved ∧
      List.Forall₂ (fun c r => ∃ chain h, NearestFirst knotted resolved c r chain h)
        knotted resolved :=
  ⟨by decide, by decide, inherited_nearest_first knotted (by decide) (by decide)⟩

example : (knotted.map fun c => (resolve knotted c).inherited.map fun m => (m.name, m.declaring)) =
    [[("size", "app.Middle"), ("size", "lib.Base"), ("run", "lib.Base")],
      [("size", "lib.Base"), ("size", "lib.Base"), ("run", "lib.Base")],
      [("run", "app.Leaf")], []] := by
  decide +kernel

end Resolution

end Refit
