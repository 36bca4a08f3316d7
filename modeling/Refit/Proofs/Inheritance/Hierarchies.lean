import Mathlib.Order.Bounds.Basic
import Refit.Proofs.Inheritance.Closure

/-!
# What resolution attaches

The hierarchy of a component is determined by the declared edges alone: all
types that it extends, and the least set of names that its own interfaces and
those of its supertypes lead to.  Every list of components is resolved, whether
or not its declarations run in circles, repeat a name or name what is not
there.
-/

namespace Refit.Resolution

variable {components : List Component} {subject : Component}

/-- The set holds the interfaces declared for a component and for the types
that it extends, and with a name whatever is directly above it. -/
structure Gathers (components : List Component) (subject : Component)
    (names : Set String) : Prop where
  own : ∀ s ∈ subject.interfaces, s ∈ names
  inherited : ∀ a, a ≠ subject.name →
    Relation.ReflTransGen (Extends components) subject.name a →
      ∀ s ∈ declaredInterfaces components a, s ∈ names
  upward : ∀ x ∈ names, ∀ y, Under components x y → y ∈ names

/-- The names that the interfaces of a component lead to. -/
def gathered (components : List Component) (subject : Component) : Set String :=
  {x | ∃ s, StartsFrom components subject s ∧
    Relation.ReflTransGen (Under components) s x}

theorem gathered_isLeast :
    IsLeast {names | Gathers components subject names}
      (gathered components subject) := by
  constructor
  · constructor
    · intro s hs
      exact ⟨s, .inl hs, .refl⟩
    · intro a hne hreach s hs
      exact ⟨s, .inr ⟨a, hne, hreach, hs⟩, .refl⟩
    · rintro x ⟨s, hstart, hreach⟩ y hxy
      exact ⟨s, hstart, hreach.tail hxy⟩
  · rintro names hgathers x ⟨s, hstart, hreach⟩
    induction hreach with
    | refl =>
        rcases hstart with hs | ⟨a, hne, ha, hs⟩
        · exact hgathers.own s hs
        · exact hgathers.inherited a hne ha s hs
    | tail _ hedge ih => exact hgathers.upward _ ih _ hedge

/-- A hierarchy holds the types that a component extends, with the root type and
without the component, and the least set that its interfaces lead to, without
either of them. -/
structure IsHierarchyOf (components : List Component) (subject : Component)
    (h : Hierarchy) : Prop where
  supertypes : ∀ x, x ∈ h.supertypes ↔
    x = rootType ∨
      x ≠ subject.name ∧
        Relation.ReflTransGen (Extends components) subject.name x
  interfaces : ∃ names, IsLeast {names | Gathers components subject names} names ∧
    ∀ x, x ∈ h.interfaces ↔ x ∈ names ∧ x ≠ rootType ∧ x ≠ subject.name

theorem find?_resolved_eq_none (hfresh : ∀ c ∈ components, c.hierarchy = none) :
    components.find? (·.hierarchy.isSome) = none := by
  rw [List.find?_eq_none]
  intro c hc
  simp [hfresh c hc]

theorem resolveAll_of_unresolved
    (hfresh : ∀ c ∈ components, c.hierarchy = none) :
    resolveAll components =
      .ok (components.map fun c =>
        { c with hierarchy := some (resolve components c) }) := by
  unfold resolveAll
  rw [find?_resolved_eq_none hfresh]

/-- Every list of unresolved components is resolved, and each component gets the
hierarchy that the declarations determine. -/
theorem resolveAll_hierarchies
    (components : List Component) (hfresh : ∀ c ∈ components, c.hierarchy = none) :
    ∃ resolved, resolveAll components = .ok resolved ∧
      List.Forall₂
        (fun c r => ∃ h, r = { c with hierarchy := some h } ∧
          IsHierarchyOf components c h)
        components resolved := by
  refine ⟨_, resolveAll_of_unresolved hfresh, ?_⟩
  rw [List.forall₂_map_right_iff, List.forall₂_same]
  intro c _
  refine ⟨resolve components c, rfl, ?_, ?_⟩
  · intro x
    exact mem_supertypes_resolve
  · refine ⟨gathered components c, gathered_isLeast, ?_⟩
    intro x
    rw [mem_interfaces_resolve]
    constructor
    · rintro ⟨hroot, hself, hx⟩
      exact ⟨hx, hroot, hself⟩
    · rintro ⟨hx, hroot, hself⟩
      exact ⟨hroot, hself, hx⟩

/-- Classes and interfaces in circles, a repeated name and an unknown one. -/
def tangled : List Component :=
  [{ name := "demo.A", id := "a", superName := some "demo.B", interfaces := ["demo.I"] },
    { name := "demo.B", id := "b", superName := some "demo.A", interfaces := ["demo.J"] },
    { name := "demo.I", id := "i", kind := .interface, interfaces := ["demo.J"] },
    { name := "demo.J", id := "j", kind := .interface,
      interfaces := ["demo.I", "demo.Unknown"] },
    { name := "demo.B", id := "b2", superName := some "demo.C" }]

theorem resolveAll_hierarchies_tangled :
    (∀ c ∈ tangled, c.hierarchy = none) ∧
    ∃ resolved, resolveAll tangled = .ok resolved ∧
      List.Forall₂
        (fun c r => ∃ h, r = { c with hierarchy := some h } ∧
          IsHierarchyOf tangled c h)
        tangled resolved :=
  ⟨by decide, resolveAll_hierarchies tangled (by decide)⟩

example : (tangled.map fun c => (resolve tangled c).interfaces) =
    [["demo.I", "demo.J", "demo.Unknown"], ["demo.I", "demo.J", "demo.Unknown"],
      ["demo.J", "demo.Unknown"], ["demo.I", "demo.Unknown"],
      ["demo.I", "demo.J", "demo.Unknown"]] := by
  decide +kernel

end Refit.Resolution
