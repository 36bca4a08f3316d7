import Refit.Proofs.Inheritance.Hierarchies

/-!
# The subtype relation of a resolved catalog

Supertypes and interfaces are two closures, each without the component itself,
and one of them without the root type.  Put together by the subtype test they
are one relation again: everything reachable along the declared edges, with the
root type above all names.
-/

namespace Refit

namespace Resolution

variable {components resolved : List Component}

theorem resolveAll_eq_ok
    (hresolved : resolveAll components = .ok resolved) :
    resolved =
      components.map fun c =>
        { c with hierarchy := some (resolve components c) } := by
  unfold resolveAll at hresolved
  split at hresolved
  · simp at hresolved
  · simpa using hresolved.symm

theorem lookup?_resolved
    (hresolved : resolveAll components = .ok resolved) (name : String) :
    lookup? resolved name =
      (lookup? components name).map fun c =>
        { c with hierarchy := some (resolve components c) } := by
  rw [resolveAll_eq_ok hresolved]
  simp only [lookup?, ← List.map_reverse, List.find?_map]
  rfl

/-- From a known name that is not the root type, the supertypes and interfaces
that resolution finds are the names reachable along declared edges. -/
theorem resolve_contains_iff
    (hroot : ∀ c ∈ components, c.name ≠ rootType)
    {sub sup : String} {subject : Component}
    (hsubject : lookup? components sub = some subject)
    (hsup : sup ≠ rootType) (hne : sup ≠ sub) :
    sup ∈ (resolve components subject).supertypes ∨
        sup ∈ (resolve components subject).interfaces ↔
      Relation.ReflTransGen (Under components) sub sup := by
  obtain ⟨-, rfl⟩ := mem_of_lookup? hsubject
  have hdeclared : ∀ s, s ∈ subject.interfaces ↔
      s ∈ declaredInterfaces components subject.name := by
    intro s
    simp [mem_declaredInterfaces, hsubject]
  -- A type that declares interfaces is known, so it is not the root type.
  have hunder : ∀ {a s}, s ∈ declaredInterfaces components a →
      Under components a s := by
    intro a s hs
    obtain ⟨c, hc, -⟩ := mem_declaredInterfaces.mp hs
    obtain ⟨hmem, hname⟩ := mem_of_lookup? hc
    exact ⟨hname ▸ hroot c hmem, .inr hs⟩
  rw [mem_supertypes_resolve, mem_interfaces_resolve]
  constructor
  · rintro ((h | ⟨-, hreach⟩) | ⟨-, -, s, hstart, hreach⟩)
    · exact absurd h hsup
    · exact Extends.reach_under hreach
    · rcases hstart with hs | ⟨a, -, ha, hs⟩
      · exact .head (hunder ((hdeclared s).mp hs)) hreach
      · exact (Extends.reach_under ha).trans (.head (hunder hs) hreach)
  · -- The path is split at its first edge to a declared interface.
    have hsplit : ∀ {x}, Relation.ReflTransGen (Under components) subject.name x →
        Relation.ReflTransGen (Extends components) subject.name x ∨
          ∃ s, StartsFrom components subject s ∧
            Relation.ReflTransGen (Under components) s x := by
      intro x hreach
      induction hreach with
      | refl => exact .inl .refl
      | @tail y z _ hedge ih =>
          rcases ih with hextends | ⟨s, hstart, hreach⟩
          · rcases hedge.2 with hsuper | hinterface
            · exact .inl (hextends.tail hsuper)
            · refine .inr ⟨z, ?_, .refl⟩
              by_cases hy : y = subject.name
              · exact .inl ((hdeclared z).mpr (hy ▸ hinterface))
              · exact .inr ⟨y, hy, hextends, hinterface⟩
          · exact .inr ⟨s, hstart, hreach.tail hedge⟩
    intro hreach
    rcases hsplit hreach with hextends | hstart
    · exact .inl (.inr ⟨hne, hextends⟩)
    · exact .inr ⟨hsup, hne, hstart⟩

theorem Under.known {a b : String} (hab : Under components a b) :
    ∃ c, lookup? components a = some c := by
  obtain ⟨-, hsuper | hinterface⟩ := hab
  · obtain ⟨-, c, hc, hname, -⟩ := mem_directSupertypes.mp hsuper
    cases hlookup : lookup? components a with
    | none => exact absurd hname (lookup?_eq_none_iff.mp hlookup c hc)
    | some c => exact ⟨c, rfl⟩
  · obtain ⟨c, hc, -⟩ := mem_declaredInterfaces.mp hinterface
    exact ⟨c, hc⟩

end Resolution

namespace Catalog

open Resolution

variable {components resolved : List Component}

/-- The names of a resolved catalog are ordered by reachability along declared
edges, with the root type on top. -/
theorem isSubtype_iff
    (hroot : ∀ c ∈ components, c.name ≠ rootType)
    (hresolved : resolveAll components = .ok resolved) (sub sup : String) :
    (Catalog.mk resolved).isSubtype sub sup = true ↔
      sup = rootType ∨ Relation.ReflTransGen (Under components) sub sup := by
  have hlookup := lookup?_resolved hresolved sub
  by_cases hne : sup = sub
  · subst hne
    simp [isSubtype, Relation.ReflTransGen.refl]
  by_cases hsup : sup = rootType
  · simp [isSubtype, hsup]
  cases hsubject : lookup? components sub with
  | none =>
      rw [hsubject] at hlookup
      have hstuck : ¬ Relation.ReflTransGen (Under components) sub sup := by
        intro hreach
        rcases Relation.ReflTransGen.cases_head hreach with h | ⟨x, hedge, -⟩
        · exact hne h.symm
        · obtain ⟨c, hc⟩ := Under.known hedge
          rw [hsubject] at hc
          cases hc
      simp [isSubtype, get?, hlookup, hsup, hstuck, Ne.symm hne]
  | some subject =>
      rw [hsubject] at hlookup
      obtain ⟨-, hname⟩ := mem_of_lookup? hsubject
      rw [← resolve_contains_iff hroot hsubject hsup hne]
      simp [isSubtype, get?, hlookup, Component.isSubtypeOf, hname, hsup,
        Ne.symm hne]

/-- A preorder of names with the root type on top in which a name is below
whatever is declared above it. -/
structure IsTypeOrder (components : List Component)
    (below : String → String → Prop) : Prop where
  refl : ∀ a, below a a
  trans : ∀ a b c, below a b → below b c → below a c
  root : ∀ a, below a rootType
  declared : ∀ a b, Under components a b → below a b

theorem isSubtype_refl (catalog : Catalog) (name : String) :
    catalog.isSubtype name name = true := by
  simp [isSubtype]

theorem isSubtype_trans
    (hroot : ∀ c ∈ components, c.name ≠ rootType)
    (hresolved : resolveAll components = .ok resolved) {a b c : String}
    (hab : (Catalog.mk resolved).isSubtype a b = true)
    (hbc : (Catalog.mk resolved).isSubtype b c = true) :
    (Catalog.mk resolved).isSubtype a c = true := by
  rw [isSubtype_iff hroot hresolved] at hab hbc ⊢
  rcases hbc with hc | hbc
  · exact .inl hc
  rcases hab with rfl | hab
  · -- No edge leads out of the root type.
    rcases Relation.ReflTransGen.cases_head hbc with h | ⟨x, hedge, -⟩
    · exact .inl h.symm
    · exact absurd rfl hedge.1
  · exact .inr (hab.trans hbc)

/-- Whatever the declarations are, the subtype test of a resolved catalog is a
preorder of all names, known or not, with the root type above each of them.  It
relates no two names that the declarations do not force together. -/
theorem isSubtype_typeOrder
    (components : List Component)
    (hroot : ∀ c ∈ components, c.name ≠ rootType)
    (hfresh : ∀ c ∈ components, c.hierarchy = none) :
    ∃ resolved, resolveAll components = .ok resolved ∧
      IsTypeOrder components
        (fun a b => (Catalog.mk resolved).isSubtype a b = true) ∧
      ∀ below, IsTypeOrder components below →
        ∀ a b, (Catalog.mk resolved).isSubtype a b = true → below a b := by
  have hresolved := resolveAll_of_unresolved hfresh
  have hiff := isSubtype_iff hroot hresolved
  refine ⟨_, hresolved, ?_, ?_⟩
  · constructor
    · intro a
      exact isSubtype_refl _ a
    · intro a b c hab hbc
      exact isSubtype_trans hroot hresolved hab hbc
    · intro a
      exact (hiff a rootType).mpr (.inl rfl)
    · intro a b hab
      exact (hiff a b).mpr (.inr (.single hab))
  · intro below horder a b hab
    rcases (hiff a b).mp hab with rfl | hreach
    · exact horder.root a
    · induction hreach with
      | refl => exact horder.refl a
      | tail hreach hedge ih =>
          refine horder.trans _ _ _ (ih ?_) (horder.declared _ _ hedge)
          exact (hiff _ _).mpr (.inr hreach)

theorem isSubtype_typeOrder_tangled :
    (∀ c ∈ tangled, c.name ≠ rootType) ∧ (∀ c ∈ tangled, c.hierarchy = none) ∧
    ∃ resolved, resolveAll tangled = .ok resolved ∧
      IsTypeOrder tangled
        (fun a b => (Catalog.mk resolved).isSubtype a b = true) ∧
      ∀ below, IsTypeOrder tangled below →
        ∀ a b, (Catalog.mk resolved).isSubtype a b = true → below a b :=
  ⟨by decide, by decide, isSubtype_typeOrder tangled (by decide) (by decide)⟩

end Catalog

end Refit
