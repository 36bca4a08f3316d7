import Mathlib.Tactic
import Refit.Proofs.Fitting.Cache

/-!
# What the search looks at

Of a component the search looks at kind, id, name, members and inherited methods, of
other components only at which is below which, and of the settings at all but the
deadline and the capacity of the cache.
-/

namespace Refit

variable {catalog catalog' : Catalog}

namespace Conversion

theorem implicit?_congr (hsubtype : catalog.isSubtype = catalog'.isSubtype)
    (source target : ValueType) :
    implicit? catalog source target = implicit? catalog' source target := by
  induction source generalizing target with
  | array element ih =>
      unfold implicit?
      cases target with
      | array other => simp only [ih other]
      | primitive | boxed | void | string | object | list | named => rfl
  | named name =>
      unfold implicit?
      cases target with
      | named other => simp only [hsubtype]
      | primitive | boxed | void | string | object | list | array => rfl
  | primitive | boxed | void | string | object | list =>
      unfold implicit?
      cases target <;> rfl

theorem onReturn?_congr (hsubtype : catalog.isSubtype = catalog'.isSubtype)
    (real wanted : ValueType) :
    onReturn? catalog real wanted = onReturn? catalog' real wanted := by
  unfold onReturn?
  rw [implicit?_congr hsubtype]

end Conversion

namespace Matcher

variable {longest : ℕ}

theorem matchParams_congr (hsubtype : catalog.isSubtype = catalog'.isSubtype) :
    matchParams ⟨catalog, longest⟩ = matchParams ⟨catalog', longest⟩ := by
  have hall : implicitAll? ⟨catalog, longest⟩ = implicitAll? ⟨catalog', longest⟩ := by
    funext wanted params positions
    simp only [implicitAll?, Conversion.implicit?_congr hsubtype]
  have hconverted :
      convertedAll? ⟨catalog, longest⟩ = convertedAll? ⟨catalog', longest⟩ := by
    funext wanted params
    simp only [convertedAll?, Conversion.implicit?_congr hsubtype]
  funext operation wanted member implicitReturn convertedReturn distance
  simp only [matchParams, hall, hconverted]

theorem candidatesFor_congr (hsubtype : catalog.isSubtype = catalog'.isSubtype) :
    candidatesFor ⟨catalog, longest⟩ = candidatesFor ⟨catalog', longest⟩ := by
  funext operation wanted members
  unfold candidatesFor
  congr 1
  funext member
  simp only [matchMethod, matchParams_congr hsubtype,
    Conversion.onReturn?_congr hsubtype]

theorem constructorsFor_congr (hsubtype : catalog.isSubtype = catalog'.isSubtype) :
    constructorsFor ⟨catalog, longest⟩ = constructorsFor ⟨catalog', longest⟩ := by
  funext operation wanted members
  unfold constructorsFor
  congr 1
  funext member
  simp only [matchConstructor, matchParams_congr hsubtype]

end Matcher

namespace Fitter

theorem adapters_congr (hsubtype : catalog.isSubtype = catalog'.isSubtype)
    (s : Fitter) (c : Component) (i : Interface) (limit : ℕ) :
    s.adapters catalog c i limit = s.adapters catalog' c i limit := by
  have hlists : s.rankedLists ⟨catalog, s.settings.maxParamsLength⟩ c i =
      s.rankedLists ⟨catalog', s.settings.maxParamsLength⟩ c i := by
    simp only [rankedLists, Matcher.candidatesFor_congr hsubtype]
  have hinitializers : ∀ lists,
      s.initializers? ⟨catalog, s.settings.maxParamsLength⟩ c i lists =
        s.initializers? ⟨catalog', s.settings.maxParamsLength⟩ c i lists := by
    intro lists
    simp only [initializers?, initializer?, Matcher.constructorsFor_congr hsubtype]
  unfold adapters
  simp only [hlists, hinitializers]

end Fitter

namespace Component

/-- The methods that a component inherits; none before it is resolved. -/
def inherited (c : Component) : List Member :=
  match c.hierarchy with
  | some h => h.inherited
  | none => []

/-- The component without what the search does not look at. -/
def forSearch (c : Component) : Component where
  name := c.name
  id := c.id
  kind := c.kind
  members := c.members
  hierarchy := some { inherited := c.inherited }

theorem visibleMethods_forSearch (c : Component) :
    c.forSearch.visibleMethods = c.visibleMethods := by
  unfold visibleMethods
  cases hhierarchy : c.hierarchy <;>
    simp [forSearch, inherited, hhierarchy, methods, addUnlessOverridden]

end Component

/-- The settings without those that the search does not look at. -/
def Settings.forSearch (s : Settings) : Settings :=
  { s with invocationTimeout := none, cacheCapacity := 0 }

namespace Request

variable {r r' : Request}

theorem found_forSearch (r : Request) :
    ({ r with component := r.component.forSearch
              settings := r.settings.forSearch } : Request).found = r.found := by
  unfold found Fitter.adapters Fitter.rankedLists
  rw [Component.visibleMethods_forSearch]
  rfl

/-- Requests that agree on what the search looks at are answered alike. -/
theorem found_congr (hcomponent : r.component.forSearch = r'.component.forSearch)
    (hinterface : r.interface = r'.interface)
    (hsubtype : r.catalog.isSubtype = r'.catalog.isSubtype)
    (hsettings : r.settings.forSearch = r'.settings.forSearch) :
    r.found = r'.found := by
  rw [← found_forSearch r, ← found_forSearch r', hcomponent, hinterface, hsettings]
  exact Fitter.adapters_congr hsubtype _ _ _ _

end Request

end Refit
