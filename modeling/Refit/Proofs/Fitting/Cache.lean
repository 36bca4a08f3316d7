import Mathlib.Tactic
import Refit.Fitting.Cache

/-!
# When a cache is transparent

A cache may forget entries, but what it holds was found for some request with the
same key.  So its answers are those of the search as long as equal keys mean
equal results, and two requests that break this are told apart by no cache.
-/

namespace Refit

/-- What adapters are asked for, with the settings that the search is made from. -/
structure Request where
  component : Component
  interface : Interface
  catalog : Catalog
  settings : Settings

namespace Request

/-- What the search finds. -/
def found (r : Request) : List Adapter :=
  (Fitter.ofSettings r.settings).adapters r.catalog r.component r.interface
    r.settings.adapterLimit

def text (r : Request) : String :=
  Fingerprint.text r.component r.interface r.catalog r.settings

def digest (r : Request) : String :=
  Fingerprint.digest r.component r.interface r.catalog r.settings

theorem digest_eq_of_text_eq {r r' : Request} (htext : r.text = r'.text) :
    r.digest = r'.digest :=
  congrArg Digest.md5 htext

end Request

namespace AdapterCache

def ask (cache : AdapterCache) (r : Request) : List Adapter × AdapterCache :=
  cache.fetch (Fitter.ofSettings r.settings) r.component r.interface r.catalog
    r.settings

/-- The answers to requests that are made one after another. -/
def answers (cache : AdapterCache) : List Request → List (List Adapter)
  | [] => []
  | r :: rest => (cache.ask r).1 :: (cache.ask r).2.answers rest

/-- Every entry was found for a request of this kind that has its key. -/
def Remembers (P : Request → Prop) (cache : AdapterCache) : Prop :=
  ∀ entry ∈ cache.entries, ∃ r, P r ∧ r.digest = entry.1 ∧ r.found = entry.2

variable {P : Request → Prop} {cache : AdapterCache}

theorem remembers_empty (capacity : ℕ) : (empty capacity).Remembers P := by
  intro entry hentry
  cases hentry

theorem mem_of_get? {key : String} {adapters : List Adapter}
    (hget : cache.get? key = some adapters) : (key, adapters) ∈ cache.entries := by
  obtain ⟨entry, hentry, rfl⟩ := Option.map_eq_some_iff.mp hget
  have hkey : entry.1 = key := by simpa using List.find?_some hentry
  rw [← hkey]
  exact List.mem_of_find?_eq_some hentry

theorem Remembers.use
    (hremembers : cache.Remembers P) {r : Request} (hr : P r) :
    (cache.use r.digest r.found).Remembers P := by
  intro entry hentry
  rcases List.mem_cons.mp (List.mem_of_mem_take hentry) with rfl | hold
  · exact ⟨r, hr, rfl, rfl⟩
  · exact hremembers entry (List.mem_filter.mp hold).1

/-- A cache that remembers right gives the right answer, and still remembers
right afterwards. -/
theorem ask_correct
    (hkeys : ∀ r r', P r → P r' → r.digest = r'.digest → r.found = r'.found)
    (hremembers : cache.Remembers P) {r : Request} (hr : P r) :
    (cache.ask r).1 = r.found ∧ (cache.ask r).2.Remembers P := by
  have hafter := hremembers.use hr
  unfold ask fetch
  simp only
  split
  · next adapters hget =>
    obtain ⟨asked, hasked, hdigest, hfound⟩ :=
      hremembers _ (mem_of_get? hget)
    have hadapters : adapters = r.found :=
      hfound.symm.trans (hkeys asked r hasked hr hdigest)
    subst hadapters
    exact ⟨rfl, hafter⟩
  · exact ⟨rfl, hafter⟩

theorem answers_correct
    (hkeys : ∀ r r', P r → P r' → r.digest = r'.digest → r.found = r'.found)
    (hremembers : cache.Remembers P) {history : List Request}
    (hhistory : ∀ r ∈ history, P r) :
    cache.answers history = history.map Request.found := by
  induction history generalizing cache with
  | nil => rfl
  | cons r rest ih =>
      obtain ⟨hanswer, hafter⟩ :=
        ask_correct hkeys hremembers (hhistory r List.mem_cons_self)
      have hrest := ih hafter fun other hother =>
        hhistory other (List.mem_cons_of_mem r hother)
      rw [answers, hanswer, hrest, List.map_cons]

theorem get?_use
    (hcapacity : 0 < cache.capacity) (key : String) (adapters : List Adapter) :
    (cache.use key adapters).get? key = some adapters := by
  obtain ⟨room, hroom⟩ := Nat.exists_eq_succ_of_ne_zero hcapacity.ne'
  simp [get?, use, hroom]

theorem ask_of_get?
    {r : Request} {adapters : List Adapter}
    (hget : cache.get? r.digest = some adapters) :
    (cache.ask r).1 = adapters := by
  change cache.get? (Fingerprint.digest _ _ _ _) = _ at hget
  simp only [ask, fetch, hget]

theorem ask_of_unknown
    {r : Request} (hget : cache.get? r.digest = none) :
    cache.ask r =
      (r.found,
        { cache.use r.digest r.found with misses := cache.misses + 1 }) := by
  change cache.get? (Fingerprint.digest _ _ _ _) = _ at hget
  simp only [ask, fetch, hget]
  rfl

theorem answers_pair {r r' : Request} (hdigest : r.digest = r'.digest) :
    (empty 1).answers [r, r'] = [r.found, r.found] := by
  have hremembered :
      ((empty 1).use r.digest r.found).get? r'.digest = some r.found := by
    rw [← hdigest]
    exact get?_use Nat.one_pos _ _
  have hunknown : (empty 1).get? r.digest = none := rfl
  simp only [answers, ask_of_unknown hunknown]
  exact congrArg (fun answer => [r.found, answer]) (ask_of_get? hremembered)

/-- An empty cache answers all requests of a kind like the search, whatever its
capacity and their order. -/
def Transparent (P : Request → Prop) : Prop :=
  ∀ capacity (history : List Request), (∀ r ∈ history, P r) →
    (empty capacity).answers history = history.map Request.found

theorem transparent_iff_keys :
    Transparent P ↔
      ∀ r r', P r → P r' → r.digest = r'.digest → r.found = r'.found := by
  constructor
  · intro htransparent r r' hr hr' hdigest
    have hpair := htransparent 1 [r, r'] (by simp [hr, hr'])
    rw [answers_pair hdigest] at hpair
    simpa using hpair
  · intro hkeys capacity history hhistory
    exact answers_correct hkeys (remembers_empty capacity) hhistory

end AdapterCache

end Refit
