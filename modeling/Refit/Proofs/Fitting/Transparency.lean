import Refit.Proofs.Fitting.Fingerprint
import Refit.Proofs.Fitting.Soundness

/-!
# What a cache confuses

Requests whose digests do not collide are confused only when they agree on all that
the text tells: then they may differ in the kind of the component, in the subtype
relation and in what is not written of constructors, and in nothing else that the
search looks at.
-/

namespace Refit

/-- A cache is transparent for requests whose digests do not collide exactly when
equal texts mean equal results, and it is when the requests agree on what the text
does not tell. -/
theorem AdapterCache.transparent_iff_texts
    {P : Request → Prop}
    (hdigest : ∀ r r', P r → P r' → r.digest = r'.digest → r.text = r'.text) :
    (Transparent P ↔
      ∀ r r', P r → P r' → r.text = r'.text → r.found = r'.found) ∧
    ((∀ r, P r → r.Plain) →
      (∀ r r', P r → P r' → r.text = r'.text → r.SameUnwritten r') →
        Transparent P) := by
  have hexact : Transparent P ↔
      ∀ r r', P r → P r' → r.text = r'.text → r.found = r'.found := by
    rw [transparent_iff_keys]
    constructor
    · intro hkeys r r' hr hr' htext
      exact hkeys r r' hr hr' (Request.digest_eq_of_text_eq htext)
    · intro htexts r r' hr hr' hkey
      exact htexts r r' hr hr' (hdigest r r' hr hr' hkey)
  refine ⟨hexact, ?_⟩
  intro hplain hsame
  rw [hexact]
  intro r r' hr hr' htext
  exact Request.found_eq_of_text_eq (hplain r hr) (hplain r' hr') htext
    (hsame r r' hr hr' htext)

namespace Samples

/-- Asks for adapters of a component, over no other components. -/
def request (c : Component) (room : ℕ) : Request :=
  ⟨c, echoing, ⟨[]⟩, { generation := .exhaustive, cacheCapacity := room }⟩

theorem parse_echoing : Interface.parse echoing.describe = .ok echoing := by
  have hdescribe : echoing.describe = "Echo \x7b echo(Object):Object \x7d" := by rfl
  rw [hdescribe]
  rfl

theorem request_plain (room : ℕ) : (request util room).Plain where
  id := show FreeOf ['\n'] "util" by decide
  name := show FreeOf ['\n'] "demo.Util" by decide
  members := by
    intro m hm
    rw [List.mem_singleton.mp hm]
    exact ⟨by decide, by decide, by decide, trivial, by simp [echo, ValueType.Plain]⟩
  inherited := by
    intro m hm
    cases hm
  description := show FreeOf ['\n'] echoing.describe by decide
  parse := parse_echoing
  names := by
    intro name hname
    cases hname

end Samples

open Samples in
/-- Requests that differ in the capacity of the cache alone are told apart by
nothing. -/
theorem AdapterCache.transparent_capacities :
    Transparent (fun r => ∃ room, r = request util room) := by
  refine (transparent_iff_texts ?_).2 ?_ ?_
  · rintro _ _ ⟨room, rfl⟩ ⟨room', rfl⟩ -
    rfl
  · rintro _ ⟨room, rfl⟩
    exact request_plain room
  · rintro _ _ ⟨room, rfl⟩ ⟨room', rfl⟩ -
    exact ⟨rfl, rfl, rfl, fun _ _ => rfl⟩

open Samples in
/-- Asked for a class first and then for an interface with the same members, a cache
answers the second time with the adapters of the class. -/
theorem AdapterCache.answers_kind_stale :
    (request util 1).text = (request { util with kind := .interface } 1).text ∧
    (request { util with kind := .interface } 1).found = [] ∧
    (empty 1).answers [request util 1, request { util with kind := .interface } 1] =
      [[echoAdapter], [echoAdapter]] := by
  have hfound : (request util 1).found = [echoAdapter] := adapters_util
  have htext : (request util 1).text =
      (request { util with kind := .interface } 1).text := by rfl
  refine ⟨htext, rfl, ?_⟩
  rw [answers_pair (Request.digest_eq_of_text_eq htext), hfound]

end Refit
