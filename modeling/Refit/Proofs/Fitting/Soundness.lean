import Refit.Proofs.Execution.Faults
import Refit.Proofs.Fitting.WellFormed
import Refit.Samples.Echo

/-!
# Adapters hold in every run

A well-formed adapter that is bound to a host fits its interface, so the steps
that the interface declares never fault for want of an initializer, a method, an
input or a receiver.
-/

namespace Refit

namespace Binding

theorem link_eq_ok
    {host : Host} {h linked : Handle} (hlink : h.link host = .ok linked) :
    linked = h ∧ ∃ entry, host.entryPoint h.member = .ok entry := by
  unfold Handle.link at hlink
  split at hlink
  · cases hlink
  · next entry hentry =>
    cases hlink
    exact ⟨rfl, entry, hentry⟩

theorem bind_eq_ok
    {host : Host} {a : Adapter} {b : Binding} (hbind : bind host a = .ok b) :
    b.adapter = a ∧
      List.Forall₂ (fun init linked => linkInitializer host init = .ok linked)
        a.initializers b.initializers ∧
      List.Forall₂
        (fun c linked => (Handle.ofCandidate c).link host = .ok linked)
        a.methods b.methods := by
  unfold bind at hbind
  split at hbind
  · cases hbind
  next hinitializers =>
  split at hbind
  · cases hbind
  next hmethods =>
  cases hbind
  exact ⟨rfl, forall₂_of_mapM_eq_ok hinitializers,
    forall₂_of_mapM_eq_ok hmethods⟩

theorem linkInitializer_cases
    {host : Host} {init : Initializer} {linked : Option Handle}
    (hlink : linkInitializer host init = .ok linked) :
    (init = .static ∧ linked = none) ∨
    (∃ c, init = .constructor c ∧ linked = some (Handle.ofCandidate c) ∧
      ∃ entry, host.entryPoint c.member = .ok entry) := by
  cases init with
  | static =>
      cases hlink
      exact .inl ⟨rfl, rfl⟩
  | constructor c =>
      simp only [linkInitializer] at hlink
      cases hhandle : (Handle.ofCandidate c).link host with
      | error e =>
          rw [hhandle] at hlink
          cases hlink
      | ok h =>
          rw [hhandle] at hlink
          cases hlink
          obtain ⟨rfl, hentry⟩ := link_eq_ok hhandle
          exact .inr ⟨c, rfl, rfl, hentry⟩

end Binding

theorem Interface.constructorTaking?_eq_some
    {i : Interface} {arity number : ℕ}
    (hnumber : i.constructorTaking? arity = some number) :
    number < i.constructors.length ∧ i.constructorArity number = arity := by
  obtain ⟨hlt, hmatch, -⟩ := List.findIdx?_eq_some_iff_getElem.mp hnumber
  refine ⟨hlt, ?_⟩
  rw [constructorArity, List.getElem?_eq_getElem hlt]
  simpa using hmatch

theorem Adapter.WellFormed.exists_initializerTaking?
    {s : Fitter} {component : Component} {i : Interface} {a : Adapter}
    (hwell : a.WellFormed s component i) {arity : ℕ}
    (hdeclared : i.DeclaresConstructor arity) :
    ∃ number, a.initializerTaking? i arity = some number ∧
      number < a.initializers.length ∧ i.constructorArity number = arity := by
  have hlength := hwell.initializers_length
  unfold initializerTaking?
  rcases hdeclared with ⟨hnone, rfl⟩ | ⟨wanted, hwanted, harity⟩
  · refine ⟨0, ?_, by omega, by simp [Interface.constructorArity, hnone]⟩
    have hsome : a.initializers.isEmpty = false := by
      rw [List.isEmpty_eq_false_iff, ← List.length_pos_iff]
      omega
    simp [hnone, hsome]
  · have hsome : i.constructors.isEmpty = false := by
      rw [List.isEmpty_eq_false_iff]
      exact List.ne_nil_of_mem hwanted
    have hfound : (i.constructorTaking? arity).isSome = true := by
      unfold Interface.constructorTaking?
      rw [List.findIdx?_isSome, List.any_eq_true]
      exact ⟨wanted, hwanted, by simp [harity]⟩
    obtain ⟨number, hnumber⟩ := Option.isSome_iff_exists.mp hfound
    obtain ⟨hlt, harity⟩ := Interface.constructorTaking?_eq_some hnumber
    exact ⟨number, by simp [hsome, hnumber], by omega, harity⟩

theorem Adapter.WellFormed.fits
    {s : Fitter} {component : Component} {i : Interface} {a : Adapter}
    (hwell : a.WellFormed s component i) {host : Host} {b : Binding}
    (hbind : Binding.bind host a = .ok b) : b.Fits host i := by
  obtain ⟨rfl, hinitializers, hmethods⟩ := Binding.bind_eq_ok hbind
  have hlinked : ∀ h ∈ b.methods, ∃ c ∈ b.adapter.methods,
      h = Handle.ofCandidate c ∧
        ∃ entry, host.entryPoint h.member = .ok entry := by
    intro h hh
    obtain ⟨number, hnumber⟩ := List.getElem?_of_mem hh
    obtain ⟨c, hc, hlink⟩ := forall₂_getElem?_right hmethods hnumber
    obtain ⟨rfl, hentry⟩ := Binding.link_eq_ok hlink
    exact ⟨c, List.mem_of_getElem? hc, rfl, hentry⟩
  refine ⟨?_, ?_, ?_, ?_, ?_⟩
  · intro number wanted hwanted
    obtain ⟨c, hc, hserves⟩ := hwell.methods number wanted hwanted
    obtain ⟨h, hh, hlink⟩ := forall₂_getElem?_left hmethods hc
    obtain ⟨rfl, -⟩ := Binding.link_eq_ok hlink
    refine ⟨_, hh, fun position hposition => ?_⟩
    exact List.mem_range.mp (hserves.positions.mem_iff.mp hposition)
  · intro arity hdeclared
    obtain ⟨number, hnumber, hlt, harity⟩ :=
      hwell.exists_initializerTaking? hdeclared
    obtain ⟨linked, hlinked, hlink⟩ := forall₂_getElem?_left hinitializers
      (List.getElem?_eq_getElem hlt)
    refine ⟨number, linked, hnumber, hlinked, ?_⟩
    rintro h rfl
    rcases Binding.linkInitializer_cases hlink with
      ⟨-, hnone⟩ | ⟨c, hc, hhandle, -⟩
    · cases hnone
    · cases hhandle
      have hserves := hwell.constructors number c
        (by rw [List.getElem?_eq_getElem hlt, hc])
      rw [harity] at hserves
      exact hserves.position_lt
  · intro h hh
    obtain ⟨c, -, -, hentry⟩ := hlinked h hh
    exact hentry
  · intro h hh
    obtain ⟨number, hnumber⟩ := List.getElem?_of_mem hh
    obtain ⟨init, hinit, hlink⟩ := forall₂_getElem?_right hinitializers hnumber
    rcases Binding.linkInitializer_cases hlink with
      ⟨-, hnone⟩ | ⟨c, rfl, hhandle, hentry⟩
    · cases hnone
    · cases hhandle
      have hconstructor := Fitter.isConstructor_of_mem_usableConstructors
        (hwell.constructors number c hinit).usable
      refine ⟨?_, hentry⟩
      simp [Handle.needsReceiver, Handle.ofCandidate, hconstructor]
  · intro hnone h hh
    obtain ⟨number, hnumber⟩ := List.getElem?_of_mem hnone
    obtain ⟨init, hinit, hlink⟩ := forall₂_getElem?_right hinitializers hnumber
    obtain ⟨c, hc, rfl, -⟩ := hlinked h hh
    rcases Binding.linkInitializer_cases hlink with
      ⟨rfl, -⟩ | ⟨other, -, hhandle, -⟩
    · have hstatic := hwell.static (List.mem_of_getElem? hinit) c hc
      simp [Handle.needsReceiver, Handle.ofCandidate, hstatic]
    · cases hhandle

/-- The adapters that are found are numbered and well formed, and over every host
that they are bound to, no step that the interface declares ends in a fault of
the glue itself, unless it is called on a stand-in of another binding, or on no
object where the method needs one.  A stand-in of another binding was there before
the run if the host makes none, and where there is none to begin with no step is
called on one. -/
theorem Fitter.adapters_sound
    (s : Fitter) (catalog : Catalog) (component : Component) (i : Interface)
    (limit : ℕ) :
    (s.adapters catalog component i limit).length ≤ limit ∧
    ∀ number a, (s.adapters catalog component i limit)[number]? = some a →
      a.adapterId = number ∧ a.WellFormed s component i ∧
      ∀ p : Runner, p.interface = i → Binding.bind p.host a = .ok p.binding →
        ∀ (σ : Type) (v : Observer σ) (sequence : Sequence) (heap : Heap)
          (state : σ) (m : Moment), p.Visits v sequence heap state m →
          (p.Declares m → ∀ result after f,
            p.performAt m = (.ok result, after) → result.output = .error f →
              p.OutsideFault m f ∨ ∃ i, p.OnAlien m i) ∧
          ∀ first, p.host.Loyal p.binding first → heap.Serving p.binding first →
            ∀ i, p.OnAlien m i → i.id < first := by
  refine ⟨length_adapters_le s catalog component i limit, ?_⟩
  intro number a ha
  obtain ⟨hid, hwell⟩ := adapter_wellFormed ha
  refine ⟨hid, hwell, ?_⟩
  rintro p rfl hbind σ v sequence heap state m hvisit
  have hfits := hwell.fits hbind
  constructor
  · intro hdeclares result after f hperform hfault
    by_cases halien : ∃ i, p.OnAlien m i
    · exact .inr halien
    · have hown := not_exists.mp halien
      exact .inl (Runner.performAt_fault hfits hdeclares hown hperform hfault)
  · intro first hloyal hserving i hcalled
    rcases hcalled with ⟨s, -, hs, halien⟩
    by_contra hlate
    exact halien (hvisit.serving hloyal hfits.static hserving i s (Nat.le_of_not_lt hlate) hs)

namespace Samples

def exhaustiveFitter : Fitter := Fitter.ofSettings { generation := .exhaustive }

/-- One candidate and one initializer make one adapter. -/
theorem adapters_single
    {catalog : Catalog} {c : Component} {i : Interface} {candidate : Candidate}
    {init : Initializer} (hkind : c.kind ≠ .interface)
    (hlists : exhaustiveFitter.rankedLists
      ⟨catalog, exhaustiveFitter.settings.maxParamsLength⟩ c i = [Candidate.rank [candidate]])
    (hinit : exhaustiveFitter.initializers?
      ⟨catalog, exhaustiveFitter.settings.maxParamsLength⟩ c i [[candidate]] =
        some [init]) :
    exhaustiveFitter.adapters catalog c i 10 =
      [{ adapterId := 0, candidateId := c.id, component := c.name, interface := i.name
         initializers := [init], methods := [candidate] }] := by
  rw [Candidate.rank, List.mergeSort_singleton] at hlists
  have hranked : Fitter.rankAssignments
      (exhaustiveFitter.settings.assignments [init] [[candidate]]) =
        [⟨[init], [some candidate]⟩] := by
    change List.mergeSort [(⟨[init], [some candidate]⟩ : Assignment)] _ = _
    rw [List.mergeSort_singleton]
  have hsome : (!i.methods.isEmpty && [[candidate]].all (·.isEmpty)) = false := by simp
  unfold Fitter.adapters
  simp only [if_neg hkind, hlists, hinit, hranked, hsome]
  rfl

theorem adapters_util :
    exhaustiveFitter.adapters ⟨[]⟩ util echoing 10 = [echoAdapter] :=
  adapters_single nofun rfl rfl

/-- Calls `echo` on no object. -/
def echoStep : Step := ⟨0, .call "Echo" "echo" none, [.literal .null]⟩

/-- The moment before the only step. -/
def echoStart : Moment := ⟨⟨"echo", 0, "util", [], []⟩, echoStep, {}⟩

/-- A binding of no methods at all. -/
def idleBinding : Binding := ⟨{ echoAdapter with methods := [] }, [none], []⟩

/-- The method gives back a new stand-in of the idle binding. -/
def idlingHost : Host where
  entryPoint _ := .ok fun _ _ heap =>
    match StandIn.construct idleBinding (echoHost .args).host 0 "Idle" [] none heap with
    | (.ok i, heap) => (.returned (.object i), heap)
    | (.error f, heap) => (.faulted f, heap)
  snapshot _ _ := none

def idlingRunner : Runner := { echoRunner .args with host := idlingHost }

def instanceEcho : Member := { echo with isStatic := false }

/-- The component needs an instance to echo. -/
def answering : Component := { util with members := [instanceEcho] }

def answeringAdapter : Adapter :=
  { echoAdapter with
    initializers :=
      [.constructor
        { member := Fitter.defaultConstructor answering, positions := [], conversions := [] }]
    methods := [{ echoCandidate with member := instanceEcho }] }

def answeringRunner : Runner where
  interface := echoing
  binding :=
    ⟨answeringAdapter, [some (.ofMember (Fitter.defaultConstructor answering))],
      answeringAdapter.methods.map .ofCandidate⟩
  host := HostScript.host
    { members :=
        [⟨"demo.Util", Member.constructorName, [], .never, .newUnit, false⟩,
         ⟨"demo.Util", "echo", [.object], .always, .args, false⟩] }
  catalog := ⟨[]⟩

theorem adapters_answering :
    exhaustiveFitter.adapters ⟨[]⟩ answering echoing 10 = [answeringAdapter] :=
  adapters_single nofun rfl rfl

/-- Calls `echo` on no object, and then on what came back. -/
def echoTwice : Sequence :=
  Sequence.ofKinds "echo"
    [(.call "Echo" "echo" none, [.literal .null]),
     (.call "Echo" "echo" (some 0), [.literal .null])]

/-- The adapter is the one that is found for the component, it is bound to the host, and the
declared call in the row ends in the fault, though nothing was there before the run. -/
def CallFaults (c : Component) (a : Adapter) (p : Runner) (row : ℕ) (f : Fault) : Prop :=
  exhaustiveFitter.adapters ⟨[]⟩ c echoing 10 = [a] ∧ p.interface = echoing ∧
  Binding.bind p.host a = .ok p.binding ∧
  ∃ final called receiver,
    (p.execute Observer.silent echoTwice {} ()).result = .ok final ∧
    final.steps[row]? = some called ∧ called.step.kind = .call "Echo" "echo" receiver ∧
    called.step.inputs.length = echoWanted.arity ∧ called.output = some (.error f)

end Samples

open Samples in
/-- A method that refuses every call: the fault is that of its code. -/
theorem Fitter.adapters_sound_refusing :
    echoAdapter.WellFormed exhaustiveFitter util echoing ∧
    (echoRunner (.fail (.bare "Refused"))).OutsideFault echoStart
      (.bare "Refused") := by
  have hfound :
      (exhaustiveFitter.adapters ⟨[]⟩ util echoing 10)[0]? = some echoAdapter := by
    rw [adapters_util]
    rfl
  obtain ⟨-, hwell, hruns⟩ :=
    (Fitter.adapters_sound exhaustiveFitter ⟨[]⟩ util echoing 10).2 0
      echoAdapter hfound
  obtain ⟨hfault, halien⟩ :=
    hruns (echoRunner (.fail (.bare "Refused"))) rfl rfl Unit Observer.silent
      ⟨"echo", [echoStep]⟩ {} () echoStart (.here rfl)
  refine ⟨hwell, ?_⟩
  have hdeclares : (echoRunner (.fail (.bare "Refused"))).Declares echoStart :=
    ⟨.inl rfl, echoWanted, List.mem_singleton_self _, rfl, rfl⟩
  rcases hfault hdeclares _ _ (.bare "Refused") rfl rfl with houtside | ⟨i, hother⟩
  · exact houtside
  · have hold := halien 0 (HostScript.host_loyal _ _ 0) (fun _ _ _ hs => by cases hs) i hother
    exact absurd hold (Nat.not_lt_zero i.id)

open Samples in
/-- A declared call may come to a stand-in that the host has made, which has no method for
it, and a call on no object to a method that needs one. -/
theorem Fitter.adapters_unanswered :
    CallFaults util echoAdapter idlingRunner 1 (StandIn.noMethod "Idle" 0) ∧
    CallFaults answering answeringAdapter answeringRunner 0
      (.nullPointer (instanceEcho.text ++ " called without a receiver")) :=
  ⟨⟨adapters_util, rfl, rfl, _, _, _, rfl, rfl, rfl, rfl, rfl⟩,
    ⟨adapters_answering, rfl, rfl, _, _, _, rfl, rfl, rfl, rfl, rfl⟩⟩

end Refit
