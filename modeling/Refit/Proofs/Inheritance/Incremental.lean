import Refit.Inheritance.Pool
import Refit.Proofs.Inheritance.Shadowing

/-!
# Resolution in any order and in parts

Resolution reads of the components what is declared, by name, and not what is attached to them.
Where no two have one name the order of the list does not matter either, and resolving what is left
adds to a partly resolved list what resolving it at once would have.  On a pool whose parts are
resolved by any requests, what is attached to a component stays.
-/

namespace Refit

/-- The component as it was before resolution. -/
def Component.unresolved (c : Component) : Component := { c with hierarchy := none }

namespace Resolution

variable {components others part : List Component}

/-- Resolution reads the same from both lists. -/
structure Alike (components others : List Component) : Prop where
  length : others.length = components.length
  supers : directSupertypes others = directSupertypes components
  lookup : ∀ name, (lookup? others name).map Component.unresolved =
    (lookup? components name).map Component.unresolved

theorem declaredInterfaces_eq (name : String) :
    declaredInterfaces components name =
      ((lookup? components name).map (·.interfaces)).getD [] := by
  unfold declaredInterfaces
  cases lookup? components name <;> rfl

theorem handedDown_eq (package name : String) :
    handedDown components package name =
      ((lookup? components name).map fun c => c.methods.filter (·.isOpenTo package)).getD [] := by
  unfold handedDown
  cases lookup? components name <;> rfl

section Alike

variable (h : Alike components others)
include h

theorem Alike.read {α : Type} {f : Component → α} (hf : ∀ c, f c.unresolved = f c)
    (name : String) : (lookup? others name).map f = (lookup? components name).map f := by
  have hread : ∀ c : Option Component, c.map f = (c.map Component.unresolved).map f := by
    intro c
    rw [Option.map_map]
    exact congrArg c.map (funext fun d => (hf d).symm)
  rw [hread, h.lookup, ← hread]

theorem Alike.declared : declaredInterfaces others = declaredInterfaces components := by
  funext name
  rw [declaredInterfaces_eq, declaredInterfaces_eq, h.read fun _ => rfl]

theorem Alike.handedDown : handedDown others = handedDown components := by
  funext package name
  rw [handedDown_eq, handedDown_eq, h.read fun _ => rfl]

theorem Alike.ancestors : ancestors others = ancestors components := by
  funext name
  rw [Resolution.ancestors, h.supers, h.length]
  rfl

theorem Alike.enter (add : NameSet → String → NameSet) :
    enter others add = enter components add := by
  funext found name
  rw [Resolution.enter, h.declared]
  rfl

theorem Alike.collect (fuel : Nat) : collect others fuel = collect components fuel := by
  induction fuel with
  | zero => rfl
  | succ fuel ih =>
      funext found name
      rw [Resolution.collect, ih, h.enter, h.ancestors]
      rfl

theorem Alike.interfaceClosure : interfaceClosure others = interfaceClosure components := by
  funext starts
  rw [Resolution.interfaceClosure, h.collect, h.length]
  rfl

end Alike

theorem flatMap_interfaces (names : List String) :
    (names.filterMap (lookup? components)).flatMap (·.interfaces) =
      names.flatMap (declaredInterfaces components) := by
  induction names with
  | nil => rfl
  | cons name names ih =>
      rw [List.flatMap_cons, ← ih, List.filterMap_cons, declaredInterfaces]
      cases lookup? components name <;> rfl

theorem resolve_of_alike (h : Alike components others) : resolve others = resolve components := by
  funext c
  simp only [resolve, flatMap_interfaces, foldl_inheritFrom, h.ancestors, h.interfaceClosure,
    h.declared, h.handedDown]

theorem alike_unresolved (components : List Component) :
    Alike components (components.map Component.unresolved) where
  length := List.length_map _
  supers := by
    funext name
    unfold directSupertypes
    rw [List.filter_map, List.map_map]
    rfl
  lookup := by
    intro name
    have hlookup : lookup? (components.map Component.unresolved) name =
        (lookup? components name).map Component.unresolved := by
      unfold lookup?
      rw [← List.map_reverse, List.find?_map]
      rfl
    rw [hlookup, Option.map_map]
    rfl

theorem alike_of_perm (hdistinct : (components.map (·.name)).Nodup)
    (hperm : others.Perm components) : Alike components others := by
  have hothers : (others.map (·.name)).Nodup := (hperm.map _).nodup_iff.mpr hdistinct
  have hlookup : ∀ name, lookup? others name = lookup? components name := by
    intro name
    cases hcomponents : lookup? components name with
    | none =>
        rw [lookup?_eq_none_iff] at hcomponents ⊢
        exact fun c hc => hcomponents c (hperm.mem_iff.mp hc)
    | some c =>
        obtain ⟨hc, rfl⟩ := mem_of_lookup? hcomponents
        exact lookup?_of_mem hothers (hperm.mem_iff.mpr hc)
  constructor
  · exact hperm.length_eq
  · funext name
    unfold directSupertypes
    rw [filter_name_eq hothers, filter_name_eq hdistinct, hlookup]
  · intro name
    rw [hlookup]

end Resolution

namespace Pool

open Resolution

variable {components part pool : List Component}

/-- A plan for those that are not resolved yet is carried out. -/
theorem attachEach_unresolved (given : Component → Hierarchy) (part : List Component) :
    attachEach (part.map fun c => (c, if c.hierarchy.isSome then none else some (given c))) =
      (part.map fun c => if c.hierarchy.isSome then c else { c with hierarchy := some (given c) },
        .ok (part.countP (·.hierarchy.isNone))) := by
  induction part with
  | nil => rfl
  | cons c part ih =>
      rw [List.map_cons, List.map_cons, List.countP_cons]
      cases hc : c.hierarchy with
      | some h => simp [attachEach, ih]
      | none => simp [attachEach, Component.attach, hc, ih, Except.map]

theorem resolveRest_eq (part : List Component) :
    resolveRest part = (Resolution.resolveRest part, .ok (unresolvedCount part)) :=
  attachEach_unresolved (resolve part) part

theorem resolveAll_of_unresolved (hfresh : ∀ c ∈ part, c.hierarchy = none) :
    resolveAll part =
      (part.map fun c => { c with hierarchy := some (resolve part c) }, .ok ()) := by
  have hplan : (part.map fun c => (c, some (resolve part c))) =
      part.map fun c => (c, if c.hierarchy.isSome then none else some (resolve part c)) := by
    refine List.map_congr_left fun c hc => ?_
    rw [hfresh c hc]
    rfl
  unfold resolveAll
  rw [find?_resolved_eq_none hfresh]
  simp only [hplan, attachEach_unresolved]
  congr 1
  refine List.map_congr_left fun c hc => ?_
  rw [hfresh c hc]
  rfl

theorem resolveAll_of_resolved {c : Component} (hc : c ∈ part) (hresolved : c.hierarchy.isSome) :
    ∃ name, resolveAll part = (part, .error (.listResolved name)) := by
  unfold resolveAll
  cases hfind : part.find? (·.hierarchy.isSome) with
  | some done => exact ⟨done.name, rfl⟩
  | none => exact absurd hresolved (List.find?_eq_none.mp hfind c hc)

theorem resolveAll_cases (part : List Component) :
    ((∀ c ∈ part, c.hierarchy = none) ∧ resolveAll part =
        (part.map fun c => { c with hierarchy := some (resolve part c) }, .ok ())) ∨
      ∃ name, resolveAll part = (part, .error (.listResolved name)) := by
  by_cases hfresh : ∀ c ∈ part, c.hierarchy = none
  · exact .inl ⟨hfresh, resolveAll_of_unresolved hfresh⟩
  · push Not at hfresh
    obtain ⟨c, hc, hresolved⟩ := hfresh
    exact .inr (resolveAll_of_resolved hc (Option.isSome_iff_ne_none.mpr hresolved))

/-- A component stays as it is, or it gets a hierarchy where it had none. -/
def Keeps (c d : Component) : Prop :=
  d = c ∨ c.hierarchy = none ∧ ∃ h, d = { c with hierarchy := some h }

theorem Keeps.trans {c d e : Component} (hcd : Keeps c d) (hde : Keeps d e) : Keeps c e := by
  rcases hcd with rfl | ⟨hnone, h, rfl⟩
  · exact hde
  · rcases hde with rfl | ⟨hsome, -⟩
    · exact .inr ⟨hnone, h, rfl⟩
    · cases hsome

theorem keeps_refl (part : List Component) : List.Forall₂ Keeps part part :=
  List.forall₂_same.mpr fun _ _ => .inl rfl

theorem keeps_trans {cs ds es : List Component} (hcd : List.Forall₂ Keeps cs ds)
    (hde : List.Forall₂ Keeps ds es) : List.Forall₂ Keeps cs es := by
  induction hcd generalizing es with
  | nil => exact hde
  | cons hhead _ ih =>
      cases hde with
      | cons hhead' htail' => exact .cons (hhead.trans hhead') (ih htail')

theorem keeps_resolveRest (part : List Component) :
    List.Forall₂ Keeps part (resolveRest part).1 := by
  rw [resolveRest_eq, Resolution.resolveRest, List.forall₂_map_right_iff, List.forall₂_same]
  intro c _
  split
  · exact .inl rfl
  · next hnone => exact .inr ⟨by simpa using hnone, _, rfl⟩

theorem keeps_resolveAll (part : List Component) :
    List.Forall₂ Keeps part (resolveAll part).1 := by
  rcases resolveAll_cases part with ⟨hfresh, hresolved⟩ | ⟨name, hrefused⟩
  · rw [hresolved, List.forall₂_map_right_iff, List.forall₂_same]
    exact fun c hc => .inr ⟨hfresh c hc, _, rfl⟩
  · rw [hrefused]
    exact keeps_refl part

/-- What can come back: to resolve the rest is never refused. -/
def Answers : Request → Answer → Prop
  | .all _ _, answer => answer = .ok none ∨ ∃ name, answer = .error (.listResolved name)
  | .rest _ _, answer => ∃ count, answer = .ok (some count)

theorem within_cases {α : Type} (pool : List Component) (first last : Nat)
    (change : List Component → List Component × α) :
    ∃ before part after, pool = before ++ part ++ after ∧
      within pool first last change =
        (before ++ (change part).1 ++ after, (change part).2) := by
  obtain ⟨a, b, hab, hwithin⟩ : ∃ a b, a ≤ b ∧ within pool first last change =
      (pool.take a ++ (change ((pool.drop a).take (b - a))).1 ++ pool.drop b,
        (change ((pool.drop a).take (b - a))).2) :=
    ⟨_, _, min_le_right first (min last pool.length), rfl⟩
  refine ⟨_, _, _, ?_, hwithin⟩
  have hrest := List.take_append_drop (b - a) (pool.drop a)
  rw [List.drop_drop, Nat.add_sub_cancel' hab] at hrest
  rw [List.append_assoc, hrest, List.take_append_drop]

theorem step_spec (pool : List Component) (request : Request) :
    List.Forall₂ Keeps pool (step pool request).1 ∧ Answers request (step pool request).2 := by
  have hwithin : ∀ {before part after changed : List Component},
      List.Forall₂ Keeps part changed →
        List.Forall₂ Keeps (before ++ part ++ after) (before ++ changed ++ after) :=
    fun hchanged => List.rel_append (List.rel_append (keeps_refl _) hchanged) (keeps_refl _)
  cases request with
  | all first last =>
      obtain ⟨before, part, after, rfl, hstep⟩ := within_cases pool first last resolveAll
      simp only [step, hstep]
      refine ⟨hwithin (keeps_resolveAll part), ?_⟩
      rcases resolveAll_cases part with ⟨-, hresolved⟩ | ⟨name, hrefused⟩
      · rw [hresolved]
        exact .inl rfl
      · rw [hrefused]
        exact .inr ⟨name, rfl⟩
  | rest first last =>
      obtain ⟨before, part, after, rfl, hstep⟩ := within_cases pool first last resolveRest
      simp only [step, hstep]
      refine ⟨hwithin (keeps_resolveRest part), unresolvedCount part, ?_⟩
      rw [resolveRest_eq]
      rfl

theorem run_append (pool : List Component) (earlier later : List Request) :
    (run pool (earlier ++ later)).1 = (run (run pool earlier).1 later).1 := by
  induction earlier generalizing pool with
  | nil => rfl
  | cons request earlier ih => exact ih _

theorem run_spec (pool : List Component) (requests : List Request) :
    List.Forall₂ Keeps pool (run pool requests).1 ∧
      List.Forall₂ Answers requests (run pool requests).2 := by
  induction requests generalizing pool with
  | nil => exact ⟨keeps_refl pool, .nil⟩
  | cons request requests ih =>
      obtain ⟨hkept, hanswer⟩ := step_spec pool request
      obtain ⟨hkept', hanswers⟩ := ih (step pool request).1
      exact ⟨keeps_trans hkept hkept', .cons hanswer hanswers⟩

/-- The list of which those that `done` picks have been resolved with all. -/
def partlyResolved (components : List Component) (done : Component → Bool) : List Component :=
  components.map fun c => if done c then { c with hierarchy := some (resolve components c) } else c

section Fresh

variable (hfresh : ∀ c ∈ components, c.hierarchy = none) (done : Component → Bool)
include hfresh

theorem resolve_partlyResolved :
    resolve (partlyResolved components done) = resolve components := by
  -- Without what is attached both lists are the same.
  have hbare : (partlyResolved components done).map Component.unresolved = components := by
    conv_rhs => rw [← List.map_id components]
    rw [partlyResolved, List.map_map]
    refine List.map_congr_left fun c hc => ?_
    rw [Function.comp_apply, id_eq, Component.unresolved, ← hfresh c hc]
    split <;> rfl
  rw [← resolve_of_alike (alike_unresolved (partlyResolved components done)), hbare]

theorem resolveRest_partlyResolved :
    resolveRest (partlyResolved components done) =
      ((resolveAll components).1, .ok (components.countP (!done ·))) := by
  rw [resolveRest_eq, resolveAll_of_unresolved hfresh, Resolution.resolveRest, unresolvedCount,
    resolve_partlyResolved hfresh, partlyResolved, List.map_map, List.countP_map]
  congr 1
  · refine List.map_congr_left fun c hc => ?_
    simp only [Function.comp_apply]
    cases done c with
    | true => rfl
    | false => simp [hfresh c hc]
  · congr 1
    refine List.countP_congr fun c hc => ?_
    simp only [Function.comp_apply]
    cases done c with
    | true => simp
    | false => simp [hfresh c hc]

end Fresh

/-- The hierarchy of a component depends neither on the order of the list nor on how much of the
list is resolved before. -/
structure Settles (components : List Component) : Prop where
  order : ∀ others, others.Perm components →
    resolveAll others =
      (others.map fun c => { c with hierarchy := some (resolve components c) }, .ok ())
  rest : ∀ done : Component → Bool,
    resolveRest (partlyResolved components done) =
      ((resolveAll components).1, .ok (components.countP (!done ·)))

/-- Resolution is independent of the order, it can be done in parts, and it is refused as a whole;
on a pool what is attached once stays through all requests. -/
theorem resolution_settles (components : List Component)
    (hdistinct : (components.map (·.name)).Nodup)
    (hfresh : ∀ c ∈ components, c.hierarchy = none) :
    Settles components ∧
      (∀ part : List Component, (∃ c ∈ part, c.hierarchy ≠ none) →
        ∃ name, resolveAll part = (part, .error (.listResolved name))) ∧
      ∀ pool earlier later,
        List.Forall₂ Keeps (run pool earlier).1 (run pool (earlier ++ later)).1 ∧
          List.Forall₂ Answers (earlier ++ later) (run pool (earlier ++ later)).2 := by
  refine ⟨⟨?_, resolveRest_partlyResolved hfresh⟩, ?_, ?_⟩
  · intro others hperm
    rw [resolveAll_of_unresolved fun c hc => hfresh c (hperm.mem_iff.mp hc),
      resolve_of_alike (alike_of_perm hdistinct hperm)]
  · rintro part ⟨c, hc, hresolved⟩
    exact resolveAll_of_resolved hc (Option.isSome_iff_ne_none.mpr hresolved)
  · intro pool earlier later
    refine ⟨?_, (run_spec pool (earlier ++ later)).2⟩
    rw [run_append]
    exact (run_spec (run pool earlier).1 later).1

theorem resolution_settles_knotted :
    (knotted.map (·.name)).Nodup ∧ (∀ c ∈ knotted, c.hierarchy = none) ∧
    Settles knotted ∧
      (∀ part : List Component, (∃ c ∈ part, c.hierarchy ≠ none) →
        ∃ name, resolveAll part = (part, .error (.listResolved name))) ∧
      ∀ pool earlier later,
        List.Forall₂ Keeps (run pool earlier).1 (run pool (earlier ++ later)).1 ∧
          List.Forall₂ Answers (earlier ++ later) (run pool (earlier ++ later)).2 :=
  ⟨by decide, by decide, resolution_settles knotted (by decide) (by decide)⟩

example : (run knotted [.all 1 3, .rest 0 3, .all 0 2, .rest 0 9]).2.map Except.toOption =
    [some none, some (some 1), none, some (some 1)] := by
  decide +kernel

end Pool

end Refit
