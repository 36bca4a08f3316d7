import Mathlib.Tactic
import Refit.Proofs.Inheritance.Closure

/-!
# Super chains

Where no two components share a name, a type has at most one direct supertype.
The walk then holds at most one name back, and the names it enters form a chain:
each is the direct supertype of the one entered before it.  The chain ends at the
root type, at a name that no component has, or where it would run into itself.
-/

namespace Refit

namespace Reach

variable {next : String → List String}

/-- Each entered name, the latest first, is a successor of the one entered before
it, and what is still to be entered is one successor of the latest. -/
structure Threaded (next : String → List String) (entered stack : List String) :
    Prop where
  nodup : entered.Nodup
  linked : entered.IsChain fun b a => b ∈ next a
  single : stack.length ≤ 1
  ready : ∀ b ∈ stack, ∀ a ∈ entered.head?, b ∈ next a

theorem Threaded.start (name : String) : Threaded next [] [name] where
  nodup := List.nodup_nil
  linked := List.isChain_nil
  single := le_rfl
  ready := by simp

theorem Threaded.stop {entered stack : List String}
    (h : Threaded next entered stack) : Threaded next entered [] where
  nodup := h.nodup
  linked := h.linked
  single := Nat.zero_le 1
  ready := by simp

theorem Threaded.drop {entered stack : List String} {name : String}
    (h : Threaded next entered (name :: stack)) : Threaded next entered stack where
  nodup := h.nodup
  linked := h.linked
  single := by
    have hsingle := h.single
    rw [List.length_cons] at hsingle
    omega
  ready := fun b hb => h.ready b (List.mem_cons_of_mem name hb)

theorem Threaded.enter (hone : ∀ a, (next a).length ≤ 1)
    {entered stack : List String} {name : String}
    (h : Threaded next entered (name :: stack)) (hname : name ∉ entered) :
    Threaded next (name :: entered)
      (((next name).filter (!(name :: entered).contains ·)).reverse ++ stack) := by
  have hstack : stack = [] := by
    have hsingle := h.single
    rw [List.length_cons] at hsingle
    exact List.length_eq_zero_iff.mp (by omega)
  subst hstack
  rw [List.append_nil]
  constructor
  · exact List.nodup_cons.mpr ⟨hname, h.nodup⟩
  · rw [List.isChain_cons]
    exact ⟨h.ready name List.mem_cons_self, h.linked⟩
  · rw [List.length_reverse]
    exact (List.length_filter_le _ _).trans (hone name)
  · intro b hb a ha
    obtain rfl : name = a := by simpa using ha
    exact List.mem_of_mem_filter (List.mem_reverse.mp hb)

/-- A walk that starts threaded only adds to the entered names, and they stay a
chain. -/
theorem walk_threaded (hone : ∀ a, (next a).length ≤ 1) (fuel : Nat)
    {entered stack : List String} (h : Threaded next entered stack) :
    entered <:+ walk next fuel entered stack ∧
      Threaded next (walk next fuel entered stack) [] := by
  induction fuel generalizing entered stack with
  | zero => exact ⟨List.suffix_rfl, h.stop⟩
  | succ fuel ih =>
      cases stack with
      | nil => exact ⟨List.suffix_rfl, h⟩
      | cons name stack =>
          simp only [walk]
          split
          · -- The chain would run into itself, and nothing else is on the stack.
            exact ih h.drop
          · next hfresh =>
            have hname : name ∉ entered := by simpa using hfresh
            obtain ⟨hsuffix, hwalk⟩ := ih (h.enter hone hname)
            exact ⟨(List.suffix_cons name entered).trans hsuffix, hwalk⟩

/-- With one successor at most, what is reached from a name is a chain. -/
theorem exists_reachable_chain (hone : ∀ a, (next a).length ≤ 1) (bound : Nat)
    (name : String) :
    ∃ chain, reachable next bound [name] = name :: chain ∧
      (name :: chain).Nodup ∧ (name :: chain).IsChain fun a b => b ∈ next a := by
  have hfirst : walk next (bound + [name].length + 1) [] [name] =
      walk next (bound + 1) [name]
        (((next name).filter fun b => !([name].contains b)).reverse ++ []) := rfl
  have henter := (Threaded.start name).enter hone List.not_mem_nil
  obtain ⟨⟨before, hbefore⟩, hwalk⟩ := walk_threaded hone (bound + 1) henter
  have hreached : reachable next bound [name] = name :: before.reverse := by
    rw [reachable, hfirst, ← hbefore, List.reverse_append]
    rfl
  refine ⟨before.reverse, hreached, ?_⟩
  rw [← hreached, reachable, hfirst]
  constructor
  · exact List.nodup_reverse.mpr hwalk.nodup
  · exact List.isChain_reverse.mpr hwalk.linked

end Reach

namespace Resolution

variable {components : List Component}

/-- The strict ancestors of a type, each the direct supertype of the one before. -/
structure SuperChain (components : List Component) (name : String)
    (chain : List String) : Prop where
  nodup : (name :: chain).Nodup
  linked : (name :: chain).IsChain (Extends components)
  complete : ∀ a ∈ name :: chain, ∀ b, Extends components a b → b ∈ name :: chain

section Distinct

variable (hdistinct : (components.map (·.name)).Nodup)
include hdistinct

theorem lookup?_of_mem {c : Component} (hc : c ∈ components) :
    lookup? components c.name = some c := by
  cases hlookup : lookup? components c.name with
  | none => exact absurd rfl (lookup?_eq_none_iff.mp hlookup c hc)
  | some d =>
      obtain ⟨hd, hname⟩ := mem_of_lookup? hlookup
      rw [List.inj_on_of_nodup_map hdistinct hd hc hname]

theorem filter_name_eq (name : String) :
    components.filter (·.name == name) = (lookup? components name).toList := by
  cases hlookup : lookup? components name with
  | none =>
      rw [Option.toList_none, List.filter_eq_nil_iff]
      intro c hc
      simpa using lookup?_eq_none_iff.mp hlookup c hc
  | some c =>
      obtain ⟨hc, rfl⟩ := mem_of_lookup? hlookup
      have hcount := List.nodup_iff_count_le_one.mp hdistinct c.name
      rw [List.count_eq_countP, List.countP_map, List.countP_eq_length_filter] at hcount
      have hmem : c ∈ components.filter (·.name == c.name) :=
        List.mem_filter.mpr ⟨hc, beq_self_eq_true c.name⟩
      obtain ⟨d, hd⟩ := List.length_eq_one_iff.mp
        (le_antisymm hcount (List.length_pos_of_mem hmem))
      have hsingle : components.filter (·.name == c.name) = [d] := hd
      rw [hsingle, List.mem_singleton] at hmem
      rw [hsingle, hmem]
      rfl

theorem length_directSupertypes_le_one (name : String) :
    (directSupertypes components name).length ≤ 1 := by
  unfold directSupertypes
  split
  · exact Nat.zero_le 1
  · refine (length_eraseDups_le _).trans ?_
    rw [List.length_map, filter_name_eq hdistinct]
    cases lookup? components name <;> simp

theorem exists_superChain (name : String) :
    ∃ chain, ancestors components name = name :: chain ∧
      SuperChain components name chain := by
  obtain ⟨chain, hreached, hnodup, hlinked⟩ :=
    Reach.exists_reachable_chain (length_directSupertypes_le_one hdistinct)
      components.length name
  have hancestors : ancestors components name = name :: chain := hreached
  refine ⟨chain, hancestors, hnodup, hlinked, ?_⟩
  intro a ha b hab
  rw [← hancestors] at ha ⊢
  exact mem_ancestors_iff.mpr ((mem_ancestors_iff.mp ha).tail hab)

end Distinct

end Resolution

end Refit
