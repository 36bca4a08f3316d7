import Refit.Execution.Run
import Refit.Proofs.Execution.Worlds

/-!
# Renumbered objects

A run begins with the counter of objects at `n`; another one, the same otherwise, begins
with the counter at `m`.  An object of the first run has its counterpart in the second: the
object of the same type and the same number, counted from the beginning.  Only a text that
spells an object tells the two apart.  Conversions take the same course on counterparts,
unless they fail with such a text.
-/

namespace Refit

/-- The counterpart of an object in a run that begins at `m` instead of `n`. -/
def Instance.renumber (n m : ℕ) (i : Instance) : Instance := ⟨i.id - n + m, i.typeName⟩

namespace Value

mutual

/-- The value with the counterparts of its objects. -/
def renumber (n m : ℕ) : Value → Value
  | .object i => .object (i.renumber n m)
  | .list items => .list (renumberAll n m items)
  | .array items => .array (renumberAll n m items)
  | v => v

def renumberAll (n m : ℕ) : List Value → List Value
  | [] => []
  | v :: rest => renumber n m v :: renumberAll n m rest

end

end Value

/-- A text with an object in it as texts show objects, by which runs with different
counters differ. -/
def Spells (n m : ℕ) (s : String) : Prop :=
  n ≠ m ∧ ∃ i : Instance, n ≤ i.id ∧
    ((Value.object i).render.toList <:+: s.toList ∨ i.text.toList <:+: s.toList)

/-- The message of the fault spells an object. -/
def Fault.Spells (n m : ℕ) (f : Fault) : Prop := ∃ s, f.message = some s ∧ Refit.Spells n m s

variable {n m : ℕ}

section Spelling

variable {s t : String}

theorem Spells.mono (hs : Spells n m s) (hst : s.toList <:+: t.toList) : Spells n m t := by
  obtain ⟨hne, i, hi, hrender | htext⟩ := hs
  · exact ⟨hne, i, hi, .inl (hrender.trans hst)⟩
  · exact ⟨hne, i, hi, .inr (htext.trans hst)⟩

theorem Spells.append_right (hs : Spells n m s) (t : String) : Spells n m (s ++ t) :=
  hs.mono (String.toList_append ▸ (List.prefix_append _ _).isInfix)

theorem Spells.append_left (hs : Spells n m s) (t : String) : Spells n m (t ++ s) :=
  hs.mono (String.toList_append ▸ (List.suffix_append _ _).isInfix)

theorem not_spells_self (n : ℕ) (s : String) : ¬ Spells n n s := fun h => h.1 rfl

theorem Fault.not_spells_self (n : ℕ) (f : Fault) : ¬ f.Spells n n :=
  fun ⟨s, _, hs⟩ => Refit.not_spells_self n s hs

theorem Fault.Spells.counters_ne {f : Fault} (hf : f.Spells n m) : n ≠ m := by
  obtain ⟨_, _, hs⟩ := hf
  exact hs.1

end Spelling

namespace Instance

variable {i j : Instance}

theorem renumber_self (hi : n ≤ i.id) : i.renumber n n = i := by
  obtain ⟨id, typeName⟩ := i
  simp only [renumber, Instance.mk.injEq, and_true]
  exact Nat.sub_add_cancel hi

theorem renumber_id_inj (hi : n ≤ i.id) (hj : n ≤ j.id) :
    (i.renumber n m).id = (j.renumber n m).id ↔ i.id = j.id := by
  simp only [renumber]
  omega

end Instance

namespace Value

theorem renumberAll_eq_map (n m : ℕ) (items : List Value) :
    renumberAll n m items = items.map (renumber n m) := by
  induction items with
  | nil => rfl
  | cons v rest ih => rw [renumberAll, ih, List.map_cons]

@[simp]
theorem renumber_list (n m : ℕ) (items : List Value) :
    (Value.list items).renumber n m = .list (items.map (renumber n m)) := by
  rw [renumber, renumberAll_eq_map]

@[simp]
theorem renumber_array (n m : ℕ) (items : List Value) :
    (Value.array items).renumber n m = .array (items.map (renumber n m)) := by
  rw [renumber, renumberAll_eq_map]

mutual

theorem renumber_of_fixed : ∀ {v : Value}, v.Only (fun i => i.renumber n m = i) →
    v.renumber n m = v
  | .object i, hi => by rw [renumber, only_object.mp hi]
  | .list items, hitems => by
      rw [renumber, renumberAll_of_fixed (only_list.mp hitems)]
  | .array items, hitems => by
      rw [renumber, renumberAll_of_fixed (only_array.mp hitems)]
  | .null, _ | .void, _ | .bool _, _ | .char _, _ | .byte _, _ | .short _, _ | .int _, _
  | .long _, _ | .float _, _ | .double _, _ | .text _, _ => rfl

theorem renumberAll_of_fixed : ∀ {items : List Value},
    (∀ v ∈ items, v.Only fun i => i.renumber n m = i) → renumberAll n m items = items
  | [], _ => rfl
  | v :: rest, hitems => by
      rw [renumberAll, renumber_of_fixed (hitems v List.mem_cons_self),
        renumberAll_of_fixed fun w hw => hitems w (List.mem_cons_of_mem _ hw)]

end

theorem renumber_of_primitive? {v : Value} {p : Primitive} (hv : v.primitive? = some p) :
    v.renumber n m = v :=
  renumber_of_fixed (only_of_primitive? hv)

theorem infix_renderItems {v : Value} {items : List Value} (hv : v ∈ items) :
    v.render.toList <:+: (renderItems items).toList := by
  induction items with
  | nil => cases hv
  | cons w rest ih =>
      cases rest with
      | nil =>
          rw [List.mem_singleton.mp hv, renderItems]
      | cons other more =>
          have hrender : renderItems (w :: other :: more) =
              w.render ++ ", " ++ renderItems (other :: more) := by
            rw [renderItems]
            simp
          rw [hrender, String.toList_append, String.toList_append]
          rcases List.mem_cons.mp hv with rfl | hv
          · rw [List.append_assoc]
            exact (List.prefix_append _ _).isInfix
          · exact (ih hv).trans (List.suffix_append _ _).isInfix

/-- A value that holds an object spells it. -/
theorem spells_render
    (hnm : n ≠ m) {v : Value} (hv : v.Mentions (n ≤ ·.id)) : Spells n m v.render := by
  induction hv with
  | object hi => exact ⟨hnm, _, hi, .inl List.infix_rfl⟩
  | list hitem _ ih =>
      rw [render]
      exact (ih.mono (infix_renderItems hitem)).append_left _ |>.append_right _
  | array hitem _ ih =>
      rw [render]
      exact (ih.mono (infix_renderItems hitem)).append_left _ |>.append_right _

theorem Mentions.of_only
    {P Q : Instance → Prop} {v : Value} (hv : v.Mentions P) (honly : v.Only Q) :
    v.Mentions Q := by
  by_contra hnot
  have hmentions : v.Mentions fun i => ¬ Q i := by
    induction hv with
    | object _ => exact .object fun hQ => hnot (.object hQ)
    | list hitem _ ih =>
        exact .list hitem (ih (only_list.mp honly _ hitem) fun h => hnot (.list hitem h))
    | array hitem _ ih =>
        exact .array hitem (ih (only_array.mp honly _ hitem) fun h => hnot (.array hitem h))
  exact honly hmentions

/-- A value whose text spells no object holds none, or the counters agree. -/
theorem renumber_of_quiet
    {v : Value} (hv : v.Only (n ≤ ·.id)) (hquiet : ¬ Spells n m v.render) :
    v.renumber n m = v := by
  refine renumber_of_fixed fun hmoved => ?_
  by_cases hnm : n = m
  · subst hnm
    exact hv (hmoved.mono fun i hi hn => hi (Instance.renumber_self hn))
  · exact hquiet (spells_render hnm (hmoved.of_only hv))

end Value

/-- The result with the counterparts of its objects. -/
def renumberResult (n m : ℕ) (r : Except Fault Value) : Except Fault Value :=
  r.map (Value.renumber n m)

@[simp]
theorem renumberResult_error (n m : ℕ) (f : Fault) :
    renumberResult n m (.error f) = .error f :=
  rfl

@[simp]
theorem renumberResult_ok (n m : ℕ) (v : Value) :
    renumberResult n m (.ok v) = .ok (v.renumber n m) :=
  rfl

/-- The result is no fault that spells an object. -/
def Quiet {α : Type} (n m : ℕ) (r : Except Fault α) : Prop := ∀ f, r = .error f → ¬ f.Spells n m

theorem quiet_ok {α : Type} (a : α) : Quiet n m (.ok a : Except Fault α) := nofun

theorem quiet_error {α : Type} {f : Fault} :
    Quiet n m (.error f : Except Fault α) ↔ ¬ f.Spells n m :=
  ⟨fun h => h f rfl, fun h g hg => by cases hg; exact h⟩

namespace Conversion

theorem renumber_of_quiet_classCast
    {v : Value} (hv : v.Only (n ≤ ·.id)) {s : String}
    (hquiet : ¬ Fault.Spells n m (.classCast (v.render ++ s))) : v.renumber n m = v :=
  Value.renumber_of_quiet hv fun hs => hquiet ⟨_, rfl, hs.append_right s⟩

theorem castTo_renumber
    {p : Primitive} {v : Value} (hv : v.Only (n ≤ ·.id)) (hquiet : Quiet n m (castTo p v)) :
    castTo p (v.renumber n m) = renumberResult n m (castTo p v) := by
  have hfixed : v.renumber n m = v := by
    unfold castTo at hquiet
    split at hquiet
    · next hnull =>
      cases v with
      | null => rfl
      | _ => cases hnull
    split at hquiet
    · next w hw =>
      obtain ⟨⟨q, hq⟩, -⟩ := Value.primitive?_of_cast? hw
      exact Value.renumber_of_primitive? hq
    · rw [String.append_assoc] at hquiet
      exact renumber_of_quiet_classCast hv (quiet_error.mp hquiet)
  rw [hfixed]
  unfold castTo
  split
  · rfl
  split
  · next w hw =>
    rw [renumberResult_ok, Value.renumber_of_primitive? (Value.primitive?_of_cast? hw).2]
  · rfl

theorem charsOf_renumber
    {items : List Value} (hitems : ∀ v ∈ items, v.Only (n ≤ ·.id))
    (hquiet : Quiet n m (charsOf items)) :
    charsOf (items.map (Value.renumber n m)) = charsOf items := by
  induction items with
  | nil => rfl
  | cons v rest ih =>
      have hrest := fun w hw => hitems w (List.mem_cons_of_mem _ hw)
      by_cases hchar : ∃ c, v = .char c
      · obtain ⟨c, rfl⟩ := hchar
        have hchar : (Value.char c).renumber n m = .char c := rfl
        have hquietRest : Quiet n m (charsOf rest) := by
          intro f hf
          rw [charsOf, hf] at hquiet
          exact quiet_error.mp hquiet
        rw [List.map_cons, hchar, charsOf, charsOf, ih hrest hquietRest]
      · have hcharsOf : charsOf (v :: rest) = .error (mismatch v "char") := by
          rw [charsOf]
          exact fun c hc => hchar ⟨c, hc⟩
        have hfixed : v.renumber n m = v := by
          rw [hcharsOf, mismatch, String.append_assoc] at hquiet
          exact renumber_of_quiet_classCast (hitems v List.mem_cons_self) (quiet_error.mp hquiet)
        rw [hcharsOf, List.map_cons, hfixed, charsOf]
        exact fun c hc => hchar ⟨c, hc⟩

theorem apply_renumber
    {c : Conversion} {v : Value} (hv : v.Only (n ≤ ·.id)) (hquiet : Quiet n m (c.apply v)) :
    c.apply (v.renumber n m) = renumberResult n m (c.apply v) := by
  have hmismatch : ∀ s, c.apply v = .error (mismatch v s) →
      c.apply (v.renumber n m) = renumberResult n m (c.apply v) := by
    intro s hs
    have hfixed : v.renumber n m = v := by
      rw [hs, mismatch, String.append_assoc] at hquiet
      exact renumber_of_quiet_classCast hv (quiet_error.mp hquiet)
    rw [hfixed, hs, renumberResult_error]
  have hchars : ∀ items : List Value, (∀ item ∈ items, item.Only (n ≤ ·.id)) →
      Quiet n m (charsToText.apply (.list items)) →
      charsToText.apply (.list (items.map (Value.renumber n m))) =
        renumberResult n m (charsToText.apply (.list items)) := by
    intro items hitems hquiet
    simp only [apply] at hquiet ⊢
    rw [charsOf_renumber hitems]
    · split
      · rfl
      · rfl
    · intro f hf
      rw [hf] at hquiet
      exact quiet_error.mp hquiet
  cases c with
  | identity | box | discard => rfl
  | widen | narrow | unbox => exact castTo_renumber hv hquiet
  | textToChars =>
      cases v with
      | text s =>
          have hchars : ∀ w ∈ s.toList.map Value.char, w.Only fun i => i.renumber n m = i := by
            intro w hw
            obtain ⟨c, -, rfl⟩ := List.mem_map.mp hw
            exact Value.not_mentions_char
          exact congrArg Except.ok (Value.renumber_of_fixed (Value.only_array.mpr hchars)).symm
      | null => rfl
      | _ => exact hmismatch _ rfl
  | charsToText =>
      cases v with
      | list items =>
          rw [Value.renumber_list]
          exact hchars items (Value.only_list.mp hv) hquiet
      | array items =>
          rw [Value.renumber_array]
          exact hchars items (Value.only_array.mp hv) hquiet
      | null => rfl
      | _ => exact hmismatch _ rfl
  | listToArray | arrayToList =>
      cases v with
      | list items =>
          rw [Value.renumber_list]
          simp only [apply, renumberResult_ok, Value.renumber_list, Value.renumber_array]
      | array items =>
          rw [Value.renumber_array]
          simp only [apply, renumberResult_ok, Value.renumber_list, Value.renumber_array]
      | null => rfl
      | _ => exact hmismatch _ rfl

end Conversion

end Refit
