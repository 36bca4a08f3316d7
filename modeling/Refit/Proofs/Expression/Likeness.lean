import Refit.Proofs.Execution.Renumbering
import Refit.Proofs.Expression.Evaluation

/-!
# Expressions over renumbered objects

An expression takes the same course whatever the numbers of the objects that it refers to
are: operators ask for the kind of an operand and for the numbers in it, but they write an
object into a text.  So two evaluations over counterparts give alike values, which differ
in the numbers of objects and in texts that spell an object.  When the value of the first
holds no such text, that of the second is its counterpart.
-/

namespace Refit

variable {n m : ℕ}

/-- A text in the value spells an object. -/
inductive Value.Tells (n m : ℕ) : Value → Prop
  | text {s : String} (h : Spells n m s) : Tells n m (.text s)
  | list {items : List Value} {item : Value} (hitem : item ∈ items)
      (h : Tells n m item) : Tells n m (.list items)
  | array {items : List Value} {item : Value} (hitem : item ∈ items)
      (h : Tells n m item) : Tells n m (.array items)

/-- Neither a text in the result nor the fault spells an object. -/
def Unspelled (n m : ℕ) (r : Except Fault Value) : Prop :=
  Quiet n m r ∧ ∀ v, r = .ok v → ¬ v.Tells n m

theorem Value.not_tells_self (n : ℕ) (v : Value) : ¬ v.Tells n n := by
  intro htells
  induction htells with
  | text hs => exact not_spells_self n _ hs
  | list _ _ ih | array _ _ ih => exact ih

theorem unspelled_self (n : ℕ) (r : Except Fault Value) : Unspelled n n r :=
  ⟨fun f _ => Fault.not_spells_self n f, fun v _ => v.not_tells_self n⟩

namespace Value

mutual

/-- The values are the same but for the numbers of objects and for texts that spell an
object. -/
def Alike (n m : ℕ) : Value → Value → Prop
  | .object i, w => n ≤ i.id ∧ w = .object (i.renumber n m)
  | .text s, w => ∃ s', w = .text s' ∧ (s = s' ∨ Spells n m s)
  | .list items, w => ∃ items', w = .list items' ∧ AllAlike n m items items'
  | .array items, w => ∃ items', w = .array items' ∧ AllAlike n m items items'
  | v, w => v = w

def AllAlike (n m : ℕ) : List Value → List Value → Prop
  | [], ws => ws = []
  | v :: rest, ws => ∃ w rest', ws = w :: rest' ∧ Alike n m v w ∧ AllAlike n m rest rest'

end

mutual

theorem alike_renumber : ∀ v : Value, v.Only (n ≤ ·.id) → v.Alike n m (v.renumber n m)
  | .object _, hi => ⟨only_object.mp hi, rfl⟩
  | .text s, _ => ⟨s, rfl, .inl rfl⟩
  | .list items, hitems => ⟨_, rfl, allAlike_renumberAll items (only_list.mp hitems)⟩
  | .array items, hitems => ⟨_, rfl, allAlike_renumberAll items (only_array.mp hitems)⟩
  | .null, _ | .void, _ | .bool _, _ | .char _, _ | .byte _, _ | .short _, _ | .int _, _
  | .long _, _ | .float _, _ | .double _, _ => rfl

theorem allAlike_renumberAll : ∀ items : List Value, (∀ v ∈ items, v.Only (n ≤ ·.id)) →
    AllAlike n m items (renumberAll n m items)
  | [], _ => rfl
  | v :: rest, hitems =>
      ⟨_, _, rfl, alike_renumber v (hitems v List.mem_cons_self),
        allAlike_renumberAll rest fun w hw => hitems w (List.mem_cons_of_mem _ hw)⟩

end

theorem allAlike_nil : AllAlike n m [] [] := rfl

theorem alike_self {v : Value} (hv : v.Only fun _ => False) : v.Alike n m v := by
  have halike := alike_renumber (n := n) (m := m) v (hv.mono fun _ h => h.elim)
  rw [renumber_of_fixed (hv.mono fun _ h => h.elim)] at halike
  exact halike

theorem alike_text (s : String) : (Value.text s).Alike n m (.text s) := ⟨s, rfl, .inl rfl⟩

theorem alike_of_primitive? {v : Value} {p : Primitive} (hv : v.primitive? = some p) :
    v.Alike n m v := by
  cases v with
  | null | void | text | list | array | object => cases hv
  | _ => rfl

theorem Alike.primitive?_eq {v w : Value} (h : v.Alike n m w) : w.primitive? = v.primitive? := by
  cases v with
  | object => rw [h.2]; rfl
  | text | list | array => obtain ⟨_, rfl, -⟩ := h; rfl
  | _ => cases h; rfl

theorem Alike.eq_of_primitive?
    {v w : Value} (h : v.Alike n m w) {p : Primitive} (hv : v.primitive? = some p) : w = v := by
  cases v with
  | null | void | text | list | array | object => cases hv
  | _ => cases h; rfl

mutual

theorem Alike.render : ∀ {v w : Value}, v.Alike n m w → w.render = v.render ∨ Spells n m v.render
  | .object i, _, h => by
      obtain ⟨hi, rfl⟩ := h
      by_cases hnm : n = m
      · subst hnm
        exact .inl (by rw [Instance.renumber_self hi])
      · exact .inr ⟨hnm, i, hi, .inl List.infix_rfl⟩
  | .text s, _, h => by
      obtain ⟨s', rfl, rfl | hs⟩ := h
      · exact .inl rfl
      · exact .inr hs
  | .list items, _, h => by
      obtain ⟨items', rfl, hitems⟩ := h
      rw [Value.render, Value.render]
      rcases AllAlike.renderItems hitems with heq | hspells
      · exact .inl (by rw [heq])
      · exact .inr ((hspells.append_left _).append_right _)
  | .array items, _, h => by
      obtain ⟨items', rfl, hitems⟩ := h
      rw [Value.render, Value.render]
      rcases AllAlike.renderItems hitems with heq | hspells
      · exact .inl (by rw [heq])
      · exact .inr ((hspells.append_left _).append_right _)
  | .null, _, h | .void, _, h | .bool _, _, h | .char _, _, h | .byte _, _, h
  | .short _, _, h | .int _, _, h | .long _, _, h | .float _, _, h | .double _, _, h =>
      .inl (congrArg Value.render h.symm)

theorem AllAlike.renderItems : ∀ {items items' : List Value}, AllAlike n m items items' →
    renderItems items' = renderItems items ∨ Spells n m (renderItems items)
  | [], _, h => by rw [AllAlike] at h; exact .inl (congrArg _ h)
  | [v], _, h => by
      obtain ⟨w, rest', rfl, hv, hrest⟩ := h
      rw [AllAlike] at hrest
      subst hrest
      rw [Value.renderItems, Value.renderItems]
      exact hv.render
  | v :: other :: rest, _, h => by
      obtain ⟨w, rest', rfl, hv, hrest⟩ := h
      have hmore := AllAlike.renderItems hrest
      obtain ⟨other', more', rfl, -, -⟩ := hrest
      have hitems : ∀ (v other : Value) more, Value.renderItems (v :: other :: more) =
          v.render ++ ", " ++ Value.renderItems (other :: more) := by
        intro v other more
        rw [Value.renderItems]
        simp
      rw [hitems, hitems]
      rcases hv.render with hfirst | hspells
      · rcases hmore with hsame | hspells
        · exact .inl (by rw [hfirst, hsame])
        · exact .inr (hspells.append_left _)
      · exact .inr ((hspells.append_right _).append_right _)

end

mutual

/-- Of alike values the second is the counterpart of the first if this tells nothing. -/
theorem Alike.eq_renumber : ∀ {v w : Value}, v.Alike n m w → ¬ v.Tells n m → w = v.renumber n m
  | .object _, _, h, _ => h.2
  | .text s, _, h, hquiet => by
      obtain ⟨s', rfl, rfl | hs⟩ := h
      · rfl
      · exact absurd (.text hs) hquiet
  | .list items, _, h, hquiet => by
      obtain ⟨items', rfl, hitems⟩ := h
      rw [renumber, AllAlike.eq_renumberAll hitems fun v hv htells => hquiet (.list hv htells)]
  | .array items, _, h, hquiet => by
      obtain ⟨items', rfl, hitems⟩ := h
      rw [renumber, AllAlike.eq_renumberAll hitems fun v hv htells => hquiet (.array hv htells)]
  | .null, _, h, _ | .void, _, h, _ | .bool _, _, h, _ | .char _, _, h, _ | .byte _, _, h, _
  | .short _, _, h, _ | .int _, _, h, _ | .long _, _, h, _ | .float _, _, h, _
  | .double _, _, h, _ => h.symm

theorem AllAlike.eq_renumberAll : ∀ {items items' : List Value}, AllAlike n m items items' →
    (∀ v ∈ items, ¬ v.Tells n m) → items' = renumberAll n m items
  | [], _, h, _ => h
  | v :: rest, _, h, hquiet => by
      obtain ⟨w, rest', rfl, hv, hrest⟩ := h
      rw [renumberAll, hv.eq_renumber (hquiet v List.mem_cons_self),
        AllAlike.eq_renumberAll hrest fun w hw => hquiet w (List.mem_cons_of_mem _ hw)]

end

end Value

namespace Expression

/-- Both ways to a result come to related ones, or to the same failure unless the first
fails with a text that spells an object. -/
def Both {α : Type} (n m : ℕ) (R : α → α → Prop) (r r' : Except Failure α) : Prop :=
  (∃ a a', r = .ok a ∧ r' = .ok a' ∧ R a a') ∨
    ∃ f f', r = .error f ∧ r' = .error f' ∧ (f = f' ∨ f.fault.Spells n m)

section Operators

theorem Both.ok {α : Type} {R : α → α → Prop} {a a' : α} (h : R a a') :
    Both n m R (.ok a) (.ok a') :=
  .inl ⟨a, a', rfl, rfl, h⟩

theorem Both.error {α : Type} {R : α → α → Prop} (f : Failure) :
    Both n m R (.error f) (.error f) :=
  .inr ⟨f, f, rfl, rfl, .inl rfl⟩

theorem Both.refl {α : Type} {R : α → α → Prop} {r : Except Failure α}
    (hR : ∀ a, r = .ok a → R a a) : Both n m R r r := by
  cases r with
  | error f => exact .error f
  | ok a => exact .ok (hR a rfl)

theorem Both.map
    {α β : Type} {R : α → α → Prop} {S : β → β → Prop} {g g' : α → β}
    {r r' : Except Failure α} (h : Both n m R r r') (hg : ∀ a a', R a a' → S (g a) (g' a')) :
    Both n m S (r.map g) (r'.map g') := by
  obtain ⟨a, a', rfl, rfl, ha⟩ | ⟨f, f', rfl, rfl, hf⟩ := h
  · exact .ok (hg a a' ha)
  · exact .inr ⟨f, f', rfl, rfl, hf⟩

theorem Failure.fault_spells {f : Failure} (h : Spells n m f.message) : f.fault.Spells n m := by
  unfold fault
  split
  · exact ⟨_, rfl, h⟩
  · exact ⟨_, rfl, h⟩

/-- Failures that show alike values. -/
theorem Both.shown
    {α : Type} {R : α → α → Prop} {v w : Value} (h : v.Alike n m w) (failure : String → Failure)
    (hshow : ∀ s, Spells n m s → Spells n m (failure s).message) :
    Both n m R (.error (failure v.render)) (.error (failure w.render)) := by
  refine .inr ⟨_, _, rfl, rfl, ?_⟩
  rcases h.render with heq | hspells
  · exact .inl (by rw [heq])
  · exact .inr (Failure.fault_spells (hshow _ hspells))

theorem isText_of_alike {v w : Value} (h : v.Alike n m w) : isText w = isText v := by
  cases v with
  | object => rw [h.2]; rfl
  | text | list | array => obtain ⟨_, rfl, -⟩ := h; rfl
  | _ => cases h; rfl

theorem exists_primitive?_of_promoted?
    {left right : Value} {p : Primitive} (h : promoted? left right = some p) :
    (∃ a, left.primitive? = some a) ∧ ∃ b, right.primitive? = some b := by
  unfold promoted? at h
  split at h
  · next a b hleft hright => exact ⟨⟨a, hleft⟩, ⟨b, hright⟩⟩
  · cases h

/-- What shows two values shows alike ones as well, or else has a text of them in it. -/
theorem shown_alike
    {left left' right right' : Value} (hleft : left.Alike n m left')
    (hright : right.Alike n m right') {α : Type} (f : String → String → α) (S : α → Prop)
    (hfirst : ∀ s t, Spells n m s → S (f s t)) (hsecond : ∀ s t, Spells n m t → S (f s t)) :
    f left.render right.render = f left'.render right'.render ∨
      S (f left.render right.render) := by
  rcases hleft.render with hsame | hspells
  · rcases hright.render with hsame' | hspells
    · exact .inl (by rw [hsame, hsame'])
    · exact .inr (hsecond _ _ hspells)
  · exact .inr (hfirst _ _ hspells)

theorem combine_alike
    (op : Char) {left left' right right' : Value} (hleft : left.Alike n m left')
    (hright : right.Alike n m right') :
    Both n m (Value.Alike n m) (combine op left right) (combine op left' right') := by
  cases hp : promoted? left right with
  | some p =>
      obtain ⟨⟨a, ha⟩, ⟨b, hb⟩⟩ := exists_primitive?_of_promoted? hp
      rw [hleft.eq_of_primitive? ha, hright.eq_of_primitive? hb]
      exact .refl fun v hv => Value.alike_self (only_of_combine hv)
  | none =>
      have hp' : promoted? left' right' = none := by
        unfold promoted? at hp ⊢
        rw [hleft.primitive?_eq, hright.primitive?_eq]
        exact hp
      unfold combine
      rw [isText_of_alike hleft, isText_of_alike hright, hp, hp']
      split
      · exact .ok ⟨_, rfl, shown_alike hleft hright (· ++ ·) (Spells n m)
          (fun s t hs => hs.append_right t) fun s t ht => ht.append_left s⟩
      · refine .inr ⟨_, _, rfl, rfl, shown_alike hleft hright
          (Failure.badOperands op) (fun f => f.fault.Spells n m) ?_ ?_⟩
        · intro s t hs
          refine Failure.fault_spells ?_
          exact ((hs.append_left _).append_right _).append_right _
        · intro s t ht
          exact Failure.fault_spells (ht.append_left _)

theorem negate_alike {v w : Value} (h : v.Alike n m w) :
    Both n m (Value.Alike n m) (negate v) (negate w) := by
  cases hp : v.primitive? with
  | some p =>
      rw [h.eq_of_primitive? hp]
      exact .refl fun v hv => Value.alike_self (only_of_negate hv)
  | none =>
      have hnegate : ∀ u : Value, u.primitive? = none →
          negate u = .error (.badNegation u.render) := by
        intro u hu
        cases u <;> first | rfl | cases hu
      rw [hnegate v hp, hnegate w (h.primitive?_eq.trans hp)]
      exact .shown h .badNegation fun s hs => hs.append_left _

theorem castItems_alike
    (p : Primitive) {vs ws : List Value} (h : Value.AllAlike n m vs ws) :
    Both n m (Value.AllAlike n m) (castItems p vs) (castItems p ws) := by
  induction vs generalizing ws with
  | nil =>
      rw [Value.AllAlike] at h
      subst h
      exact .ok rfl
  | cons v rest ih =>
      obtain ⟨w, rest', rfl, hv, hrest⟩ := h
      rw [castItems, castItems]
      cases hcast : v.cast? p with
      | none =>
          have hcast' : w.cast? p = none := by
            cases hother : w.cast? p with
            | none => rfl
            | some u =>
                obtain ⟨⟨q, hq⟩, -⟩ := Value.primitive?_of_cast? hother
                rw [hv.primitive?_eq] at hq
                rw [hv.eq_of_primitive? hq, hcast] at hother
                cases hother
          rw [hcast']
          exact .shown hv (.badItem · p.keyword) fun s hs => (hs.append_right _).append_right _
      | some u =>
          obtain ⟨⟨q, hq⟩, hu⟩ := Value.primitive?_of_cast? hcast
          rw [hv.eq_of_primitive? hq, hcast]
          obtain ⟨us, us', hus, hus', halike⟩ | ⟨f, f', hf, hf', hsame⟩ := ih hrest
          · rw [hus, hus']
            exact .ok ⟨_, _, rfl, Value.alike_of_primitive? hu, halike⟩
          · rw [hf, hf']
            exact .inr ⟨f, f', rfl, rfl, hsame⟩

theorem arrayOf_alike
    (element : ValueType) {vs ws : List Value} (h : Value.AllAlike n m vs ws) :
    Both n m (Value.Alike n m) (arrayOf element vs) (arrayOf element ws) := by
  unfold arrayOf
  split
  · exact (castItems_alike _ h).map fun us us' hus => ⟨us', rfl, hus⟩
  · exact .ok ⟨ws, rfl, h⟩

end Operators

section Readers

/-- Alike values, in front of the same tokens. -/
def BothRead {α : Type} (n m : ℕ) (R : α → α → Prop)
    (r r' : Except Failure (α × List Token)) : Prop :=
  Both n m (fun a a' => R a.1 a'.1 ∧ a.2 = a'.2) r r'

/-- What two contexts have under a key is alike. -/
def LookupAlike (n m : ℕ) (found found' : Option Value) : Prop :=
  (found = none ∧ found' = none) ∨
    ∃ v w, found = some v ∧ found' = some w ∧ v.Alike n m w

structure Context.Alike (n m : ℕ) (ctx ctx' : Context) : Prop where
  results : ∀ k, LookupAlike n m (ctx.result? k) (ctx'.result? k)
  names : ∀ name, LookupAlike n m (ctx.name? name) (ctx'.name? name)

/-- The readers give alike values for some fuel. -/
structure ReadsAlike (n m : ℕ) (ctx ctx' : Context) (fuel : ℕ) : Prop where
  sum : ∀ ts, BothRead n m (Value.Alike n m) (sum ctx fuel ts) (sum ctx' fuel ts)
  sumRest : ∀ {left left' : Value}, left.Alike n m left' → ∀ ts,
    BothRead n m (Value.Alike n m) (sumRest ctx fuel left ts) (sumRest ctx' fuel left' ts)
  product : ∀ ts, BothRead n m (Value.Alike n m) (product ctx fuel ts) (product ctx' fuel ts)
  productRest : ∀ {left left' : Value}, left.Alike n m left' → ∀ ts,
    BothRead n m (Value.Alike n m) (productRest ctx fuel left ts)
      (productRest ctx' fuel left' ts)
  unary : ∀ ts, BothRead n m (Value.Alike n m) (unary ctx fuel ts) (unary ctx' fuel ts)
  primary : ∀ ts, BothRead n m (Value.Alike n m) (primary ctx fuel ts) (primary ctx' fuel ts)
  items : ∀ close ts,
    BothRead n m (Value.AllAlike n m) (items ctx fuel close ts) (items ctx' fuel close ts)
  someItems : ∀ close ts,
    BothRead n m (Value.AllAlike n m) (someItems ctx fuel close ts)
      (someItems ctx' fuel close ts)

variable {ctx ctx' : Context} {fuel : ℕ}

theorem Both.with_rest
    {α : Type} {R : α → α → Prop} {r r' : Except Failure α} (h : Both n m R r r')
    (rest : List Token) : BothRead n m R (r.map (·, rest)) (r'.map (·, rest)) :=
  h.map fun _ _ ha => ⟨ha, rfl⟩

theorem BothRead.cases
    {α : Type} {R : α → α → Prop} {r r' : Except Failure (α × List Token)}
    (h : BothRead n m R r r') :
    (∃ a a' rest, r = .ok (a, rest) ∧ r' = .ok (a', rest) ∧ R a a') ∨
      ∃ f f', r = .error f ∧ r' = .error f' ∧ (f = f' ∨ f.fault.Spells n m) := by
  obtain ⟨⟨a, rest⟩, ⟨a', rest'⟩, hr, hr', ha, hrest⟩ | hfails := h
  · cases hrest
    exact .inl ⟨a, a', rest, hr, hr', ha⟩
  · exact .inr hfails

theorem BothRead.ok
    {α : Type} {R : α → α → Prop} {a a' : α} (h : R a a') (rest : List Token) :
    BothRead n m R (.ok (a, rest)) (.ok (a', rest)) :=
  Both.ok ⟨h, rfl⟩

theorem alike_of_sum (hreads : ReadsAlike n m ctx ctx' fuel) (ts : List Token) :
    BothRead n m (Value.Alike n m) (sum ctx (fuel + 1) ts) (sum ctx' (fuel + 1) ts) := by
  rw [sum, sum]
  obtain ⟨left, left', rest, hr, hr', hleft⟩ | ⟨f, f', hr, hr', hf⟩ :=
    (hreads.product ts).cases
  · rw [hr, hr']
    exact hreads.sumRest hleft rest
  · rw [hr, hr']
    exact .inr ⟨f, f', rfl, rfl, hf⟩

theorem alike_of_sumRest
    (hreads : ReadsAlike n m ctx ctx' fuel) {left left' : Value} (hleft : left.Alike n m left')
    (ts : List Token) :
    BothRead n m (Value.Alike n m) (sumRest ctx (fuel + 1) left ts)
      (sumRest ctx' (fuel + 1) left' ts) := by
  cases ts with
  | nil => exact .ok hleft []
  | cons t ts =>
      cases t with
      | mark op =>
          simp only [sumRest]
          split_ifs
          · obtain ⟨right, right', rest, hr, hr', hright⟩ | ⟨f, f', hr, hr', hf⟩ :=
              (hreads.product ts).cases
            · rw [hr, hr']
              obtain ⟨v, w, hv, hw, hvw⟩ | ⟨f, f', hf, hf', hsame⟩ :=
                combine_alike op hleft hright
              · simp only [hv, hw]
                exact hreads.sumRest hvw rest
              · simp only [hf, hf']
                exact .inr ⟨f, f', rfl, rfl, hsame⟩
            · rw [hr, hr']
              exact .inr ⟨f, f', rfl, rfl, hf⟩
          · exact .ok hleft _
      | _ => exact .ok hleft _

theorem alike_of_product (hreads : ReadsAlike n m ctx ctx' fuel) (ts : List Token) :
    BothRead n m (Value.Alike n m) (product ctx (fuel + 1) ts)
      (product ctx' (fuel + 1) ts) := by
  rw [product, product]
  obtain ⟨left, left', rest, hr, hr', hleft⟩ | ⟨f, f', hr, hr', hf⟩ := (hreads.unary ts).cases
  · rw [hr, hr']
    exact hreads.productRest hleft rest
  · rw [hr, hr']
    exact .inr ⟨f, f', rfl, rfl, hf⟩

theorem alike_of_productRest
    (hreads : ReadsAlike n m ctx ctx' fuel) {left left' : Value} (hleft : left.Alike n m left')
    (ts : List Token) :
    BothRead n m (Value.Alike n m) (productRest ctx (fuel + 1) left ts)
      (productRest ctx' (fuel + 1) left' ts) := by
  cases ts with
  | nil => exact .ok hleft []
  | cons t ts =>
      cases t with
      | mark op =>
          simp only [productRest]
          split_ifs
          · obtain ⟨right, right', rest, hr, hr', hright⟩ | ⟨f, f', hr, hr', hf⟩ :=
              (hreads.unary ts).cases
            · rw [hr, hr']
              obtain ⟨v, w, hv, hw, hvw⟩ | ⟨f, f', hf, hf', hsame⟩ :=
                combine_alike op hleft hright
              · simp only [hv, hw]
                exact hreads.productRest hvw rest
              · simp only [hf, hf']
                exact .inr ⟨f, f', rfl, rfl, hsame⟩
            · rw [hr, hr']
              exact .inr ⟨f, f', rfl, rfl, hf⟩
          · exact .ok hleft _
      | _ => exact .ok hleft _

theorem wholeLiteral_alike (value : ℤ) (long : Bool) :
    Both n m (Value.Alike n m) (wholeLiteral value long) (wholeLiteral value long) :=
  .refl fun _ hv => Value.alike_self (only_of_wholeLiteral hv)

theorem alike_of_unary (hreads : ReadsAlike n m ctx ctx' fuel) (ts : List Token) :
    BothRead n m (Value.Alike n m) (unary ctx (fuel + 1) ts) (unary ctx' (fuel + 1) ts) := by
  cases ts with
  | nil => exact hreads.primary []
  | cons t ts =>
      cases t with
      | mark c =>
          simp only [unary]
          split_ifs
          · split
            · exact (wholeLiteral_alike _ _).with_rest _
            · obtain ⟨v, w, rest, hr, hr', hvw⟩ | ⟨f, f', hr, hr', hf⟩ :=
                (hreads.unary ts).cases
              · rw [hr, hr']
                exact (negate_alike hvw).with_rest rest
              · rw [hr, hr']
                exact .inr ⟨f, f', rfl, rfl, hf⟩
          · exact hreads.primary _
      | _ => exact hreads.primary _

theorem alike_of_primary
    (hctx : ctx.Alike n m ctx') (hreads : ReadsAlike n m ctx ctx' fuel) (ts : List Token) :
    BothRead n m (Value.Alike n m) (primary ctx (fuel + 1) ts)
      (primary ctx' (fuel + 1) ts) := by
  cases ts with
  | nil => exact Both.error _
  | cons t ts =>
      cases t with
      | int value long => exact (wholeLiteral_alike value long).with_rest ts
      | real value single =>
          refine .ok (Value.alike_self ?_) ts
          split
          · exact Value.only_of_primitive? (p := .float) rfl
          · exact Value.only_of_primitive? (p := .double) rfl
      | letter c => exact .ok (Value.alike_self Value.not_mentions_char) ts
      | text s => exact .ok (Value.alike_text s) ts
      | result k =>
          simp only [primary]
          obtain ⟨hfound, hfound'⟩ | ⟨v, w, hfound, hfound', hvw⟩ := hctx.results k
          · rw [hfound, hfound']
            exact Both.error _
          · rw [hfound, hfound']
            exact .ok hvw ts
      | name name =>
          simp only [primary]
          split_ifs
          · exact .ok (Value.alike_self (Value.only_of_primitive? (p := .boolean) rfl)) ts
          · exact .ok (Value.alike_self (Value.only_of_primitive? (p := .boolean) rfl)) ts
          · exact .ok (Value.alike_self Value.only_null) ts
          · split
            · exact Both.error _
            · next element rest _ =>
              obtain ⟨vs, ws, more, hr, hr', hitems⟩ | ⟨f, f', hr, hr', hf⟩ :=
                (hreads.items '\x7d' rest).cases
              · rw [hr, hr']
                exact (arrayOf_alike element hitems).with_rest more
              · rw [hr, hr']
                exact .inr ⟨f, f', rfl, rfl, hf⟩
          · obtain ⟨hfound, hfound'⟩ | ⟨v, w, hfound, hfound', hvw⟩ := hctx.names name
            · rw [hfound, hfound']
              exact Both.error _
            · rw [hfound, hfound']
              exact .ok hvw ts
      | mark c =>
          simp only [primary]
          split_ifs
          · obtain ⟨v, w, rest, hr, hr', hvw⟩ | ⟨f, f', hr, hr', hf⟩ := (hreads.sum ts).cases
            · rw [hr, hr']
              exact (Both.refl (R := Eq) fun _ _ => rfl).map fun _ _ hmore => ⟨hvw, hmore⟩
            · rw [hr, hr']
              exact .inr ⟨f, f', rfl, rfl, hf⟩
          · obtain ⟨vs, ws, rest, hr, hr', hitems⟩ | ⟨f, f', hr, hr', hf⟩ :=
              (hreads.items ']' ts).cases
            · rw [hr, hr']
              exact .ok ⟨ws, rfl, hitems⟩ rest
            · rw [hr, hr']
              exact .inr ⟨f, f', rfl, rfl, hf⟩
          · exact Both.error _

theorem alike_of_items
    (hreads : ReadsAlike n m ctx ctx' fuel) (close : Char) (ts : List Token) :
    BothRead n m (Value.AllAlike n m) (items ctx (fuel + 1) close ts)
      (items ctx' (fuel + 1) close ts) := by
  rw [items, items]
  split
  · exact .ok Value.allAlike_nil _
  · exact hreads.someItems close ts

theorem alike_of_someItems
    (hreads : ReadsAlike n m ctx ctx' fuel) (close : Char) (ts : List Token) :
    BothRead n m (Value.AllAlike n m) (someItems ctx (fuel + 1) close ts)
      (someItems ctx' (fuel + 1) close ts) := by
  rw [someItems, someItems]
  obtain ⟨v, w, rest, hr, hr', hvw⟩ | ⟨f, f', hr, hr', hf⟩ := (hreads.sum ts).cases
  · rw [hr, hr']
    simp only
    split
    · exact .ok ⟨w, [], rfl, hvw, Value.allAlike_nil⟩ _
    · split
      · exact Both.error _
      · next rest _ =>
        obtain ⟨vs, ws, more, hr, hr', hitems⟩ | ⟨f, f', hr, hr', hf⟩ :=
          (hreads.someItems close rest).cases
        · rw [hr, hr']
          exact .ok ⟨w, ws, rfl, hvw, hitems⟩ more
        · rw [hr, hr']
          exact .inr ⟨f, f', rfl, rfl, hf⟩
  · rw [hr, hr']
    exact .inr ⟨f, f', rfl, rfl, hf⟩

theorem readsAlike (hctx : ctx.Alike n m ctx') (fuel : ℕ) : ReadsAlike n m ctx ctx' fuel := by
  induction fuel with
  | zero =>
      exact
        { sum := fun _ => Both.error _
          sumRest := fun _ _ => Both.error _
          product := fun _ => Both.error _
          productRest := fun _ _ => Both.error _
          unary := fun _ => Both.error _
          primary := fun _ => Both.error _
          items := fun _ _ => Both.error _
          someItems := fun _ _ => Both.error _ }
  | succ fuel ih =>
      exact
        { sum := alike_of_sum ih
          sumRest := alike_of_sumRest ih
          product := alike_of_product ih
          productRest := alike_of_productRest ih
          unary := alike_of_unary ih
          primary := alike_of_primary hctx ih
          items := alike_of_items ih
          someItems := alike_of_someItems ih }

end Readers

theorem value_alike (text : String) {ctx ctx' : Context} (hctx : ctx.Alike n m ctx') :
    Both n m (Value.Alike n m) (value text ctx) (value text ctx') := by
  unfold value
  split
  · exact .error _
  next ts _ =>
  obtain ⟨v, w, rest, hr, hr', hvw⟩ | ⟨f, f', hr, hr', hf⟩ :=
    ((readsAlike hctx (enough ts)).sum ts).cases
  · rw [hr, hr']
    cases rest with
    | nil => exact .ok hvw
    | cons t rest => exact .error _
  · rw [hr, hr']
    exact .inr ⟨f, f', rfl, rfl, hf⟩

/-- Over counterparts an expression has the counterpart of its value, unless a text in its
value or its fault spells an object. -/
theorem evaluate_renumber
    (text : String) {ctx ctx' : Context} (hctx : ctx.Alike n m ctx')
    (hquiet : Unspelled n m (evaluate text ctx)) :
    evaluate text ctx' = renumberResult n m (evaluate text ctx) := by
  unfold evaluate at hquiet ⊢
  obtain ⟨v, w, hv, hw, hvw⟩ | ⟨f, f', hf, hf', hsame⟩ := value_alike text hctx
  · rw [hv] at hquiet ⊢
    rw [hw]
    exact congrArg Except.ok (hvw.eq_renumber (hquiet.2 v rfl))
  · rw [hf] at hquiet ⊢
    rw [hf']
    rcases hsame with rfl | hspells
    · rfl
    · exact absurd hspells (hquiet.1 _ rfl)

end Expression

end Refit
