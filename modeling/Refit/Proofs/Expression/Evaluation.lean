import Refit.Expression.Evaluation
import Refit.Proofs.Mentions
import Refit.Proofs.Traversal

/-!
# Objects in the value of an expression

Operators and literals make no objects.  Whatever object occurs in the value of an
expression comes from an earlier result or a name that the expression refers to.
-/

namespace Refit.Expression

variable {P : Instance → Prop}

/-- All values that an expression may refer to hold only such objects. -/
structure Context.Only (P : Instance → Prop) (ctx : Context) : Prop where
  results : ∀ entry ∈ ctx.results, entry.2.Only P
  names : ∀ entry ∈ ctx.names, entry.2.Only P

theorem only_of_lookup
    {α : Type} [BEq α] {entries : List (α × Value)}
    (hentries : ∀ entry ∈ entries, entry.2.Only P) {key : α} {v : Value}
    (hv : entries.lookup key = some v) : v.Only P := by
  induction entries with
  | nil => cases hv
  | cons entry rest ih =>
      obtain ⟨other, held⟩ := entry
      rw [List.lookup_cons] at hv
      split at hv
      · cases hv
        exact hentries _ List.mem_cons_self
      · exact ih (fun entry hentry => hentries entry (List.mem_cons_of_mem _ hentry)) hv

theorem only_of_combineLongs
    {op : Char} {a b : Int64} {v : Value} (hv : combineLongs op a b = .ok v) :
    v.Only P := by
  unfold combineLongs at hv
  split_ifs at hv <;> cases hv <;> exact Value.only_of_primitive? (p := .long) rfl

theorem only_of_combineInts
    {op : Char} {a b : Int32} {v : Value} (hv : combineInts op a b = .ok v) :
    v.Only P := by
  unfold combineInts at hv
  split_ifs at hv <;> cases hv <;> exact Value.only_of_primitive? (p := .int) rfl

theorem only_of_combine
    {op : Char} {left right v : Value} (hv : combine op left right = .ok v) :
    v.Only P := by
  unfold combine at hv
  split_ifs at hv
  · cases hv
    exact Value.only_text
  · split at hv
    · cases hv
    · cases hv
      exact Value.only_of_primitive? (p := .double) rfl
    · cases hv
      exact Value.only_of_primitive? (p := .float) rfl
    · exact only_of_combineLongs hv
    · exact only_of_combineInts hv

theorem only_of_wholeLiteral
    {n : ℤ} {long : Bool} {v : Value} (hv : wholeLiteral n long = .ok v) : v.Only P := by
  unfold wholeLiteral at hv
  split_ifs at hv
  · cases hv
    exact Value.only_of_primitive? (p := .long) rfl
  · cases hv
    exact Value.only_of_primitive? (p := .int) rfl

theorem only_of_negate {w v : Value} (hv : negate w = .ok v) : v.Only P := by
  unfold negate at hv
  split at hv
  · cases hv
    exact Value.only_of_primitive? (p := .long) rfl
  · cases hv
    exact Value.only_of_primitive? (p := .float) rfl
  · cases hv
    exact Value.only_of_primitive? (p := .double) rfl
  · split at hv
    · cases hv
      exact Value.only_of_primitive? (p := .int) rfl
    · cases hv

theorem only_of_castItems
    {p : Primitive} {values casts : List Value} (hcasts : castItems p values = .ok casts) :
    ∀ w ∈ casts, w.Only P := by
  induction values generalizing casts with
  | nil =>
      cases hcasts
      simp
  | cons value values ih =>
      unfold castItems at hcasts
      split at hcasts
      · cases hcasts
      next cast hcast =>
      split at hcasts
      · cases hcasts
      next rest hrest =>
      cases hcasts
      intro w hw
      rcases List.mem_cons.mp hw with rfl | hw
      · exact Value.only_of_primitive? (Value.primitive?_of_cast? hcast).2
      · exact ih hrest w hw

theorem only_of_arrayOf
    {element : ValueType} {values : List Value} {v : Value}
    (hvalues : ∀ w ∈ values, w.Only P) (hv : arrayOf element values = .ok v) :
    v.Only P := by
  unfold arrayOf at hv
  split at hv
  · obtain ⟨casts, hcasts, rfl⟩ := exists_of_map_eq_ok hv
    exact Value.only_array.mpr (only_of_castItems hcasts)
  · cases hv
    exact Value.only_array.mpr hvalues

section Readers

variable {ctx : Context}

/-- Whatever the readers give for some fuel holds only such objects. -/
structure Reads (P : Instance → Prop) (ctx : Context) (fuel : ℕ) : Prop where
  sum : ∀ {ts v rest}, sum ctx fuel ts = .ok (v, rest) → v.Only P
  sumRest : ∀ {left ts v rest}, left.Only P →
    sumRest ctx fuel left ts = .ok (v, rest) → v.Only P
  product : ∀ {ts v rest}, product ctx fuel ts = .ok (v, rest) → v.Only P
  productRest : ∀ {left ts v rest}, left.Only P →
    productRest ctx fuel left ts = .ok (v, rest) → v.Only P
  unary : ∀ {ts v rest}, unary ctx fuel ts = .ok (v, rest) → v.Only P
  primary : ∀ {ts v rest}, primary ctx fuel ts = .ok (v, rest) → v.Only P
  items : ∀ {close ts vs rest}, items ctx fuel close ts = .ok (vs, rest) →
    ∀ v ∈ vs, v.Only P
  someItems : ∀ {close ts vs rest}, someItems ctx fuel close ts = .ok (vs, rest) →
    ∀ v ∈ vs, v.Only P

variable {fuel : ℕ} {ts rest : List Token} {v : Value}

theorem only_of_sum
    (hreads : Reads P ctx fuel) (hv : sum ctx (fuel + 1) ts = .ok (v, rest)) :
    v.Only P := by
  unfold sum at hv
  split at hv
  · cases hv
  next left more hleft => exact hreads.sumRest (hreads.product hleft) hv

theorem only_of_sumRest
    {left : Value} (hreads : Reads P ctx fuel) (hleft : left.Only P)
    (hv : sumRest ctx (fuel + 1) left ts = .ok (v, rest)) : v.Only P := by
  cases ts with
  | nil =>
      cases hv
      exact hleft
  | cons t ts =>
      cases t with
      | mark op =>
          simp only [sumRest] at hv
          split_ifs at hv
          · split at hv
            · cases hv
            split at hv
            · cases hv
            next hcombine => exact hreads.sumRest (only_of_combine hcombine) hv
          · cases hv
            exact hleft
      | _ =>
          cases hv
          exact hleft

theorem only_of_product
    (hreads : Reads P ctx fuel) (hv : product ctx (fuel + 1) ts = .ok (v, rest)) :
    v.Only P := by
  unfold product at hv
  split at hv
  · cases hv
  next left more hleft => exact hreads.productRest (hreads.unary hleft) hv

theorem only_of_productRest
    {left : Value} (hreads : Reads P ctx fuel) (hleft : left.Only P)
    (hv : productRest ctx (fuel + 1) left ts = .ok (v, rest)) : v.Only P := by
  cases ts with
  | nil =>
      cases hv
      exact hleft
  | cons t ts =>
      cases t with
      | mark op =>
          simp only [productRest] at hv
          split_ifs at hv
          · split at hv
            · cases hv
            split at hv
            · cases hv
            next hcombine => exact hreads.productRest (only_of_combine hcombine) hv
          · cases hv
            exact hleft
      | _ =>
          cases hv
          exact hleft

theorem only_of_unary
    (hreads : Reads P ctx fuel) (hv : unary ctx (fuel + 1) ts = .ok (v, rest)) :
    v.Only P := by
  unfold unary at hv
  split at hv
  · next heq => cases heq
  · next fuel' c more heq =>
    cases heq
    split_ifs at hv
    · split at hv
      · obtain ⟨w, hw, hpair⟩ := exists_of_map_eq_ok hv
        cases hpair
        exact only_of_wholeLiteral hw
      · split at hv
        · cases hv
        · obtain ⟨w, hw, hpair⟩ := exists_of_map_eq_ok hv
          cases hpair
          exact only_of_negate hw
    · exact hreads.primary hv
  · next heq _ =>
    cases heq
    exact hreads.primary hv

theorem only_of_primary
    (hctx : ctx.Only P) (hreads : Reads P ctx fuel)
    (hv : primary ctx (fuel + 1) ts = .ok (v, rest)) : v.Only P := by
  cases ts with
  | nil => cases hv
  | cons t ts =>
      cases t with
      | int value long =>
          obtain ⟨w, hw, hpair⟩ := exists_of_map_eq_ok hv
          cases hpair
          exact only_of_wholeLiteral hw
      | real value single =>
          cases hv
          split
          · exact Value.only_of_primitive? (p := .float) rfl
          · exact Value.only_of_primitive? (p := .double) rfl
      | letter c =>
          cases hv
          exact Value.only_of_primitive? (p := .char) rfl
      | text s =>
          cases hv
          exact Value.only_text
      | result n =>
          simp only [primary] at hv
          split at hv
          · next hresult =>
            cases hv
            exact only_of_lookup hctx.results hresult
          · cases hv
      | name name =>
          simp only [primary] at hv
          split_ifs at hv
          · cases hv
            exact Value.only_of_primitive? (p := .boolean) rfl
          · cases hv
            exact Value.only_of_primitive? (p := .boolean) rfl
          · cases hv
            exact Value.only_null
          · split at hv
            · cases hv
            split at hv
            · cases hv
            next hitems =>
            obtain ⟨w, hw, hpair⟩ := exists_of_map_eq_ok hv
            cases hpair
            exact only_of_arrayOf (hreads.items hitems) hw
          · split at hv
            · next hname =>
              cases hv
              exact only_of_lookup hctx.names hname
            · cases hv
      | mark c =>
          simp only [primary] at hv
          split_ifs at hv
          · split at hv
            · cases hv
            next hsum =>
            obtain ⟨more, -, hpair⟩ := exists_of_map_eq_ok hv
            cases hpair
            exact hreads.sum hsum
          · obtain ⟨⟨values, more⟩, hitems, hpair⟩ := exists_of_map_eq_ok hv
            cases hpair
            exact Value.only_list.mpr (hreads.items hitems)

theorem only_of_items
    {close : Char} {vs : List Value} (hreads : Reads P ctx fuel)
    (hvs : items ctx (fuel + 1) close ts = .ok (vs, rest)) : ∀ v ∈ vs, v.Only P := by
  unfold items at hvs
  split at hvs
  · cases hvs
    simp
  · exact hreads.someItems hvs

theorem only_of_someItems
    {close : Char} {vs : List Value} (hreads : Reads P ctx fuel)
    (hvs : someItems ctx (fuel + 1) close ts = .ok (vs, rest)) : ∀ v ∈ vs, v.Only P := by
  unfold someItems at hvs
  split at hvs
  · cases hvs
  next first more hfirst =>
  have hfirst := hreads.sum hfirst
  split at hvs
  · cases hvs
    simpa using hfirst
  split at hvs
  · cases hvs
  split at hvs
  · cases hvs
  next others _ hothers =>
  cases hvs
  intro v hv
  rcases List.mem_cons.mp hv with rfl | hv
  · exact hfirst
  · exact hreads.someItems hothers v hv

theorem reads (hctx : ctx.Only P) (fuel : ℕ) : Reads P ctx fuel := by
  induction fuel with
  | zero =>
      exact ⟨nofun, fun _ => nofun, nofun, fun _ => nofun, nofun, nofun, nofun, nofun⟩
  | succ fuel ih =>
      exact
        { sum := only_of_sum ih
          sumRest := only_of_sumRest ih
          product := only_of_product ih
          productRest := only_of_productRest ih
          unary := only_of_unary ih
          primary := only_of_primary hctx ih
          items := only_of_items ih
          someItems := only_of_someItems ih }

end Readers

theorem evaluate_only
    {text : String} {ctx : Context} {v : Value} (hctx : ctx.Only P)
    (hv : evaluate text ctx = .ok v) : v.Only P := by
  unfold evaluate value at hv
  split at hv
  · next hvalue =>
    cases hv
    split at hvalue
    · cases hvalue
    split at hvalue
    · cases hvalue
    · next hsum =>
      cases hvalue
      exact (reads hctx _).sum hsum
    · cases hvalue
  · cases hv

end Refit.Expression
