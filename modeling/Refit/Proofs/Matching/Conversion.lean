import Mathlib.Tactic
import Refit.Matching.Conversion

/-!
# Conversions respect types

A conversion is chosen by looking at two types and is applied to a value later.
The rules by which conversions are chosen are written down as relations, and
each rule is shown to deliver a value of the second type for every value of the
first.  The one way to fail is to hand null to a primitive.
-/

namespace Refit

/-- What is below a type is below all that this type is below. -/
def Catalog.Transitive (catalog : Catalog) : Prop :=
  ∀ a b c, catalog.isSubtype a b = true →
    catalog.isSubtype b c = true → catalog.isSubtype a c = true

/-- Whether a value is of a type.  Null is of every type but the primitives and
the one without values. -/
def Value.HasType (catalog : Catalog) : Value → ValueType → Prop
  | v, .primitive p => v.primitive? = some p
  | v, .boxed p => v = .null ∨ v.primitive? = some p
  | v, .void => v = .void
  | v, .string => v = .null ∨ ∃ s, v = .text s
  | v, .object => v ≠ .void
  | v, .list => v = .null ∨ ∃ items, v = .list items
  | v, .named name =>
      v = .null ∨ ∃ i, v = .object i ∧ catalog.isSubtype i.typeName name = true
  | v, .array element =>
      v = .null ∨ ∃ items, v = .array items ∧
        ∀ item ∈ items, Value.HasType catalog item element

theorem Value.cast?_of_numeric
    {v : Value} {p q : Primitive} (hv : v.primitive? = some p)
    (hp : p ≠ .boolean) (hq : q ≠ .boolean) :
    ∃ w, v.cast? q = some w ∧ w.primitive? = some q := by
  have hreal : ∃ x, v.real? = some x := by
    cases v <;> simp_all [Value.primitive?, Value.real?, Value.integer?]
  obtain ⟨x, hx⟩ := hreal
  cases q <;> simp_all [Value.cast?, Value.primitive?]

theorem Value.cast?_self {v : Value} {p : Primitive}
    (hv : v.primitive? = some p) :
    ∃ w, v.cast? p = some w ∧ w.primitive? = some p := by
  by_cases hp : p = .boolean
  · subst hp
    cases v <;> simp_all [Value.primitive?, Value.cast?]
  · exact Value.cast?_of_numeric hv hp hp

theorem Value.HasType.ne_void {catalog : Catalog} {v : Value} {t : ValueType}
    (hv : v.HasType catalog t) (ht : t ≠ .void) : v ≠ .void := by
  rintro rfl
  cases t <;> simp_all [Value.HasType, Value.primitive?]

theorem Value.isNull_of_primitive? {v : Value} {p : Primitive}
    (hv : v.primitive? = some p) : v.isNull = false := by
  cases v <;> simp_all [Value.primitive?, Value.isNull]

namespace Conversion

variable {catalog : Catalog}

/-- The rules for conversions without a change of shape. -/
inductive Implicit (catalog : Catalog) :
    ValueType → ValueType → Conversion → Prop
  | same (t : ValueType) : Implicit catalog t t identity
  | widen {a b : Primitive} (h : a.widensTo b = true) :
      Implicit catalog (.primitive a) (.primitive b) (widen a b)
  | box (a : Primitive) : Implicit catalog (.primitive a) (.boxed a) (box a)
  | boxToRoot (a : Primitive) : Implicit catalog (.primitive a) .object (box a)
  | unbox (a : Primitive) : Implicit catalog (.boxed a) (.primitive a) (unbox a)
  | unboxWider {a b : Primitive} (h : a.widensTo b = true) :
      Implicit catalog (.boxed a) (.primitive b) (.widen a b)
  | toRoot {t : ValueType} (h : t ≠ .void) : Implicit catalog t .object identity
  | toSupertype {a b : String} (h : catalog.isSubtype a b = true) :
      Implicit catalog (.named a) (.named b) identity
  | elements {a b : ValueType} (h : Implicit catalog a b identity) :
      Implicit catalog (.array a) (.array b) identity

/-- The rules for conversions that change the shape. -/
inductive Converter : ValueType → ValueType → Conversion → Prop
  | textToChars : Converter .string (.array (.primitive .char)) textToChars
  | charsToText : Converter (.array (.primitive .char)) .string charsToText
  | listToArray (e : ValueType) : Converter .list (.array e) listToArray
  | arrayToList (e : ValueType) : Converter (.array e) .list arrayToList

/-- The rules for results. -/
inductive OnReturn (catalog : Catalog) :
    ValueType → ValueType → Conversion → Prop
  | discard (t : ValueType) : OnReturn catalog t .void discard
  | implicit {s t : ValueType} {c : Conversion} (h : Implicit catalog s t c) :
      OnReturn catalog s t c
  | narrow {a b : Primitive} (h : a.narrowsTo b = true) :
      OnReturn catalog (.primitive a) (.primitive b) (narrow a b)
  | unboxNarrower {a b : Primitive} (h : a.narrowsTo b = true) :
      OnReturn catalog (.boxed a) (.primitive b) (.narrow a b)

theorem implicit_of_implicit? {s t : ValueType} {c : Conversion}
    (hc : implicit? catalog s t = some c) : Implicit catalog s t c := by
  fun_induction implicit? catalog s t generalizing c <;>
    try cases hc
  case case1 => exact .same _
  case case4 hwidens _ => exact .widen hwidens
  case case6 => exact .box _
  case case8 => exact .boxToRoot _
  case case10 => exact .unbox _
  case case11 hwidens _ => exact .unboxWider hwidens
  case case13 hvoid _ _ => exact .toRoot hvoid
  case case14 hsub _ => exact .toSupertype hsub
  case case16 a b hreferences _ ih =>
    rw [Option.filter_eq_some_iff] at hc
    obtain ⟨hc, hidentity⟩ := hc
    cases c <;> simp [isIdentity] at hidentity
    exact .elements (ih hc)

theorem converter_of_converter? {s t : ValueType} {c : Conversion}
    (hc : converter? s t = some c) : Converter s t c := by
  unfold converter? at hc
  split at hc <;> cases hc
  · exact .textToChars
  · exact .charsToText
  · exact .listToArray _
  · exact .arrayToList _

theorem onReturn_of_onReturn? {s t : ValueType} {c : Conversion}
    (hc : onReturn? catalog s t = some c) : OnReturn catalog s t c := by
  unfold onReturn? at hc
  split at hc
  · next hwanted =>
    cases t <;> simp [ValueType.isVoid] at hwanted
    cases hc
    split
    · next hreal =>
      cases s <;> simp [ValueType.isVoid] at hreal
      exact .implicit (.same _)
    · exact .discard s
  · split at hc
    · cases hc
    · split at hc
      · next himplicit =>
        cases hc
        exact .implicit (implicit_of_implicit? himplicit)
      · split at hc
        · split at hc <;> cases hc
          next hnarrows => exact .narrow hnarrows
        · split at hc <;> cases hc
          next hnarrows => exact .unboxNarrower hnarrows
        · cases hc

/-- The converted value is of the target type.  Of an array made from a list
the items are not looked at. -/
def Delivers (catalog : Catalog) (c : Conversion) (w : Value) (t : ValueType) :
    Prop :=
  match c, t with
  | listToArray, .array _ => w = .null ∨ ∃ items, w = .array items
  | _, t => w.HasType catalog t

/-- A conversion serves two types when it fails on null for a primitive only,
and delivers a value of the second for every other value of the first. -/
structure Serves (catalog : Catalog) (c : Conversion) (s t : ValueType) :
    Prop where
  nullToPrimitive : ∀ p : Primitive, t = .primitive p →
    Value.null.HasType catalog s →
      c.apply .null =
        .error (.nullPointer ("cannot convert null to " ++ p.keyword))
  delivers : ∀ v : Value, v.HasType catalog s →
    (v = .null → t.isPrimitive = false) →
      ∃ w, c.apply v = .ok w ∧ c.Delivers catalog w t

theorem castTo_null (p : Primitive) :
    castTo p .null =
      .error (.nullPointer ("cannot convert null to " ++ p.keyword)) := rfl

theorem castTo_of_cast? {v w : Value} {p q : Primitive}
    (hv : v.primitive? = some p) (hw : v.cast? q = some w) :
    castTo q v = .ok w := by
  simp [castTo, Value.isNull_of_primitive? hv, hw]

theorem widensTo_ne_boolean {a b : Primitive} (h : a.widensTo b = true) :
    a ≠ .boolean ∧ b ≠ .boolean := by
  cases a <;> cases b <;> simp_all [Primitive.widensTo]

theorem narrowsTo_ne_boolean {a b : Primitive} (h : a.narrowsTo b = true) :
    a ≠ .boolean ∧ b ≠ .boolean := by
  simp only [Primitive.narrowsTo, Bool.and_eq_true, decide_eq_true_eq] at h
  exact ⟨h.1.1.2, h.1.2⟩

theorem serves_of_castTo
    {c : Conversion} {s : ValueType} {a b : Primitive}
    (happly : ∀ v, c.apply v = castTo b v)
    (hdelivers : ∀ w, c.Delivers catalog w (.primitive b) ↔ w.primitive? = some b)
    (hsource : ∀ v : Value, v.HasType catalog s → v = .null ∨ v.primitive? = some a)
    (hcast : ∀ v : Value, v.primitive? = some a →
      ∃ w, v.cast? b = some w ∧ w.primitive? = some b) :
    c.Serves catalog s (.primitive b) where
  nullToPrimitive := by
    rintro p ⟨⟩ -
    rw [happly, castTo_null]
  delivers := by
    intro v hv hnull
    rcases hsource v hv with rfl | hv
    · simp [ValueType.isPrimitive] at hnull
    · obtain ⟨w, hw, htype⟩ := hcast v hv
      exact ⟨w, (happly v).trans (castTo_of_cast? hv hw), (hdelivers w).mpr htype⟩

/-- An identity serves two types when each value of the first is one of the
second. -/
theorem serves_of_unchanged
    {c : Conversion} {s t : ValueType}
    (happly : ∀ v, c.apply v = .ok v)
    (hdelivers : ∀ w, c.Delivers catalog w t ↔ w.HasType catalog t)
    (hsub : ∀ v : Value, v.HasType catalog s → v.HasType catalog t) :
    c.Serves catalog s t where
  nullToPrimitive := by
    rintro p rfl hnull
    have himpossible := hsub .null hnull
    simp [Value.HasType, Value.primitive?] at himpossible
  delivers := fun v hv _ => ⟨v, happly v, (hdelivers v).mpr (hsub v hv)⟩

theorem Implicit.hasType
    (htrans : catalog.Transitive)
    {s t : ValueType} {c : Conversion} (h : Implicit catalog s t c)
    (hc : c = identity) :
    ∀ v : Value, v.HasType catalog s → v.HasType catalog t := by
  induction h with
  | same => exact fun _ hv => hv
  | widen | box | boxToRoot | unbox | unboxWider => cases hc
  | toRoot hvoid => exact fun v hv => hv.ne_void hvoid
  | toSupertype hsub =>
      rintro v (hnull | ⟨i, hi, hbelow⟩)
      · exact .inl hnull
      · exact .inr ⟨i, hi, htrans _ _ _ hbelow hsub⟩
  | elements _ ih =>
      rintro v (hnull | ⟨items, hitems, hall⟩)
      · exact .inl hnull
      · exact .inr ⟨items, hitems, fun item hitem => ih rfl item (hall item hitem)⟩

theorem Implicit.serves
    (htrans : catalog.Transitive)
    {s t : ValueType} {c : Conversion} (h : Implicit catalog s t c) :
    c.Serves catalog s t := by
  have hidentity : c = identity → c.Serves catalog s t := by
    rintro rfl
    exact serves_of_unchanged (fun _ => rfl) (fun _ => Iff.rfl)
      (h.hasType htrans rfl)
  cases h with
  | same | toRoot | toSupertype | elements => exact hidentity rfl
  | widen hwidens =>
      obtain ⟨ha, hb⟩ := widensTo_ne_boolean hwidens
      exact serves_of_castTo (fun _ => rfl) (fun _ => Iff.rfl)
        (fun _ hv => .inr hv) (fun _ hv => Value.cast?_of_numeric hv ha hb)
  | unboxWider hwidens =>
      obtain ⟨ha, hb⟩ := widensTo_ne_boolean hwidens
      exact serves_of_castTo (fun _ => rfl) (fun _ => Iff.rfl)
        (fun _ hv => hv) (fun _ hv => Value.cast?_of_numeric hv ha hb)
  | unbox =>
      exact serves_of_castTo (fun _ => rfl) (fun _ => Iff.rfl)
        (fun _ hv => hv) (fun _ hv => Value.cast?_self hv)
  | box =>
      exact serves_of_unchanged (fun _ => rfl) (fun _ => Iff.rfl)
        (fun _ hv => .inr hv)
  | boxToRoot =>
      exact serves_of_unchanged (fun _ => rfl) (fun _ => Iff.rfl)
        (fun _ hv => hv.ne_void (by simp))

theorem charsOf_of_hasType {items : List Value}
    (hitems : ∀ item ∈ items, item.HasType catalog (.primitive .char)) :
    ∃ cs, charsOf items = .ok cs := by
  induction items with
  | nil => exact ⟨[], rfl⟩
  | cons item items ih =>
      obtain ⟨cs, hcs⟩ := ih fun other hother =>
        hitems other (List.mem_cons_of_mem item hother)
      have hitem := hitems item List.mem_cons_self
      cases item <;> simp [Value.HasType, Value.primitive?] at hitem
      next c => exact ⟨c :: cs, by simp [charsOf, hcs]⟩

theorem Converter.serves {s t : ValueType} {c : Conversion}
    (h : Converter s t c) : c.Serves catalog s t := by
  cases h with
  | textToChars =>
      refine ⟨by rintro p ⟨⟩, ?_⟩
      rintro v (rfl | ⟨s, rfl⟩) -
      · exact ⟨.null, rfl, .inl rfl⟩
      · refine ⟨_, rfl, .inr ⟨_, rfl, ?_⟩⟩
        intro item hitem
        obtain ⟨c, -, rfl⟩ := List.mem_map.mp hitem
        rfl
  | charsToText =>
      refine ⟨by rintro p ⟨⟩, ?_⟩
      rintro v (rfl | ⟨items, rfl, hitems⟩) -
      · exact ⟨.null, rfl, .inl rfl⟩
      · obtain ⟨cs, hcs⟩ := charsOf_of_hasType hitems
        exact ⟨.text (String.ofList cs), by simp [apply, hcs], .inr ⟨_, rfl⟩⟩
  | listToArray =>
      refine ⟨by rintro p ⟨⟩, ?_⟩
      rintro v (rfl | ⟨items, rfl⟩) -
      · exact ⟨.null, rfl, .inl rfl⟩
      · exact ⟨.array items, rfl, .inr ⟨items, rfl⟩⟩
  | arrayToList =>
      refine ⟨by rintro p ⟨⟩, ?_⟩
      rintro v (rfl | ⟨items, rfl, -⟩) -
      · exact ⟨.null, rfl, .inl rfl⟩
      · exact ⟨.list items, rfl, .inr ⟨items, rfl⟩⟩

theorem OnReturn.serves
    (htrans : catalog.Transitive)
    {s t : ValueType} {c : Conversion} (h : OnReturn catalog s t c) :
    c.Serves catalog s t := by
  cases h with
  | discard => exact ⟨by rintro p ⟨⟩, fun v _ _ => ⟨.void, rfl, rfl⟩⟩
  | implicit himplicit => exact himplicit.serves htrans
  | narrow hnarrows =>
      obtain ⟨ha, hb⟩ := narrowsTo_ne_boolean hnarrows
      exact serves_of_castTo (fun _ => rfl) (fun _ => Iff.rfl)
        (fun _ hv => .inr hv) (fun _ hv => Value.cast?_of_numeric hv ha hb)
  | unboxNarrower hnarrows =>
      obtain ⟨ha, hb⟩ := narrowsTo_ne_boolean hnarrows
      exact serves_of_castTo (fun _ => rfl) (fun _ => Iff.rfl)
        (fun _ hv => hv) (fun _ hv => Value.cast?_of_numeric hv ha hb)

end Conversion

end Refit
