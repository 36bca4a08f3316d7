import Refit.Execution.Handle
import Refit.Proofs.Inheritance.Subtyping
import Refit.Proofs.Matching.Candidates

/-!
# Glue is type sound

A candidate was found by looking at types only.  Here its glue is applied to
values: inputs of the types of the operation become arguments of the types of
the member, and results of the member become results of the operation.  Null for
a primitive is the one thing that the glue refuses.
-/

namespace Refit

/-- A parameter of primitive type is fed from an input that is null. -/
def FeedsNull (inputs : List Value) (p : Primitive)
    (positions : List ℕ) (params : List ValueType) : Prop :=
  ∃ position, inputs[position]? = some .null ∧
    (position, .primitive p) ∈ positions.zip params

/-- Each argument is of the type of its parameter. -/
def Arrive (catalog : Catalog) (conversions : List Conversion)
    (args : List Value) (params : List ValueType) : Prop :=
  args.length = params.length ∧
    List.Forall₂ (fun fed t => fed.1.Delivers catalog fed.2 t)
      (conversions.zip args) params

theorem feedsNull_cons
    {inputs : List Value} {p : Primitive} {position : ℕ} {positions : List ℕ}
    {t : ValueType} {params : List ValueType} :
    FeedsNull inputs p (position :: positions) (t :: params) ↔
      (inputs[position]? = some .null ∧ t = .primitive p) ∨
        FeedsNull inputs p positions params := by
  simp only [FeedsNull, List.zip_cons_cons, List.mem_cons, Prod.mk.injEq]
  constructor
  · rintro ⟨other, hnull, ⟨rfl, ht⟩ | hrest⟩
    · exact .inl ⟨hnull, ht.symm⟩
    · exact .inr ⟨other, hnull, hrest⟩
  · rintro (⟨hnull, rfl⟩ | ⟨other, hnull, hrest⟩)
    · exact ⟨position, hnull, .inl ⟨rfl, rfl⟩⟩
    · exact ⟨other, hnull, .inr hrest⟩

theorem Handle.argument_cases
    {catalog : Catalog} {inputs : List Value} {wanted : List ValueType}
    (hinputs : List.Forall₂ (fun v t => v.HasType catalog t) inputs wanted)
    (htrans : catalog.Transitive)
    (h : Handle) {position : ℕ} {conversion : Conversion} {t : ValueType}
    (hfeeds : Feeds catalog wanted (position, conversion) t) :
    (∃ p, inputs[position]? = some .null ∧ t = .primitive p ∧
      h.argument inputs position conversion =
        .error (.nullPointer ("cannot convert null to " ++ p.keyword))) ∨
    ((∀ p, ¬ (inputs[position]? = some .null ∧ t = .primitive p)) ∧
      ∃ w, h.argument inputs position conversion = .ok w ∧
        conversion.Delivers catalog w t) := by
  obtain ⟨s, hs, hrule⟩ := hfeeds
  have hserves : conversion.Serves catalog s t := by
    rcases hrule with himplicit | hconverter
    · exact himplicit.serves htrans
    · exact hconverter.serves
  obtain ⟨v, hv, htype⟩ := forall₂_getElem?_right hinputs hs
  have hargument : h.argument inputs position conversion = conversion.apply v := by
    simp [Handle.argument, hv]
  by_cases hrefused : ∃ p, v = .null ∧ t = .primitive p
  · obtain ⟨p, rfl, rfl⟩ := hrefused
    refine .inl ⟨p, hv, rfl, ?_⟩
    rw [hargument]
    exact hserves.nullToPrimitive p rfl htype
  · obtain ⟨w, hw, hdelivers⟩ := hserves.delivers v htype <| by
      intro hnull
      cases t with
      | primitive p => exact absurd ⟨p, hnull, rfl⟩ hrefused
      | boxed | void | string | object | list | named | array => rfl
    refine .inr ⟨?_, w, hargument.trans hw, hdelivers⟩
    rintro p ⟨hnull, ht⟩
    rw [hv, Option.some.injEq] at hnull
    exact hrefused ⟨p, hnull, ht⟩

theorem Handle.arguments_cases
    {catalog : Catalog} {inputs : List Value} {wanted : List ValueType}
    (hinputs : List.Forall₂ (fun v t => v.HasType catalog t) inputs wanted)
    (htrans : catalog.Transitive)
    (h : Handle) {positions : List ℕ} {conversions : List Conversion}
    {params : List ValueType}
    (hlength : conversions.length = positions.length)
    (hfeeds : List.Forall₂ (Feeds catalog wanted)
      (positions.zip conversions) params) :
    (∃ p, FeedsNull inputs p positions params ∧
      h.arguments inputs (positions.zip conversions) =
        .error (.nullPointer ("cannot convert null to " ++ p.keyword))) ∨
    ((∀ p, ¬ FeedsNull inputs p positions params) ∧
      ∃ args, h.arguments inputs (positions.zip conversions) = .ok args ∧
        Arrive catalog conversions args params) := by
  induction positions generalizing conversions params with
  | nil =>
      cases hfeeds
      exact .inr ⟨by simp [FeedsNull], [], rfl, rfl, by simp⟩
  | cons position positions ih =>
      cases conversions with
      | nil => simp at hlength
      | cons conversion conversions =>
          rw [List.zip_cons_cons] at hfeeds ⊢
          obtain ⟨t, params, hfeed, hrest, rfl⟩ :=
            List.forall₂_cons_left_iff.mp hfeeds
          simp only [feedsNull_cons, Handle.arguments]
          rcases h.argument_cases hinputs htrans hfeed with
            ⟨p, hnull, ht, herror⟩ | ⟨hunrefused, w, hw, hdelivers⟩
          · exact .inl ⟨p, .inl ⟨hnull, ht⟩, by rw [herror]⟩
          rcases ih (by simpa using hlength) hrest with
            ⟨p, hnull, herror⟩ | ⟨hnone, args, hargs, hcount, harrive⟩
          · exact .inl ⟨p, .inr hnull, by rw [hw, herror]⟩
          · refine .inr ⟨?_, w :: args, by rw [hw, hargs], by simp [hcount],
              .cons hdelivers harrive⟩
            rintro p (hhead | htail)
            · exact hunrefused p hhead
            · exact hnone p htail

theorem Candidate.Fits.marshal_cases
    {catalog : Catalog} {inputs : List Value} {wanted : List ValueType}
    {c : Candidate} (hfits : c.Fits catalog wanted)
    (htrans : catalog.Transitive)
    (hinputs : List.Forall₂ (fun v t => v.HasType catalog t) inputs wanted) :
    (∃ p, FeedsNull inputs p c.positions c.member.params ∧
      (Handle.ofCandidate c).marshal inputs =
        .error (.nullPointer ("cannot convert null to " ++ p.keyword))) ∨
    ((∀ p, ¬ FeedsNull inputs p c.positions c.member.params) ∧
      ∃ args, (Handle.ofCandidate c).marshal inputs = .ok args ∧
        Arrive catalog c.conversions args c.member.params) := by
  have hlength : c.conversions.length = c.positions.length := by
    rw [hfits.conversions, hfits.positions.length_eq, List.length_range]
  exact Handle.arguments_cases hinputs htrans (Handle.ofCandidate c) hlength
    hfits.feeds

theorem Returns.serves
    {catalog : Catalog}
    (htrans : catalog.Transitive)
    {real wanted : ValueType} {conversion : Conversion}
    (h : Returns catalog real wanted conversion) :
    conversion.Serves catalog real wanted := by
  rcases h with hreturn | hconverter
  · exact hreturn.serves htrans
  · exact hconverter.serves

/-- Glue over a resolved catalog hands inputs of the right types on as arguments
of the right types, unless null is fed to a primitive, and the result of a
method comes back in the type that is wanted. -/
theorem Matcher.glue_typeSound
    {components resolved : List Component} {m : Matcher}
    (hroot : ∀ c ∈ components, c.name ≠ rootType)
    (hresolved : Resolution.resolveAll components = .ok resolved)
    (hcatalog : m.catalog = ⟨resolved⟩)
    {operation : ℕ} {wanted : Operation} {members : List Member} {c : Candidate}
    (hc : c ∈ m.candidatesFor operation wanted members ∨
      c ∈ m.constructorsFor operation wanted members) :
    (∀ inputs : List Value,
      List.Forall₂ (fun v t => v.HasType m.catalog t) inputs wanted.params →
        ((∃ p, FeedsNull inputs p c.positions c.member.params) →
          ∃ p, FeedsNull inputs p c.positions c.member.params ∧
            (Handle.ofCandidate c).marshal inputs =
              .error (.nullPointer ("cannot convert null to " ++ p.keyword))) ∧
        ((∀ p, ¬ FeedsNull inputs p c.positions c.member.params) →
          ∃ args, (Handle.ofCandidate c).marshal inputs = .ok args ∧
            Arrive m.catalog c.conversions args c.member.params)) ∧
    (c ∈ m.candidatesFor operation wanted members →
      c.returnConversion.Serves m.catalog c.member.returnType
        wanted.returnType) := by
  have htrans : m.catalog.Transitive := by
    intro a b c
    rw [hcatalog]
    exact Catalog.isSubtype_trans hroot hresolved
  have hfits : c.Fits m.catalog wanted.params := by
    rcases hc with hmethod | hconstructor
    · obtain ⟨-, -, -, hfits, -⟩ := mem_candidatesFor hmethod
      exact hfits
    · obtain ⟨-, -, -, hfits, -⟩ := mem_constructorsFor hconstructor
      exact hfits
  constructor
  · intro inputs hinputs
    rcases hfits.marshal_cases htrans hinputs with
      ⟨p, hnull, herror⟩ | ⟨hnone, args, hargs, harrive⟩
    · exact ⟨fun _ => ⟨p, hnull, herror⟩, fun hnone => absurd hnull (hnone p)⟩
    · exact ⟨fun ⟨p, hnull⟩ => absurd hnull (hnone p),
        fun _ => ⟨args, hargs, harrive⟩⟩
  · intro hmethod
    obtain ⟨-, -, -, -, hreturns⟩ := mem_candidatesFor hmethod
    exact hreturns.serves htrans

namespace Samples

/-- A square is a shape. -/
def shapes : List Component :=
  [{ name := "Shape", id := "shape", kind := .interface },
    { name := "Square", id := "square", interfaces := ["Shape"] }]

def shapeMatcher : Matcher :=
  ⟨⟨shapes.map fun c =>
    { c with hierarchy := some (Resolution.resolve shapes c) }⟩, 2⟩

def paint : Member :=
  { name := "paint", params := [.named "Shape", .primitive .long]
    returnType := .boxed .long }

/-- The parameters of `paint` the other way round, with narrower numbers. -/
def paintWanted : Operation :=
  ⟨"paint", [.boxed .int, .named "Square"], .primitive .int⟩

def paintCandidate (distance : Distance) : Candidate :=
  { member := paint, positions := [1, 0]
    conversions := [.identity, .widen .int .long]
    returnConversion := .narrow .long .int, distance }

theorem matchMethod_paint :
    shapeMatcher.matchMethod 0 paintWanted paint =
      [paintCandidate (.ofFloat (nameDistance "paint" "paint"))] := rfl

end Samples

open Samples in
theorem Matcher.glue_typeSound_paint :
    ∃ c ∈ shapeMatcher.candidatesFor 0 paintWanted [paint],
      (∃ p, FeedsNull [.null, .null] p c.positions c.member.params ∧
        (Handle.ofCandidate c).marshal [.null, .null] =
          .error (.nullPointer ("cannot convert null to " ++ p.keyword))) ∧
      (∃ args,
        (Handle.ofCandidate c).marshal [.int 3, .object ⟨0, "Square"⟩] =
            .ok args ∧
          Arrive shapeMatcher.catalog c.conversions args c.member.params) ∧
      c.returnConversion.Serves shapeMatcher.catalog (.boxed .long)
        (.primitive .int) := by
  have hroot : ∀ c ∈ shapes, c.name ≠ rootType := by decide
  have hc : paintCandidate (.ofFloat (nameDistance "paint" "paint")) ∈
      shapeMatcher.candidatesFor 0 paintWanted [paint] := by
    refine List.mem_flatMap.mpr ⟨paint, List.mem_singleton_self paint, ?_⟩
    rw [matchMethod_paint]
    exact List.mem_singleton_self _
  obtain ⟨hmarshal, hreturn⟩ :=
    Matcher.glue_typeSound hroot rfl rfl (.inl hc)
  refine ⟨_, hc, (hmarshal [.null, .null] ?_).1 ⟨.long, 0, rfl, ?_⟩,
    (hmarshal [.int 3, .object ⟨0, "Square"⟩] ?_).2 ?_, hreturn hc⟩
  · exact .cons (.inl rfl) (.cons (.inl rfl) .nil)
  · simp [paintCandidate, paint]
  · exact .cons (.inr rfl) (.cons (.inr ⟨_, rfl, by decide⟩) .nil)
  · rintro p ⟨position, hnull, hposition⟩
    simp [paintCandidate, paint] at hposition
    obtain ⟨rfl, -⟩ := hposition
    simp at hnull

end Refit
