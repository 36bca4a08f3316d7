import Refit.Matching.Matcher
import Refit.Proofs.Matching.Arrangements
import Refit.Proofs.Matching.Conversion
import Refit.Proofs.Traversal

/-!
# What a matcher finds

A candidate feeds every parameter of its member from one input of the operation,
every input is used once, and each conversion follows from the rules for the two
types.  This holds of every candidate that a matcher finds, with reordered
parameters or in the given order, for methods and for constructors.
-/

namespace Refit

/-- The input at a position becomes a parameter of the type by the rules. -/
def Feeds (catalog : Catalog) (wanted : List ValueType)
    (feed : ℕ × Conversion) (t : ValueType) : Prop :=
  ∃ s, wanted[feed.1]? = some s ∧
    (Conversion.Implicit catalog s t feed.2 ∨ Conversion.Converter s t feed.2)

/-- A result may be handed back by a rule for results or by a converter. -/
def Returns (catalog : Catalog) (real wanted : ValueType) (c : Conversion) : Prop :=
  Conversion.OnReturn catalog real wanted c ∨ Conversion.Converter real wanted c

/-- The glue of a candidate fits an operation with these parameters. -/
structure Candidate.Fits (catalog : Catalog) (wanted : List ValueType)
    (c : Candidate) : Prop where
  arity : c.member.arity = wanted.length
  positions : c.positions.Perm (List.range wanted.length)
  conversions : c.conversions.length = wanted.length
  feeds : List.Forall₂ (Feeds catalog wanted)
    (c.positions.zip c.conversions) c.member.params

theorem Candidate.Fits.position_lt
    {catalog : Catalog} {wanted : List ValueType} {c : Candidate}
    (hfits : c.Fits catalog wanted) {position : ℕ}
    (hposition : position ∈ c.positions) : position < wanted.length :=
  List.mem_range.mp (hfits.positions.mem_iff.mp hposition)

namespace Matcher

variable {m : Matcher}

theorem forall₂_of_implicitAll?
    {wanted params : List ValueType} {positions : List ℕ}
    {conversions : List Conversion}
    (hlength : positions.length = params.length)
    (hall : m.implicitAll? wanted params positions = some conversions) :
    conversions.length = params.length ∧
      List.Forall₂ (Feeds m.catalog wanted) (positions.zip conversions) params := by
  have hpaired := forall₂_of_mapM_eq_some hall
  clear hall
  induction positions generalizing params conversions with
  | nil =>
      cases params with
      | nil => cases hpaired; exact ⟨rfl, .nil⟩
      | cons => simp at hlength
  | cons position positions ih =>
      cases params with
      | nil => simp at hlength
      | cons t params =>
          rw [List.zip_cons_cons] at hpaired
          obtain ⟨conversion, rest, hconversion, hrest, rfl⟩ :=
            List.forall₂_cons_left_iff.mp hpaired
          obtain ⟨hcount, hfeeds⟩ := ih (by simpa using hlength) hrest
          refine ⟨by simp [hcount], .cons ?_ hfeeds⟩
          dsimp only at hconversion
          split at hconversion
          · next s hs =>
            exact ⟨s, hs, .inl (Conversion.implicit_of_implicit? hconversion)⟩
          · cases hconversion

theorem forall₂_of_convertedAll?
    {wanted params : List ValueType} {conversions : List Conversion}
    (hlength : wanted.length = params.length)
    (hall : m.convertedAll? wanted params = some conversions) :
    conversions.length = params.length ∧
      List.Forall₂ (Feeds m.catalog wanted)
        ((List.range params.length).zip conversions) params := by
  have hpaired := forall₂_of_mapM_eq_some hall
  have hcount : conversions.length = params.length := by
    rw [← hpaired.length_eq, List.length_zip]
    omega
  refine ⟨hcount, List.forall₂_iff_get.mpr ⟨by simp [hcount], ?_⟩⟩
  intro i hleft hright
  have hparams : i < params.length := by simpa using hright
  have hwanted : i < wanted.length := by omega
  have hzip : (wanted.zip params)[i]? = some (wanted[i], params[i]) := by
    rw [List.getElem?_eq_getElem (by rw [List.length_zip]; omega),
      List.getElem_zip]
  obtain ⟨conversion, hconversion, hchosen⟩ :=
    forall₂_getElem?_left hpaired hzip
  obtain ⟨hi, rfl⟩ := List.getElem?_eq_some_iff.mp hconversion
  simp only [List.get_eq_getElem, List.getElem_zip, List.getElem_range]
  refine ⟨wanted[i], List.getElem?_eq_getElem hwanted, ?_⟩
  rw [Option.or_eq_some_iff] at hchosen
  rcases hchosen with himplicit | ⟨-, hconverter⟩
  · exact .inl (Conversion.implicit_of_implicit? himplicit)
  · exact .inr (Conversion.converter_of_converter? hconverter)

theorem fits_of_convertedAll?
    {operation : ℕ} {wanted : Operation} {member : Member}
    {result : Conversion} {distance : Distance} {conversions : List Conversion}
    (harity : wanted.arity = member.arity)
    (hall : m.convertedAll? wanted.params member.params = some conversions) :
    Candidate.Fits m.catalog wanted.params
      ⟨operation, member, List.range member.arity, conversions, result, distance⟩ := by
  have hlength : wanted.params.length = member.params.length := harity
  obtain ⟨hcount, hfeeds⟩ := forall₂_of_convertedAll? hlength hall
  refine ⟨hlength.symm, ?_, by rw [hcount, hlength], hfeeds⟩
  rw [hlength]
  exact List.Perm.refl _

theorem fits_of_implicitAll?
    {operation : ℕ} {wanted : Operation} {member : Member}
    {result : Conversion} {distance : Distance} {positions : List ℕ}
    {conversions : List Conversion}
    (harity : wanted.arity = member.arity)
    (hpositions : positions ∈ orderings member.arity m.longestReordered)
    (hall : m.implicitAll? wanted.params member.params positions =
      some conversions) :
    Candidate.Fits m.catalog wanted.params
      ⟨operation, member, positions, conversions, result, distance⟩ := by
  have hlength : wanted.params.length = member.params.length := harity
  have hperm := (mem_orderings_iff.mp hpositions).perm
  have hcount : positions.length = member.params.length := by
    rw [hperm.length_eq, List.length_range]
    rfl
  obtain ⟨hconversions, hfeeds⟩ := forall₂_of_implicitAll? hcount hall
  refine ⟨hlength.symm, ?_, by rw [hconversions, hlength], hfeeds⟩
  rw [hlength]
  exact hperm

theorem mem_matchParams_none
    {operation : ℕ} {wanted : Operation} {member : Member}
    {convertedReturn : Option Conversion} {distance : Distance}
    (harity : wanted.arity = member.arity) {c : Candidate}
    (hc : c ∈ m.matchParams operation wanted member none convertedReturn distance) :
    c.operation = operation ∧ c.member = member ∧
      c.Fits m.catalog wanted.params ∧ convertedReturn = some c.returnConversion := by
  unfold matchParams at hc
  simp only [List.isEmpty_nil, if_true] at hc
  cases hreturn : convertedReturn with
  | none => simp [hreturn] at hc
  | some result =>
      cases hall : m.convertedAll? wanted.params member.params with
      | none => simp [hreturn, hall] at hc
      | some conversions =>
          simp only [hreturn, hall, List.mem_singleton] at hc
          subst hc
          exact ⟨rfl, rfl, fits_of_convertedAll? harity hall, rfl⟩

theorem mem_matchParams
    {operation : ℕ} {wanted : Operation} {member : Member}
    {implicitReturn convertedReturn : Option Conversion} {distance : Distance}
    (harity : wanted.arity = member.arity) {c : Candidate}
    (hc : c ∈ m.matchParams operation wanted member implicitReturn
      convertedReturn distance) :
    c.operation = operation ∧ c.member = member ∧
      c.Fits m.catalog wanted.params ∧
        (implicitReturn = some c.returnConversion ∨
          convertedReturn = some c.returnConversion) := by
  cases implicitReturn with
  | none =>
      obtain ⟨hoperation, hmember, hfits, hreturn⟩ := mem_matchParams_none harity hc
      exact ⟨hoperation, hmember, hfits, .inr hreturn⟩
  | some result =>
      by_cases hnone : ((orderings member.arity m.longestReordered).filterMap
          fun positions =>
            (m.implicitAll? wanted.params member.params positions).map
              fun conversions =>
                (⟨operation, member, positions, conversions, result, distance⟩ :
                  Candidate)).isEmpty = true
      · have hhelped : c ∈ m.matchParams operation wanted member none
            convertedReturn distance := by
          unfold matchParams at hc
          simp only at hc
          rw [if_pos hnone] at hc
          exact hc
        obtain ⟨hoperation, hmember, hfits, hreturn⟩ :=
          mem_matchParams_none harity hhelped
        exact ⟨hoperation, hmember, hfits, .inr hreturn⟩
      · unfold matchParams at hc
        simp only at hc
        rw [if_neg hnone] at hc
        simp only [List.mem_filterMap, Option.map_eq_some_iff] at hc
        obtain ⟨positions, hpositions, conversions, hall, rfl⟩ := hc
        exact ⟨rfl, rfl, fits_of_implicitAll? harity hpositions hall, .inl rfl⟩

theorem mem_candidatesFor
    {operation : ℕ} {wanted : Operation} {members : List Member} {c : Candidate}
    (hc : c ∈ m.candidatesFor operation wanted members) :
    c.operation = operation ∧ c.member ∈ members ∧
      c.member.isConstructor = false ∧ c.Fits m.catalog wanted.params ∧
        Returns m.catalog c.member.returnType wanted.returnType
          c.returnConversion := by
  simp only [candidatesFor, List.mem_flatMap, List.mem_filter,
    Bool.not_eq_true'] at hc
  obtain ⟨member, ⟨hmember, hmethod⟩, hc⟩ := hc
  unfold matchMethod at hc
  split at hc
  · simp at hc
  · next harity =>
    obtain ⟨hoperation, rfl, hfits, hreturn⟩ :=
      mem_matchParams (by simpa using harity) hc
    refine ⟨hoperation, hmember, hmethod, hfits, ?_⟩
    rw [Option.or_eq_some_iff] at hreturn
    rcases hreturn with hplain | hplain | ⟨-, hconverter⟩
    · exact .inl (Conversion.onReturn_of_onReturn? hplain)
    · exact .inl (Conversion.onReturn_of_onReturn? hplain)
    · exact .inr (Conversion.converter_of_converter? hconverter)

theorem mem_constructorsFor
    {operation : ℕ} {wanted : Operation} {members : List Member} {c : Candidate}
    (hc : c ∈ m.constructorsFor operation wanted members) :
    c.operation = operation ∧ c.member ∈ members ∧
      c.member.isConstructor = true ∧ c.Fits m.catalog wanted.params ∧
        c.returnConversion = .identity := by
  simp only [constructorsFor, List.mem_flatMap, List.mem_filter] at hc
  obtain ⟨member, ⟨hmember, hconstructor⟩, hc⟩ := hc
  unfold matchConstructor at hc
  split at hc
  · simp at hc
  · next harity =>
    obtain ⟨hoperation, rfl, hfits, hreturn⟩ :=
      mem_matchParams (by simpa using harity) hc
    refine ⟨hoperation, hmember, hconstructor, hfits, ?_⟩
    simpa [eq_comm] using hreturn

end Matcher

end Refit
