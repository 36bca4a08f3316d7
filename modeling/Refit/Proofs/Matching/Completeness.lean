import Refit.Proofs.Matching.Arrangements
import Refit.Proofs.Matching.Conversion
import Refit.Proofs.Matching.Soundness

/-!
# Every way to call a member

A matcher looks for two kinds of candidates.  Those without a converter may reorder the
parameters; those with one may not, and they count only when there are no others.  What it
lists is all candidates of the one kind or all of the other.
-/

namespace Refit

namespace Conversion

variable {catalog : Catalog} {s t : ValueType} {c : Conversion}

/-- How a value of one type becomes one of another, if need be by a change of shape. -/
def converted? (catalog : Catalog) (s t : ValueType) : Option Conversion :=
  (implicit? catalog s t).or (converter? s t)

/-- How a result becomes the result that is wanted, if need be by a change of shape. -/
def convertedReturn? (catalog : Catalog) (real wanted : ValueType) : Option Conversion :=
  (onReturn? catalog real wanted).or (converter? real wanted)

theorem Implicit.isConverter (h : Implicit catalog s t c) : c.isConverter = false := by
  cases h <;> rfl

theorem OnReturn.isConverter (h : OnReturn catalog s t c) : c.isConverter = false := by
  cases h with
  | implicit himplicit => exact himplicit.isConverter
  | _ => rfl

theorem Converter.isConverter (h : Converter s t c) : c.isConverter = true := by
  cases h <;> rfl

/-- What is no converter has been found before converters were asked for. -/
theorem eq_some_of_or_converter? {first : Option Conversion}
    (hc : first.or (converter? s t) = some c) (hplain : c.isConverter = false) :
    first = some c := by
  rcases Option.or_eq_some_iff.mp hc with hfirst | ⟨-, hconverter⟩
  · exact hfirst
  · rw [(converter_of_converter? hconverter).isConverter] at hplain
    cases hplain

end Conversion

theorem Candidate.isDirect_iff {c : Candidate} :
    c.isDirect = true ↔
      (∀ conversion ∈ c.conversions, conversion.isConverter = false) ∧
        c.returnConversion.isConverter = false := by
  simp [isDirect]

/-- The input at a position becomes a parameter of the type without a converter. -/
def Becomes (catalog : Catalog) (wanted : List ValueType) (slot : ℕ × ValueType)
    (conversion : Conversion) : Prop :=
  ∃ source, wanted[slot.1]? = some source ∧
    Conversion.implicit? catalog source slot.2 = some conversion

namespace Matcher

variable {m : Matcher} {operation : ℕ} {wanted : Operation} {member : Member} {c : Candidate}

/-- The member serves the operation without a converter, in an order that is tried. -/
structure Plain (m : Matcher) (operation : ℕ) (wanted : Operation) (member : Member)
    (c : Candidate) : Prop where
  served : c.operation = operation
  called : c.member = member
  order : Admissible member.arity m.longestReordered c.positions
  conversions : List.Forall₂ (Becomes m.catalog wanted.params)
    (c.positions.zip member.params) c.conversions
  result : Conversion.onReturn? m.catalog member.returnType wanted.returnType =
    some c.returnConversion
  distance : c.distance = .ofFloat (nameDistance wanted.name member.name)

/-- The member serves the operation in the given order, and converters may help. -/
structure Helped (m : Matcher) (operation : ℕ) (wanted : Operation) (member : Member)
    (c : Candidate) : Prop where
  served : c.operation = operation
  called : c.member = member
  order : c.positions = List.range member.arity
  conversions : List.Forall₂
    (fun slot conversion => Conversion.converted? m.catalog slot.1 slot.2 = some conversion)
    (wanted.params.zip member.params) c.conversions
  result : Conversion.convertedReturn? m.catalog member.returnType wanted.returnType =
    some c.returnConversion
  distance : c.distance = .ofFloat (nameDistance wanted.name member.name)

theorem Plain.isDirect (h : m.Plain operation wanted member c) : c.isDirect = true := by
  rw [Candidate.isDirect_iff]
  constructor
  · intro conversion hconversion
    rcases forall₂_mem_right h.conversions hconversion with ⟨_, -, _, -, himplicit⟩
    exact (Conversion.implicit_of_implicit? himplicit).isConverter
  · exact (Conversion.onReturn_of_onReturn? h.result).isConverter

/-- In the given order each input feeds the parameter in its own place. -/
theorem becomes_of_converted {wanted params : List ValueType} {conversions : List Conversion}
    (hlength : wanted.length = params.length)
    (hconverted : List.Forall₂
      (fun slot conversion => Conversion.converted? m.catalog slot.1 slot.2 = some conversion)
      (wanted.zip params) conversions)
    (hplain : ∀ conversion ∈ conversions, conversion.isConverter = false) :
    List.Forall₂ (Becomes m.catalog wanted) ((List.range params.length).zip params)
      conversions := by
  have hcount := hconverted.length_eq
  rw [List.length_zip, hlength, min_self] at hcount
  rw [List.forall₂_iff_get]
  constructor
  · rw [List.length_zip, List.length_range, min_self]
    exact hcount
  · intro i hleft hright
    have hwanted : i < wanted.length := by
      rw [hlength, hcount]
      exact hright
    have hslot : i < (wanted.zip params).length := by
      rw [List.length_zip]
      omega
    have hchosen := hconverted.get hslot hright
    simp only [List.get_eq_getElem, List.getElem_zip, List.getElem_range] at hchosen ⊢
    have hplain_i := hplain _ (List.getElem_mem hright)
    exact ⟨wanted[i], List.getElem?_eq_getElem hwanted,
      Conversion.eq_some_of_or_converter? hchosen hplain_i⟩

/-- Without a converter a candidate in the given order is one without help. -/
theorem Helped.plain_of_isDirect (harity : wanted.arity = member.arity)
    (h : m.Helped operation wanted member c) (hdirect : c.isDirect = true) :
    m.Plain operation wanted member c := by
  rcases Candidate.isDirect_iff.mp hdirect with ⟨hconversions, hresult⟩
  have hbecomes := becomes_of_converted harity h.conversions hconversions
  constructor
  · exact h.served
  · exact h.called
  · rw [h.order]
    exact admissible_range
  · rw [h.order]
    exact hbecomes
  · exact Conversion.eq_some_of_or_converter? h.result hresult
  · exact h.distance

theorem implicitAll?_eq_some_iff {wanted params : List ValueType} {positions : List ℕ}
    {conversions : List Conversion} :
    m.implicitAll? wanted params positions = some conversions ↔
      List.Forall₂ (Becomes m.catalog wanted) (positions.zip params) conversions := by
  unfold implicitAll?
  rw [mapM_eq_some_iff]
  constructor
  · apply List.Forall₂.imp
    intro slot conversion hslot
    dsimp only at hslot
    split at hslot
    · next source hsource => exact ⟨source, hsource, hslot⟩
    · cases hslot
  · apply List.Forall₂.imp
    rintro slot conversion ⟨source, hsource, himplicit⟩
    simp only [hsource]
    exact himplicit

theorem convertedAll?_eq_some_iff {wanted params : List ValueType}
    {conversions : List Conversion} :
    m.convertedAll? wanted params = some conversions ↔
      List.Forall₂
        (fun slot conversion => Conversion.converted? m.catalog slot.1 slot.2 = some conversion)
        (wanted.zip params) conversions :=
  mapM_eq_some_iff

/-- The candidates without a converter, in the order in which they are found. -/
def plainMatches (m : Matcher) (operation : ℕ) (wanted : Operation) (member : Member) :
    List Candidate :=
  match Conversion.onReturn? m.catalog member.returnType wanted.returnType with
  | none => []
  | some result =>
    (orderings member.arity m.longestReordered).filterMap fun positions =>
      (m.implicitAll? wanted.params member.params positions).map fun conversions =>
        { operation, member, positions, conversions, returnConversion := result
          distance := .ofFloat (nameDistance wanted.name member.name) }

/-- The candidate in the given order, with converters where they are needed. -/
def helpedMatch? (m : Matcher) (operation : ℕ) (wanted : Operation) (member : Member) :
    Option Candidate :=
  match Conversion.convertedReturn? m.catalog member.returnType wanted.returnType,
      m.convertedAll? wanted.params member.params with
  | some result, some conversions =>
    some { operation, member, positions := List.range member.arity, conversions
           returnConversion := result
           distance := .ofFloat (nameDistance wanted.name member.name) }
  | _, _ => none

theorem matchMethod_eq (harity : wanted.arity = member.arity) :
    m.matchMethod operation wanted member =
      if (m.plainMatches operation wanted member).isEmpty
      then (m.helpedMatch? operation wanted member).toList
      else m.plainMatches operation wanted member := by
  unfold matchMethod
  rw [if_neg (not_not_intro harity)]
  simp only [matchParams, helpedMatch?, Conversion.convertedReturn?]
  congr 1
  cases (Conversion.onReturn? m.catalog member.returnType wanted.returnType).or
      (Conversion.converter? member.returnType wanted.returnType) with
  | none => rfl
  | some result =>
      cases m.convertedAll? wanted.params member.params with
      | none => rfl
      | some conversions => rfl

theorem mem_plainMatches_iff :
    c ∈ m.plainMatches operation wanted member ↔ m.Plain operation wanted member c := by
  unfold plainMatches
  constructor
  · intro hc
    split at hc
    · cases hc
    · next result hresult =>
      rcases List.mem_filterMap.mp hc with ⟨positions, hpositions, hmap⟩
      rcases Option.map_eq_some_iff.mp hmap with ⟨conversions, hconversions, rfl⟩
      exact ⟨rfl, rfl, mem_orderings_iff.mp hpositions,
        implicitAll?_eq_some_iff.mp hconversions, hresult, rfl⟩
  · rintro ⟨rfl, rfl, horder, hconversions, hresult, hdistance⟩
    simp only [hresult]
    rw [List.mem_filterMap]
    refine ⟨c.positions, mem_orderings_iff.mpr horder, ?_⟩
    rw [implicitAll?_eq_some_iff.mpr hconversions, Option.map_some, ← hdistance]

theorem pairwise_plainMatches :
    ((m.plainMatches operation wanted member).map (·.positions)).Pairwise (· < ·) := by
  unfold plainMatches
  split
  · exact List.Pairwise.nil
  · rw [List.pairwise_map, List.pairwise_filterMap]
    refine pairwise_orderings.imp ?_
    intro a b hlt c hc d hd
    rcases Option.map_eq_some_iff.mp hc with ⟨_, -, rfl⟩
    rcases Option.map_eq_some_iff.mp hd with ⟨_, -, rfl⟩
    exact hlt

theorem helpedMatch?_eq_some_iff :
    m.helpedMatch? operation wanted member = some c ↔ m.Helped operation wanted member c := by
  unfold helpedMatch?
  constructor
  · intro hc
    split at hc
    · next result conversions hresult hconversions =>
      cases hc
      exact ⟨rfl, rfl, rfl, convertedAll?_eq_some_iff.mp hconversions, hresult, rfl⟩
    · cases hc
  · rintro ⟨rfl, rfl, horder, hconversions, hresult, hdistance⟩
    simp only [hresult, convertedAll?_eq_some_iff.mpr hconversions]
    rw [← horder, ← hdistance]

theorem exists_plain_iff {order : List ℕ} :
    (∃ c, m.Plain operation wanted member c ∧ c.positions = order) ↔
      Admissible member.arity m.longestReordered order ∧
        (∀ slot ∈ order.zip member.params, ∃ conversion,
          Becomes m.catalog wanted.params slot conversion) ∧
        ∃ result, Conversion.onReturn? m.catalog member.returnType wanted.returnType =
          some result := by
  rw [← exists_forall₂_iff]
  constructor
  · rintro ⟨c, hc, rfl⟩
    exact ⟨hc.order, ⟨c.conversions, hc.conversions⟩, ⟨c.returnConversion, hc.result⟩⟩
  · rintro ⟨horder, ⟨conversions, hconversions⟩, ⟨result, hresult⟩⟩
    exact ⟨⟨operation, member, order, conversions, result, _⟩,
      ⟨rfl, rfl, horder, hconversions, hresult, rfl⟩, rfl⟩

theorem exists_helped_iff :
    (∃ c, m.Helped operation wanted member c) ↔
      (∀ slot ∈ wanted.params.zip member.params, ∃ conversion,
        Conversion.converted? m.catalog slot.1 slot.2 = some conversion) ∧
        ∃ result, Conversion.convertedReturn? m.catalog member.returnType wanted.returnType =
          some result := by
  rw [← exists_forall₂_iff]
  constructor
  · rintro ⟨c, hc⟩
    exact ⟨⟨c.conversions, hc.conversions⟩, ⟨c.returnConversion, hc.result⟩⟩
  · rintro ⟨⟨conversions, hconversions⟩, ⟨result, hresult⟩⟩
    exact ⟨⟨operation, member, List.range member.arity, conversions, result, _⟩,
      ⟨rfl, rfl, rfl, hconversions, hresult, rfl⟩⟩

/-- A matcher lists every candidate without a converter, in ascending orders of the
positions.  If there are none, it lists the one that converters allow, if they allow one,
and a converter is part of it. -/
theorem matchMethod_complete {found : List Candidate}
    (hfound : m.matchMethod operation wanted member = found) :
    (wanted.arity ≠ member.arity → found = []) ∧
      (wanted.arity = member.arity → (∃ c, m.Plain operation wanted member c) →
        (∀ c, c ∈ found ↔ m.Plain operation wanted member c) ∧
          (found.map (·.positions)).Pairwise (· < ·) ∧ ∀ c ∈ found, c.isDirect = true) ∧
      (wanted.arity = member.arity → (¬ ∃ c, m.Plain operation wanted member c) →
        found.length ≤ 1 ∧ (∀ c, c ∈ found ↔ m.Helped operation wanted member c) ∧
          ∀ c ∈ found, c.isDirect = false) ∧
      (∀ order, (∃ c, m.Plain operation wanted member c ∧ c.positions = order) ↔
        Admissible member.arity m.longestReordered order ∧
          (∀ slot ∈ order.zip member.params, ∃ conversion,
            Becomes m.catalog wanted.params slot conversion) ∧
          ∃ result, Conversion.onReturn? m.catalog member.returnType wanted.returnType =
            some result) ∧
      ((∃ c, m.Helped operation wanted member c) ↔
        (∀ slot ∈ wanted.params.zip member.params, ∃ conversion,
          Conversion.converted? m.catalog slot.1 slot.2 = some conversion) ∧
          ∃ result, Conversion.convertedReturn? m.catalog member.returnType wanted.returnType =
            some result) := by
  subst hfound
  have hnone : (m.plainMatches operation wanted member).isEmpty = true ↔
      ¬ ∃ c, m.Plain operation wanted member c := by
    rw [List.isEmpty_iff, List.eq_nil_iff_forall_not_mem, not_exists]
    exact forall_congr' fun c => not_congr mem_plainMatches_iff
  constructor
  · intro harity
    exact if_pos harity
  constructor
  · intro harity hplain
    have hlisted : m.matchMethod operation wanted member =
        m.plainMatches operation wanted member := by
      rw [matchMethod_eq harity, if_neg fun hempty => hnone.mp hempty hplain]
    rw [hlisted]
    constructor
    · exact fun c => mem_plainMatches_iff
    · constructor
      · exact pairwise_plainMatches
      · intro c hc
        exact (mem_plainMatches_iff.mp hc).isDirect
  constructor
  · intro harity hplain
    have hlisted : m.matchMethod operation wanted member =
        (m.helpedMatch? operation wanted member).toList := by
      rw [matchMethod_eq harity, if_pos (hnone.mpr hplain)]
    have hmem : ∀ c, c ∈ m.matchMethod operation wanted member ↔
        m.Helped operation wanted member c := by
      intro c
      rw [hlisted, Option.mem_toList]
      exact helpedMatch?_eq_some_iff
    constructor
    · rw [hlisted]
      exact Option.length_toList_le
    · constructor
      · exact hmem
      · intro c hc
        by_contra hdirect
        rw [Bool.not_eq_false] at hdirect
        exact hplain ⟨c, ((hmem c).mp hc).plain_of_isDirect harity hdirect⟩
  constructor
  · exact fun order => exists_plain_iff
  · exact exists_helped_iff

end Matcher

namespace Samples

/-- Characters where a text is wanted. -/
def spell : Member :=
  { name := "spell", params := [.array (.primitive .char)], returnType := .boxed .long }

def spellWanted : Operation := ⟨"spell", [.string], .primitive .int⟩

end Samples

open Samples in
theorem Matcher.matchMethod_complete_shapes :
    (∀ c, c ∈ [paintCandidate (.ofFloat (nameDistance "paint" "paint"))] ↔
      shapeMatcher.Plain 0 paintWanted paint c) ∧
      ∃ c ∈ shapeMatcher.matchMethod 0 spellWanted spell, c.isDirect = false := by
  constructor
  · rcases Matcher.matchMethod_complete matchMethod_paint with ⟨-, hplain, -, hexists, -⟩
    have hslots : ∀ slot ∈ List.zip [1, 0] paint.params, ∃ conversion,
        Becomes shapeMatcher.catalog paintWanted.params slot conversion := by
      intro slot hslot
      fin_cases hslot
      · exact ⟨.identity, .named "Square", rfl, by decide⟩
      · exact ⟨.widen .int .long, .boxed .int, rfl, by decide⟩
    rcases (hexists [1, 0]).mpr
      ⟨mem_orderings_iff.mp (by decide), hslots, .narrow .long .int, by decide⟩ with ⟨c, hc, -⟩
    exact (hplain rfl ⟨c, hc⟩).1
  · have hfound : shapeMatcher.matchMethod 0 spellWanted spell =
        shapeMatcher.matchMethod 0 spellWanted spell := rfl
    rcases Matcher.matchMethod_complete hfound with ⟨-, -, hhelped, hexists, hallowed⟩
    have hnone : ¬ ∃ c, shapeMatcher.Plain 0 spellWanted spell c := by
      rintro ⟨c, hc⟩
      rcases (hexists c.positions).mp ⟨c, hc, rfl⟩ with ⟨horder, hslots, -⟩
      have hpositions : c.positions = [0] := horder
      rw [hpositions] at hslots
      rcases hslots _ List.mem_cons_self with ⟨conversion, source, hsource, himplicit⟩
      cases hsource
      cases himplicit
    have hslots : ∀ slot ∈ List.zip spellWanted.params spell.params, ∃ conversion,
        Conversion.converted? shapeMatcher.catalog slot.1 slot.2 = some conversion := by
      intro slot hslot
      fin_cases hslot
      exact ⟨.textToChars, by decide⟩
    rcases hhelped rfl hnone with ⟨-, hlisted, hconverter⟩
    rcases hallowed.mpr ⟨hslots, .narrow .long .int, by decide⟩ with ⟨c, hc⟩
    exact ⟨c, (hlisted c).mpr hc, hconverter c ((hlisted c).mpr hc)⟩

end Refit
