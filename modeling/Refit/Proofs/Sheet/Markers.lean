import Refit.Proofs.Decimal.Characters
import Refit.Proofs.Json.Compact
import Refit.Proofs.Trial.Agreement
import Refit.Samples.Echo

/-!
# Texts among the markers of cells

References, faults, objects, characters and what is no number are written as strings, as
texts are.  A text stands between single quotes at the top of a cell, and no marker
begins with one, so no text is taken for a marker, nor a marker for a text.
-/

namespace Refit

namespace Json

theorem quoted_inj {s t : String} (h : quoted s = quoted t) : s = t := by
  have hs := parse?_quoted s
  rw [h, parse?_quoted t] at hs
  cases hs
  rfl

/-- Only a text is written with a quote in front. -/
theorem compact_eq_quoted_iff {j : Json} {t : String} : j.compact = quoted t ↔ j = .text t := by
  constructor
  · intro heq
    have hquote : '"' ∈ j.compact.toList.head? := by
      rw [heq, quoted, quotedChars, String.toList_ofList]
      rfl
    have hnumber : ¬ ∀ c ∈ j.compact.toList, Decimal.IsNumberChar c := by
      intro hchars
      exact absurd (hchars '"' (List.mem_of_mem_head? hquote)) (by decide)
    cases j with
    | text s =>
        rw [compact] at heq
        rw [quoted_inj heq]
    | null =>
        rw [compact] at hquote
        exact absurd hquote (by decide)
    | bool b =>
        rw [compact] at hquote
        cases b <;> exact absurd hquote (by decide)
    | int n =>
        rw [compact] at hnumber
        exact absurd (Decimal.numberChars_toString n) hnumber
    | real x =>
        rw [compact] at hnumber
        exact absurd (Decimal.numberChars_write _ x) hnumber
    | list items =>
        rw [toList_compact_list] at hquote
        cases hquote
    | record fields =>
        rw [toList_compact_record] at hquote
        cases hquote
  · intro heq
    rw [heq, compact]

end Json

namespace CellText

variable {e : Encoder} {s t : String} {v : Value} {f : Fault}

/-- A text as it stands at the top of a cell. -/
def singleQuoted (s : String) : String := "'" ++ s ++ "'"

theorem toList_singleQuoted (s : String) :
    (singleQuoted s).toList = '\'' :: (s.toList ++ ['\'']) := by
  unfold singleQuoted
  rw [String.toList_append, String.toList_append]
  rfl

theorem singleQuoted_inj (h : singleQuoted s = singleQuoted t) : s = t := by
  have hlist := congrArg String.toList h
  rw [toList_singleQuoted, toList_singleQuoted, List.cons.injEq] at hlist
  exact String.toList_inj.mp (List.append_cancel_right hlist.2)

theorem head?_singleQuoted (s : String) : (singleQuoted s).toList.head? = some '\'' := by
  rw [toList_singleQuoted, List.head?_cons]

theorem ofText_inj (h : ofText s = ofText t) : s = t := Json.quoted_inj h

/-- What the message of a fault is written as. -/
def faultText (f : Fault) : String := faultStart ++ f.kind ++ "@" ++ f.message.getD "null"

theorem toList_faultText (f : Fault) :
    ∃ rest, (faultText f).toList = '$' :: 'E' :: rest := by
  unfold faultText
  rw [String.toList_append, String.toList_append, String.toList_append]
  exact ⟨_, rfl⟩

theorem singleQuoted_ne_faultText (s : String) (f : Fault) : singleQuoted s ≠ faultText f := by
  intro heq
  rcases toList_faultText f with ⟨rest, hrest⟩
  have hhead := head?_singleQuoted s
  rw [heq, hrest] at hhead
  cases hhead

namespace Encoder

/-- The host gives no view of any object. -/
def Blind (e : Encoder) : Prop := ∀ i, e.host.snapshot e.heap i = none

theorem value_text (e : Encoder) (s : String) :
    e.value (.text s) = ofText (singleQuoted s) := by
  unfold value json
  rw [Json.compact]
  rfl

theorem value_eq_ofText_iff : e.value v = ofText t ↔ e.json true v = .text t :=
  Json.compact_eq_quoted_iff

/-- The texts that are written for other values than texts. -/
inductive Marker : String → Prop
  | char (c : Char) : Marker (String.singleton c)
  | number {t : String} (hchars : ∀ c ∈ t.toList, Decimal.IsNumberChar c) : Marker t
  | reference (typeName : String) (row : ℕ) : Marker (reference typeName row)
  | object : Marker instanceMarker

theorem json_real_eq_text {x : Float} (h : real x = .text t) : Marker t := by
  unfold real at h
  split at h
  · cases h
  · cases h
    exact .number (Decimal.numberChars_write _ x)

theorem json_eq_text (hblind : e.Blind) (h : e.json true v = .text t) :
    (∃ s, v = .text s ∧ t = singleQuoted s) ∨ Marker t := by
  unfold json at h
  cases v with
  | text s =>
      cases h
      exact .inl ⟨s, rfl, rfl⟩
  | char c =>
      cases h
      exact .inr (.char c)
  | float x => exact .inr (json_real_eq_text h)
  | double x => exact .inr (json_real_eq_text h)
  | object i =>
      right
      simp only at h
      unfold object at h
      split at h
      · cases h
        exact .reference i.typeName _
      · rw [hblind i] at h
        cases h
        exact .object
  | null | void | bool | byte | short | int | long | array | list => cases h

theorem Marker.ne_singleQuoted (h : Marker t) (s : String) : t ≠ singleQuoted s := by
  intro heq
  have hhead := head?_singleQuoted s
  cases h with
  | char c =>
      have hlist := toList_singleQuoted s
      rw [← heq, String.toList_singleton] at hlist
      simp at hlist
  | number hchars =>
      rw [← heq] at hhead
      exact absurd (hchars _ (List.mem_of_mem_head? hhead)) (by decide)
  | reference typeName row =>
      rw [← heq, toList_reference] at hhead
      cases hhead
  | object =>
      rw [← heq] at hhead
      exact absurd hhead (by decide)

theorem Marker.ne_faultText (h : Marker t) (f : Fault) : t ≠ faultText f := by
  intro heq
  rcases toList_faultText f with ⟨rest, hrest⟩
  rw [← heq] at hrest
  cases h with
  | char c =>
      rw [String.toList_singleton] at hrest
      cases hrest
  | number hchars =>
      exact absurd (hchars '$' (by rw [hrest]; exact List.mem_cons_self)) (by decide)
  | reference typeName row =>
      rw [toList_reference] at hrest
      simp [referenceStart] at hrest
  | object => exact absurd hrest (by simp [instanceMarker])

theorem value_ne_ofFault (hblind : e.Blind) (v : Value) (f : Fault) :
    e.value v ≠ ofFault f := by
  intro heq
  have hjson : e.json true v = .text (faultText f) := value_eq_ofText_iff.mp heq
  rcases json_eq_text hblind hjson with ⟨s, -, hs⟩ | hmarker
  · exact singleQuoted_ne_faultText s f hs.symm
  · exact hmarker.ne_faultText f rfl

theorem value_eq_value_text_iff (hblind : e.Blind) :
    e.value v = e.value (.text s) ↔ v = .text s := by
  constructor
  · intro heq
    rw [value_text] at heq
    rcases json_eq_text hblind (value_eq_ofText_iff.mp heq) with ⟨s', rfl, hs⟩ | hmarker
    · rw [singleQuoted_inj hs]
    · exact absurd rfl (hmarker.ne_singleQuoted s)
  · intro heq
    rw [heq]

theorem not_isPrefixOf_singleQuoted (s : String) :
    referenceStart.toList.isPrefixOf (singleQuoted s).toList = false := by
  rw [toList_singleQuoted]
  rfl

end Encoder

end CellText

open CellText CellText.Encoder in
/-- A text's cell is written for no other value, for no other text and for no fault.  It is
no reference, and its normal form is the cell itself and no marker.  Faults have cells of
their own. -/
theorem text_cells_unmistakable (e : Encoder) (hblind : e.Blind) :
    (∀ s s' : String, e.value (.text s) = e.value (.text s') ↔ s = s') ∧
    (∀ (s : String) (output : Except Fault Value),
      e.output output = e.value (.text s) ↔ output = .ok (.text s)) ∧
    (∀ s, parseReference? (e.value (.text s)) = none) ∧
    (∀ s, Similarity.plainCell (e.value (.text s)) = e.value (.text s) ∧
      Similarity.plainCell (e.value (.text s)) ≠ Similarity.instanceCell ∧
      Similarity.plainCell (e.value (.text s)) ≠ Similarity.missingCell) ∧
    ∀ (f : Fault) (v : Value), e.output (.error f) ≠ e.output (.ok v) := by
  refine ⟨?_, ?_, ?_, ?_, ?_⟩
  · intro s s'
    rw [value_eq_value_text_iff hblind, Value.text.injEq]
  · intro s output
    cases output with
    | ok v =>
        rw [Except.ok.injEq]
        exact value_eq_value_text_iff hblind
    | error f =>
        constructor
        · intro heq
          exact absurd heq.symm (value_ne_ofFault hblind (.text s) f)
        · nofun
  · intro s
    rw [value_text]
    unfold parseReference? ofText
    simp only [Json.parse?_quoted, not_isPrefixOf_singleQuoted]
    rfl
  · intro s
    have hplain : Similarity.plainCell (e.value (.text s)) = e.value (.text s) := by
      rw [value_text]
      unfold Similarity.plainCell
      rw [Similarity.trim_ofText]
      unfold ofText
      simp only [Json.parse?_quoted, not_isPrefixOf_singleQuoted]
      rfl
    have hmarker : ∀ marker : String, marker.toList.head? ≠ some '\'' →
        e.value (.text s) ≠ ofText marker := by
      intro marker hhead heq
      rw [value_text] at heq
      rw [← ofText_inj heq] at hhead
      exact hhead (head?_singleQuoted s)
    rw [hplain]
    exact ⟨rfl, hmarker instanceMarker (by decide), hmarker missingMarker (by decide)⟩
  · intro f v heq
    exact value_ne_ofFault hblind v f heq.symm

namespace Samples

/-- The first step made a stand-in. -/
def echoEncoder : CellText.Encoder := ⟨[(1, 0)], (echoHost .args).host, {}⟩

theorem echoEncoder_blind : echoEncoder.Blind := fun _ => rfl

end Samples

open Samples in
/-- A text that spells a reference has a cell of its own. -/
theorem text_cells_unmistakable_forged :
    echoEncoder.Blind ∧
      CellText.parseReference? (echoEncoder.value (.object ⟨1, "Echo"⟩)) = some ("Echo", 0) ∧
      CellText.parseReference? (echoEncoder.value (.text "$CUT@Echo@0")) = none ∧
      echoEncoder.value (.object ⟨1, "Echo"⟩) ≠ echoEncoder.value (.text "$CUT@Echo@0") := by
  have hcells := text_cells_unmistakable echoEncoder echoEncoder_blind
  have hreference : echoEncoder.value (.object ⟨1, "Echo"⟩) =
      CellText.ofText (CellText.reference "Echo" 0) := rfl
  refine ⟨echoEncoder_blind, ?_, hcells.2.2.1 _, ?_⟩
  · rw [hreference]
    exact CellText.parseReference?_reference "Echo" (by norm_num)
  · intro heq
    have houtput := (hcells.2.1 "$CUT@Echo@0" (.ok (.object ⟨1, "Echo"⟩))).mp heq
    cases houtput

end Refit
