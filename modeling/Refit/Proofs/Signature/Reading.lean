import Refit.Proofs.Signature.Writing
import Refit.Proofs.Text.Trimming

/-!
# Types are read back

A type that has been read is legible: what it is written as is read as the same type.
Type arguments, packages and blanks that were dropped on the way in are not missed.
-/

namespace Refit

namespace Text

/-- No range of the one set meets a range of the other. -/
def Ranges.Apart (rs rs' : Ranges) : Prop :=
  ∀ r ∈ rs, ∀ r' ∈ rs', r.2 < r'.1 ∨ r'.2 < r.1

instance (rs rs' : Ranges) : Decidable (rs.Apart rs') :=
  inferInstanceAs (Decidable (∀ r ∈ rs, ∀ r' ∈ rs', r.2 < r'.1 ∨ r'.2 < r.1))

theorem Ranges.Apart.not_holds
    {rs rs' : Ranges} (hapart : rs.Apart rs') {c : Char} (hc : rs.holds c = true) :
    rs'.holds c = false := by
  rw [Bool.eq_false_iff]
  intro hc'
  obtain ⟨r, hr, hlow, hhigh⟩ := holds_iff.mp hc
  obtain ⟨r', hr', hlow', hhigh'⟩ := holds_iff.mp hc'
  have hmeet := hapart r hr r' hr'
  omega

theorem isBlank_of_isLetterOrNumeral
    {c : Char} (hc : isLetterOrNumeral c = true) : isBlank c = false := by
  have hletters : letterRanges.Apart blankRanges := by decide +kernel
  have hnumerals : numeralRanges.Apart blankRanges := by decide +kernel
  rw [isLetterOrNumeral, Bool.or_eq_true] at hc
  exact hc.elim hletters.not_holds hnumerals.not_holds

end Text

namespace ValueType

/-- What a type may be written with. -/
def isTypeChar (c : Char) : Bool := isNameChar c || c = '[' || c = ']'

theorem isBlank_of_isTypeChar {c : Char} (hc : isTypeChar c = true) :
    Text.isBlank c = false := by
  simp only [isTypeChar, isNameChar, Bool.or_eq_true, decide_eq_true_eq] at hc
  rcases hc with ((((hletter | rfl) | rfl) | rfl) | rfl) | rfl
  · exact Text.isBlank_of_isLetterOrNumeral hletter
  all_goals decide

/-- Its names are made of the right characters and stand for nothing else. -/
def Legible : ValueType → Prop
  | named name =>
    name ≠ "" ∧ name.toList.all isNameChar = true ∧ ofWord? name = none
  | array element => element.Legible
  | _ => True

theorem legible_of_ofWord? {word : String} {t : ValueType} (hword : ofWord? word = some t) :
    t.Legible := by
  unfold ofWord? at hword
  split at hword
  · cases hword
    trivial
  · split at hword
    · cases hword
      trivial
    · split_ifs at hword <;> cases hword <;> trivial

theorem legible_of_ofElement {cs : List Char} {t : ValueType} (hread : ofElement cs = .ok t) :
    t.Legible := by
  unfold ofElement at hread
  generalize (if cs.contains '<' then Text.trim (cs.takeWhile (· ≠ '<')) else cs) = raw
    at hread
  simp only at hread
  split at hread
  · cases hread
  · next hraw =>
    split at hread
    · next t' hword =>
      cases hread
      exact legible_of_ofWord? hword
    · next hword =>
      split at hread
      · next hchars =>
        cases hread
        refine ⟨?_, ?_, hword⟩
        · simpa using hraw
        · rw [String.toList_ofList]
          exact hchars
      · cases hread

theorem legible_of_ofCharsWithin
    {fuel : ℕ} {cs : List Char} {t : ValueType} (hread : ofCharsWithin fuel cs = .ok t) :
    t.Legible := by
  induction fuel generalizing cs t with
  | zero => cases hread
  | succ fuel ih =>
      rw [ofCharsWithin] at hread
      split at hread
      · next element hbrackets =>
        cases helement : ofCharsWithin fuel element with
        | error fault =>
            rw [helement] at hread
            cases hread
        | ok u =>
            rw [helement] at hread
            cases hread
            exact show u.Legible from ih helement
      · exact legible_of_ofElement hread

theorem legible_of_ofChars {cs : List Char} {t : ValueType} (hread : ofChars cs = .ok t) :
    t.Legible :=
  legible_of_ofCharsWithin hread

/-- The characters that part the pieces of an interface. -/
def marks : List Char := ['<', '>', ',', '(', ')', ';', '\n']

theorem withoutBrackets?_eq_none {cs : List Char} (hcs : ']' ∉ cs) :
    withoutBrackets? cs = none := by
  unfold withoutBrackets?
  split
  · next rest hreverse =>
    have hmem : ']' ∈ cs.reverse := by
      rw [hreverse]
      exact List.mem_cons_self
    exact absurd (List.mem_reverse.mp hmem) hcs
  · rfl

namespace Legible

variable {t : ValueType}

theorem text_ne_nil (ht : t.Legible) : t.text.toList ≠ [] := by
  cases t with
  | primitive p => cases p <;> decide
  | boxed p => cases p <;> decide
  | void | string | object | list => decide
  | named name => simpa [text] using ht.1
  | array element => simp [text]

theorem isTypeChar_of_mem_text (ht : t.Legible) {c : Char} (hc : c ∈ t.text.toList) :
    isTypeChar c = true := by
  induction t with
  | primitive p =>
      have hall : p.keyword.toList.all isTypeChar = true := by
        cases p <;> decide
      exact List.all_eq_true.mp hall c hc
  | boxed p =>
      have hall : p.wrapper.toList.all isTypeChar = true := by
        cases p <;> decide
      exact List.all_eq_true.mp hall c hc
  | void | string | object | list =>
      refine List.all_eq_true.mp ?_ c hc
      decide
  | named name =>
      have hname := List.all_eq_true.mp ht.2.1 c hc
      simp [isTypeChar, hname]
  | array element ih =>
      rw [text, String.toList_append, List.mem_append] at hc
      rcases hc with helement | hbracket
      · exact ih ht helement
      · have hall : ∀ c ∈ "[]".toList, isTypeChar c = true := by
          simp [isTypeChar]
        exact hall c hbracket

theorem trimmed_text (ht : t.Legible) : Text.Trimmed t.text.toList :=
  Text.trimmed_of_forall fun _ hc => isBlank_of_isTypeChar (ht.isTypeChar_of_mem_text hc)

/-- Of the characters that part the pieces of an operation a type has none. -/
theorem freeOf_text (ht : t.Legible) : FreeOf marks t.text := by
  have hmarks : marks.all (!isTypeChar ·) = true := by decide +kernel
  intro c hc hmem
  have hmark := List.all_eq_true.mp hmarks c hc
  rw [ht.isTypeChar_of_mem_text hmem] at hmark
  cases hmark

theorem ofWord?_text (ht : t.Legible) (harray : ∀ element, t ≠ array element) :
    ofWord? t.text = t.meant? := by
  cases t with
  | primitive p => cases p <;> decide
  | boxed p => cases p <;> decide
  | void | string | object | list => decide
  | named name => exact ht.2.2
  | array element => exact absurd rfl (harray element)

theorem bracket_notMem_text (ht : t.Legible) (harray : ∀ element, t ≠ array element) :
    ']' ∉ t.text.toList := by
  cases t with
  | primitive p => cases p <;> decide
  | boxed p => cases p <;> decide
  | void | string | object | list => decide
  | named name =>
      have hbracket : isNameChar ']' = false := by decide +kernel
      intro hmem
      rw [List.all_eq_true.mp ht.2.1 _ hmem] at hbracket
      cases hbracket
  | array element => exact absurd rfl (harray element)

theorem ofElement_text (ht : t.Legible) (harray : ∀ element, t ≠ array element) :
    ofElement t.text.toList = .ok t := by
  have hplain : t.text.toList.contains '<' = false := by
    simpa using ht.freeOf_text '<' (by decide)
  have hword := ht.ofWord?_text harray
  unfold ofElement
  simp only [hplain, Bool.false_eq_true, if_false, List.isEmpty_iff, ht.text_ne_nil,
    String.ofList_toList, hword]
  cases hmeant : t.meant? with
  | some u => rw [eq_of_meant?_eq_some hmeant]
  | none =>
      have hnamed := eq_named_of_meant?_eq_none hmeant
      rw [hnamed] at ht
      rw [if_pos ht.2.1, ← hnamed]

theorem ofCharsWithin_text (ht : t.Legible) {fuel : ℕ} (hfuel : t.text.toList.length < fuel) :
    ofCharsWithin fuel t.text.toList = .ok t := by
  induction t generalizing fuel with
  | array element ih =>
      obtain ⟨fuel, rfl⟩ : ∃ n, fuel = n + 1 := ⟨fuel - 1, by omega⟩
      have htext : (array element).text.toList = element.text.toList ++ ['[', ']'] := by
        simp [text]
      have hshorter : element.text.toList.length < fuel := by
        rw [htext, List.length_append] at hfuel
        simp only [List.length_cons, List.length_nil] at hfuel
        omega
      have hbrackets : withoutBrackets? (array element).text.toList =
          some element.text.toList := by
        simp [htext, withoutBrackets?]
      rw [ofCharsWithin]
      simp only [show Text.trim (array element).text.toList = _ from ht.trimmed_text,
        hbrackets, ih (show element.Legible from ht) hshorter]
      rfl
  | primitive | boxed | void | string | object | list | named =>
      obtain ⟨fuel, rfl⟩ : ∃ n, fuel = n + 1 := ⟨fuel - 1, by omega⟩
      have hbrackets := withoutBrackets?_eq_none (ht.bracket_notMem_text (by simp))
      rw [ofCharsWithin]
      simp only [show Text.trim _ = _ from ht.trimmed_text, hbrackets]
      exact ht.ofElement_text (by simp)

theorem ofChars_text (ht : t.Legible) : ofChars t.text.toList = .ok t :=
  ht.ofCharsWithin_text (Nat.lt_succ_self _)

end Legible

end ValueType

end Refit
