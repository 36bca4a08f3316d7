import Mathlib.Tactic
import Refit.Text.Blank

/-!
# Blanks around a text

A text without blanks at its ends is what trimming leaves of it, whatever blanks
are put around it.
-/

namespace Refit.Text

/-- There are no blanks at either end. -/
def Trimmed (cs : List Char) : Prop := trim cs = cs

theorem trimmed_trim (cs : List Char) : Trimmed (trim cs) := trim_trim cs

theorem trimEnd_eq_self
    {cs : List Char} (hlast : ∀ c, cs.getLast? = some c → isBlank c = false) :
    trimEnd cs = cs := by
  have hreversed : trimStart cs.reverse = cs.reverse := by
    apply trimStart_eq_self
    intro c hc
    rw [List.head?_reverse] at hc
    exact hlast c hc
  unfold trimStart at hreversed
  rw [trimEnd, hreversed, List.reverse_reverse]

theorem trimmed_of_ends
    {cs : List Char} (hhead : ∀ c, cs.head? = some c → isBlank c = false)
    (hlast : ∀ c, cs.getLast? = some c → isBlank c = false) : Trimmed cs := by
  rw [Trimmed, trim, trimStart_eq_self hhead, trimEnd_eq_self hlast]

theorem trimmed_of_forall
    {cs : List Char} (hcs : ∀ c ∈ cs, isBlank c = false) : Trimmed cs :=
  trimmed_of_ends (fun c hc => hcs c (List.mem_of_head? hc))
    fun c hc => hcs c (List.mem_of_getLast? hc)

theorem trimEnd_append_blanks
    {after : List Char} (hafter : ∀ c ∈ after, isBlank c = true) (cs : List Char) :
    trimEnd (cs ++ after) = trimEnd cs := by
  rw [trimEnd, List.reverse_append, List.dropWhile_append_of_pos]
  · rfl
  · intro c hc
    exact hafter c (List.mem_reverse.mp hc)

theorem mem_of_mem_trim {cs : List Char} {c : Char} (hc : c ∈ trim cs) : c ∈ cs :=
  (List.dropWhile_suffix isBlank).subset ((trimEnd_isPrefix _).subset hc)

namespace Trimmed

variable {cs : List Char}

theorem head_not_blank (h : Trimmed cs) {c : Char} (hc : cs.head? = some c) :
    isBlank c = false := by
  have hstart : trimStart cs = cs := by
    rw [Trimmed] at h
    rw [← h, trimStart_trim]
  rw [← hstart] at hc
  exact head?_trimStart hc

theorem last_not_blank (h : Trimmed cs) {c : Char} (hc : cs.getLast? = some c) :
    isBlank c = false := by
  rw [Trimmed, trim, trimEnd] at h
  rw [← h, List.getLast?_reverse] at hc
  have hkept := List.head?_dropWhile_not isBlank (trimStart cs).reverse
  rw [hc] at hkept
  exact hkept

theorem trimStart_append (h : Trimmed cs) (hcs : cs ≠ []) (after : List Char) :
    trimStart (cs ++ after) = cs ++ after := by
  apply trimStart_eq_self
  intro c hc
  rw [List.head?_append_of_ne_nil cs hcs] at hc
  exact h.head_not_blank hc

/-- Blanks around a trimmed text are trimmed away. -/
theorem trim_padded
    (h : Trimmed cs) {before after : List Char}
    (hbefore : ∀ c ∈ before, isBlank c = true)
    (hafter : ∀ c ∈ after, isBlank c = true) : trim (before ++ (cs ++ after)) = cs := by
  have hstart : trimStart (before ++ (cs ++ after)) = trimStart (cs ++ after) :=
    List.dropWhile_append_of_pos hbefore
  rw [trim, hstart]
  by_cases hcs : cs = []
  · subst hcs
    have hblank : trimStart (after ++ []) = trimStart [] :=
      List.dropWhile_append_of_pos hafter
    rw [List.append_nil] at hblank
    rw [List.nil_append, hblank]
    rfl
  · rw [h.trimStart_append hcs, trimEnd_append_blanks hafter,
      trimEnd_eq_self fun c => h.last_not_blank]

end Trimmed

end Refit.Text
