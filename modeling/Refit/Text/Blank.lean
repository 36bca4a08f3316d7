import Refit.Text.Ranges

/-!
# Blanks

White space, and texts without it at their ends.  Main statement: trimming twice is trimming once.
-/

namespace Refit.Text

/-- The code points with the property White_Space. -/
def blankRanges : Ranges := [
    (0x9, 0xd), (0x20, 0x20), (0x85, 0x85), (0xa0, 0xa0), (0x1680, 0x1680), (0x2000, 0x200a),
    (0x2028, 0x2029), (0x202f, 0x202f), (0x205f, 0x205f), (0x3000, 0x3000)]

def isBlank (c : Char) : Bool := blankRanges.holds c

def trimStart (cs : List Char) : List Char := cs.dropWhile isBlank

def trimEnd (cs : List Char) : List Char := (cs.reverse.dropWhile isBlank).reverse

/-- The text without the blanks at both of its ends. -/
def trim (cs : List Char) : List Char := trimEnd (trimStart cs)

theorem head?_trimStart {cs : List Char} {c : Char} (h : (trimStart cs).head? = some c) :
    isBlank c = false := by
  have := List.head?_dropWhile_not isBlank cs
  rw [← trimStart, h] at this
  exact this

theorem trimStart_eq_self {cs : List Char} (h : ∀ c, cs.head? = some c → isBlank c = false) :
    trimStart cs = cs := by
  cases cs with
  | nil => rfl
  | cons c rest => simp [trimStart, h c rfl]

theorem trimEnd_isPrefix (cs : List Char) : trimEnd cs <+: cs := by
  rw [trimEnd, ← List.reverse_suffix, List.reverse_reverse]
  exact List.dropWhile_suffix isBlank

theorem trimEnd_trimEnd (cs : List Char) : trimEnd (trimEnd cs) = trimEnd cs := by
  have h := trimStart_eq_self fun c => @head?_trimStart cs.reverse c
  rw [trimStart, trimStart] at h
  rw [trimEnd, trimEnd, List.reverse_reverse, h]

theorem trimStart_trim (cs : List Char) : trimStart (trim cs) = trim cs := by
  refine trimStart_eq_self fun c hc => @head?_trimStart cs c ?_
  obtain ⟨rest, h⟩ := trimEnd_isPrefix (trimStart cs)
  rw [← h, List.head?_append, ← trim, hc, Option.some_or]

theorem trim_trim (cs : List Char) : trim (trim cs) = trim cs := by
  rw [trim, trimStart_trim, trim, trimEnd_trimEnd]

end Refit.Text
