import Mathlib.Tactic
import Refit.Json.Reader
import Refit.Json.Writer

/-!
# Strings are read back

The reader undoes what the writer does to a text between quotes: each character,
escaped or not, is read back as itself, up to the closing quote.
-/

namespace Refit.Json

theorem hexField_four {n : ℕ} (hn : n < 32) :
    Text.hexField 4 n = ['0', '0', Text.hexDigit (n / 16), Text.hexDigit (n % 16)] := by
  unfold Text.hexField
  rw [Text.hexDigits]
  split_ifs with hsmall
  · have hquot : n / 16 = 0 := by omega
    have hrest : n % 16 = n := by omega
    rw [hquot, hrest]
    rfl
  · have hone : n / 16 = 1 := by omega
    rw [hone, Text.hexDigits]
    rfl

theorem hexValue?_hexDigit : ∀ d < 16, hexValue? (Text.hexDigit d) = some d := by
  decide

theorem escapedUnit?_hexField {c : Char} (hc : c.toNat < 32) (rest : List Char) :
    escapedUnit? (Text.hexField 4 c.toNat ++ rest) = some (c, rest) := by
  have hzero : hexValue? '0' = some 0 := by decide
  have hhigh := hexValue?_hexDigit (c.toNat / 16) (by omega)
  have hlow := hexValue?_hexDigit (c.toNat % 16) (by omega)
  have hunit : unit? (Text.hexField 4 c.toNat ++ rest) = some (c.toNat, rest) := by
    have hvalue : ((0 * 16 + 0) * 16 + c.toNat / 16) * 16 + c.toNat % 16 = c.toNat := by
      omega
    rw [hexField_four hc]
    simp only [List.cons_append, List.nil_append, unit?, hzero, hhigh, hlow,
      Option.bind_eq_bind, Option.bind_some, hvalue]
  unfold escapedUnit?
  simp only [hunit, Option.bind_eq_bind, Option.bind_some]
  rw [if_neg (by simp; omega), if_neg (by simp; omega), Char.ofNat_toNat]

theorem string?_escapedChar (fuel : ℕ) (done : List Char) (c : Char) (rest : List Char) :
    string? (fuel + 1) done (escapedChar c ++ rest) = string? fuel (c :: done) rest := by
  unfold escapedChar
  split_ifs with h₁ h₂ h₃ h₄ h₅ h₆ h₇ hcontrol
  · subst h₁
    rfl
  · subst h₂
    rfl
  · subst h₃
    rfl
  · subst h₄
    rfl
  · subst h₅
    rfl
  · subst h₆
    rfl
  · subst h₇
    rfl
  · simp only [List.cons_append, string?, escapedUnit?_hexField hcontrol]
  · have hplain : (decide (c.toNat < 32) || decide (c = '\\')) = false := by
      simp [hcontrol, h₂]
    rw [List.cons_append, List.nil_append, string?.eq_def]
    split <;> simp_all

/-- Between its quotes a text is read back. -/
theorem string?_escaped (cs : List Char) {fuel : ℕ} (hfuel : cs.length < fuel)
    (done rest : List Char) :
    string? fuel done (cs.flatMap escapedChar ++ '"' :: rest) =
      some (String.ofList (done.reverse ++ cs), rest) := by
  induction cs generalizing fuel done with
  | nil =>
      obtain ⟨fuel, rfl⟩ : ∃ n, fuel = n + 1 := ⟨fuel - 1, by simp at hfuel; omega⟩
      rw [List.append_nil]
      rfl
  | cons c cs ih =>
      rw [List.length_cons] at hfuel
      obtain ⟨fuel, rfl⟩ : ∃ n, fuel = n + 1 := ⟨fuel - 1, by omega⟩
      rw [List.flatMap_cons, List.append_assoc, string?_escapedChar,
        ih (by omega) (c :: done), List.reverse_cons, List.append_assoc]
      rfl

theorem length_le_flatMap_escapedChar (cs : List Char) :
    cs.length ≤ (cs.flatMap escapedChar).length := by
  induction cs with
  | nil => rfl
  | cons c cs ih =>
      have hone : 0 < (escapedChar c).length := by
        unfold escapedChar
        split_ifs <;> simp
      rw [List.flatMap_cons, List.length_append, List.length_cons]
      omega

/-- A quoted text is read as this text. -/
theorem parse?_quoted (s : String) : parse? (quoted s) = some (.text s) := by
  have hlist : (quoted s).toList = '"' :: (s.toList.flatMap escapedChar ++ ['"']) := by
    unfold quoted quotedChars
    rw [String.toList_ofList, List.cons_append]
  have hlength := length_le_flatMap_escapedChar s.toList
  have hstring : ∀ fuel, s.toList.length < fuel →
      string? fuel [] (s.toList.flatMap escapedChar ++ ['"']) = some (s, []) := by
    intro fuel hfuel
    rw [string?_escaped s.toList hfuel [] [], List.reverse_nil, List.nil_append,
      String.ofList_toList]
  have hvalue : ∀ fuel, s.toList.length < fuel →
      value? (fuel + 1) depthLimit
        ('"' :: (s.toList.flatMap escapedChar ++ ['"'])) = some (.text s, []) := by
    intro fuel hfuel
    have hspace : skipSpace ('"' :: (s.toList.flatMap escapedChar ++ ['"'])) =
        '"' :: (s.toList.flatMap escapedChar ++ ['"']) := rfl
    simp only [value?, hspace, hstring fuel hfuel, Option.map_some]
  unfold parse? parseRaw?
  simp only [hlist, List.length_cons, List.length_append, List.length_nil]
  rw [hvalue _ (by omega)]
  rfl

end Refit.Json
