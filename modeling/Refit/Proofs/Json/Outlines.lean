import Mathlib.Data.List.DropRight
import Refit.Json.Outline
import Refit.Proofs.Json.Quoting

/-!
# Written values are read back

Texts, whole numbers that fit 64 bits, lists and records of those are read back from their
indented form, through an outline that names every field.  What stands around a value in
such a text tells where the value ends: nothing, a comma or a new line.
-/

namespace Refit.Json

section Numbers

theorem toDigits_eq_cons_zero {n : ℕ} {digits : List Char}
    (hdigits : Nat.toDigits 10 n = '0' :: digits) : digits = [] := by
  induction n using Nat.strong_induction_on generalizing digits with
  | _ n ih =>
      rw [Nat.toDigits_eq_if (by norm_num)] at hdigits
      split_ifs at hdigits with hsmall
      · exact (List.cons.inj hdigits).2.symm
      · cases hinit : Nat.toDigits 10 (n / 10) with
        | nil => exact absurd hinit Nat.toDigits_ne_nil
        | cons c init =>
            rw [hinit, List.cons_append, List.cons.injEq] at hdigits
            obtain ⟨rfl, -⟩ := hdigits
            have hvalue := Nat.ofDigitChars_ten_toDigits (n := n / 10)
            rw [hinit, ih (n / 10) (by omega) hinit] at hvalue
            have hzero : Nat.ofDigitChars 10 ['0'] 0 = 0 := by decide
            omega

theorem le_foldl_digits (digits : List Char) (room : ℕ) :
    room ≤ digits.foldl (fun n c => n * 10 + digitValue c) room := by
  induction digits generalizing room with
  | nil => exact le_rfl
  | cons c digits ih => exact le_trans (by omega) (ih (room * 10 + digitValue c))

theorem significand_append {digits rest : List Char} {room : ℕ}
    (hdigits : ∀ c ∈ digits, c.isDigit = true)
    (hrest : ∀ c ∈ rest.head?, c.isDigit = false)
    (hroom : digits.foldl (fun n c => n * 10 + digitValue c) room ≤ greatestSignificand) :
    significand room (digits ++ rest) =
      (digits.foldl (fun n c => n * 10 + digitValue c) room, digits.length, rest) := by
  induction digits generalizing room with
  | nil =>
      cases rest with
      | nil => rfl
      | cons c rest => simp [significand, hrest c rfl]
  | cons c digits ih =>
      obtain ⟨hfirst, hothers⟩ := List.forall_mem_cons.mp hdigits
      rw [List.foldl_cons] at hroom
      have hone := (le_foldl_digits digits _).trans hroom
      rw [List.cons_append, significand, ih hothers hroom]
      simp [hfirst, hone]

/-- What may follow a value in a written text: nothing, a comma or a new line. -/
def Ended (rest : List Char) : Prop := ∀ c ∈ rest.head?, c = ',' ∨ c = '\n'

theorem number?_repr {n : ℕ} (hn : n < 2 ^ 64) {rest : List Char} (hrest : Ended rest) :
    number? false ((Nat.repr n).toList ++ rest) = some (.nat n, rest) := by
  rw [Nat.toList_repr]
  have hdigits : ∀ c ∈ Nat.toDigits 10 n, c.isDigit = true :=
    fun c hc => Nat.isDigit_of_mem_toDigits (by norm_num) (by norm_num) hc
  have hhead : ∀ c ∈ rest.head?, c.isDigit = false := by
    intro c hc
    rcases hrest c hc with rfl | rfl <;> rfl
  have hnone : rest.takeWhile Char.isDigit = [] ∧ rest.dropWhile Char.isDigit = rest := by
    cases rest with
    | nil => exact ⟨rfl, rfl⟩
    | cons c rest => simp [hhead c rfl]
  have hvalue : (Nat.toDigits 10 n).foldl (fun n c => n * 10 + digitValue c) 0 = n := by
    have hread := Nat.ofDigitChars_ten_toDigits (n := n)
    rw [Nat.ofDigitChars_eq_foldl] at hread
    simp only [mul_comm _ 10]
    exact hread
  have hroom : (Nat.toDigits 10 n).foldl (fun n c => n * 10 + digitValue c) 0 ≤
      greatestSignificand := by
    rw [hvalue]
    unfold greatestSignificand
    norm_num
    omega
  have htaken := significand_append hdigits hhead hroom
  rw [hvalue] at htaken
  cases hcs : Nat.toDigits 10 n with
  | nil => exact absurd hcs Nat.toDigits_ne_nil
  | cons c digits =>
      have hzero : (decide (c = '0') && (digits ++ rest).takeWhile Char.isDigit != []) = false := by
        by_cases hc : c = '0'
        · subst hc
          rw [toDigits_eq_cons_zero hcs, List.nil_append, hnone.1]
          rfl
        · simp [hc]
      rw [hcs] at htaken hdigits
      rw [List.cons_append] at htaken ⊢
      rw [number?, htaken]
      simp only [hdigits c List.mem_cons_self, hzero, hnone.1, hnone.2]
      cases rest with
      | nil => rfl
      | cons d rest =>
          rcases hrest d rfl with rfl | rfl <;> rfl

theorem isSpace_of_digit {c : Char} (hdigit : c.isDigit = true) : isSpace c = false := by
  by_contra hspace
  simp only [isSpace, Bool.not_eq_false, Bool.or_eq_true, decide_eq_true_eq] at hspace
  rcases hspace with ((rfl | rfl) | rfl) | rfl <;> exact absurd hdigit (by decide)

theorem exists_digit (n : ℕ) : ∃ c cs, (Nat.repr n).toList = c :: cs ∧ c.isDigit = true := by
  rw [Nat.toList_repr]
  cases hcs : Nat.toDigits 10 n with
  | nil => exact absurd hcs Nat.toDigits_ne_nil
  | cons c cs =>
      have hmem : c ∈ Nat.toDigits 10 n := hcs ▸ List.mem_cons_self
      exact ⟨c, cs, rfl, Nat.isDigit_of_mem_toDigits (by norm_num) (by norm_num) hmem⟩

end Numbers

section Values

/-- Values that an outline lets through whole. -/
inductive Fits : Outline → Json → Prop
  | text (s : String) : Fits .whole (.text s)
  | nat {n : ℕ} (hn : n < 2 ^ 64) : Fits .whole (.nat n)
  | list {outline : Outline} {items : List Json} (hitems : ∀ item ∈ items, Fits outline item) :
      Fits (.list outline) (.list items)
  | record {outlines : List (String × Outline)} {fields : List (String × Json)}
      (hknown : ∀ field ∈ fields, outlines.lookup field.1 ≠ none)
      (hfields : ∀ field ∈ fields, ∀ outline, outlines.lookup field.1 = some outline →
        Fits outline field.2) : Fits (.record outlines) (.record fields)

theorem lookup_whole {name : String} {names : List String} (hname : name ∈ names) :
    (names.map fun name => (name, Outline.whole)).lookup name = some .whole := by
  induction names with
  | nil => cases hname
  | cons other names ih =>
      rw [List.map_cons, List.lookup_cons]
      by_cases hsame : name = other
      · simp [hsame]
      · simp [beq_false_of_ne hsame, ih (List.mem_of_ne_of_mem hsame hname)]

theorem fits_fields
    {names : List String} {fields : List (String × Json)}
    (hknown : ∀ field ∈ fields, field.1 ∈ names)
    (hfields : ∀ field ∈ fields, Fits .whole field.2) : Fits (.fields names) (.record fields) := by
  refine .record ?_ ?_
  · intro field hfield
    rw [lookup_whole (hknown field hfield)]
    exact Option.some_ne_none _
  · intro field hfield outline houtline
    rw [lookup_whole (hknown field hfield)] at houtline
    cases houtline
    exact hfields field hfield

end Values

section Layout

/-- The text begins neither with space nor with a closing bracket. -/
def Opens (cs : List Char) : Prop :=
  ∃ c rest, cs = c :: rest ∧ isSpace c = false ∧ c ≠ ']'

theorem skipSpace_newLine (depth : ℕ) (cs : List Char) :
    skipSpace ((newLine depth).toList ++ cs) = skipSpace cs := by
  unfold newLine skipSpace
  rw [String.toList_ofList, List.cons_append, List.dropWhile_cons_of_pos (by decide),
    List.dropWhile_append_of_pos]
  intro c hc
  rw [List.eq_of_mem_replicate hc]
  rfl

theorem length_newLine (depth : ℕ) : (newLine depth).toList.length = 2 * depth + 1 := by
  unfold newLine
  simp

theorem skipSpace_comma (cs : List Char) : skipSpace (',' :: cs) = ',' :: cs := rfl

theorem ended_comma (cs : List Char) : Ended (',' :: cs) := by
  intro c hc
  exact Or.inl (Option.some.inj hc).symm

theorem ended_newLine (depth : ℕ) (cs : List Char) : Ended ((newLine depth).toList ++ cs) := by
  intro c hc
  rw [newLine, String.toList_ofList] at hc
  exact Or.inr (Option.some.inj hc).symm

theorem skipSpace_of_opens {cs : List Char} (h : Opens cs) (rest : List Char) :
    skipSpace (cs ++ rest) = cs ++ rest := by
  obtain ⟨c, cs, rfl, hspace, -⟩ := h
  simp [skipSpace, hspace]

theorem toList_indented_list (depth : ℕ) (item : Json) (items : List Json) :
    (indented depth (.list (item :: items))).toList =
      '[' :: ((indentedItems (depth + 1) (item :: items)).toList ++
        ((newLine depth).toList ++ [']'])) := by
  rw [indented]
  · simp
  · exact List.cons_ne_nil _ _

theorem toList_indented_record
    (depth : ℕ) (field : String × Json) (fields : List (String × Json)) :
    (indented depth (.record (field :: fields))).toList =
      '\x7b' :: ((indentedFields (depth + 1) (field :: fields)).toList ++
        ((newLine depth).toList ++ ['\x7d'])) := by
  rw [indented]
  · simp
  · exact List.cons_ne_nil _ _

theorem toList_indentedItems_cons_cons (depth : ℕ) (item other : Json) (items : List Json) :
    (indentedItems depth (item :: other :: items)).toList =
      (newLine depth).toList ++ ((indented depth item).toList ++
        ',' :: (indentedItems depth (other :: items)).toList) := by
  rw [indentedItems]
  · simp
  · exact List.cons_ne_nil _ _

/-- The text of a field on a line of its own. -/
def fieldText (depth : ℕ) (key : String) (v : Json) : List Char :=
  (newLine depth).toList ++ '"' :: (key.toList.flatMap escapedChar ++
    '"' :: ':' :: ' ' :: (indented depth v).toList)

theorem toList_indentedFields_single (depth : ℕ) (key : String) (v : Json) :
    (indentedFields depth [(key, v)]).toList = fieldText depth key v := by
  rw [indentedFields, quoted, quotedChars]
  simp [fieldText]

theorem toList_indentedFields_cons_cons
    (depth : ℕ) (key : String) (v : Json) (other : String × Json)
    (fields : List (String × Json)) :
    (indentedFields depth ((key, v) :: other :: fields)).toList =
      fieldText depth key v ++ ',' :: (indentedFields depth (other :: fields)).toList := by
  rw [indentedFields, quoted, quotedChars]
  · simp [fieldText]
  · exact List.cons_ne_nil _ _

theorem opens_indented {outline : Outline} {v : Json} (h : Fits outline v) (depth : ℕ) :
    Opens (indented depth v).toList := by
  cases h with
  | text s => exact ⟨'"', _, by rw [indented, quoted, String.toList_ofList]; rfl, by decide⟩
  | @nat n hn =>
      obtain ⟨c, cs, hcs, hdigit⟩ := exists_digit n
      refine ⟨c, cs, hcs, isSpace_of_digit hdigit, ?_⟩
      rintro rfl
      exact absurd hdigit (by decide)
  | @list outline items hitems =>
      cases items with
      | nil => exact ⟨'[', [']'], by rw [indented]; rfl, by decide⟩
      | cons item items => exact ⟨'[', _, toList_indented_list depth item items, by decide⟩
  | @record outlines fields hknown hfields =>
      cases fields with
      | nil => exact ⟨'\x7b', ['\x7d'], by rw [indented]; rfl, by decide⟩
      | cons field fields =>
          exact ⟨'\x7b', _, toList_indented_record depth field fields, by decide⟩

theorem skipSpace_indentedItems
    {item : Json} {depth : ℕ} (h : Opens (indented depth item).toList)
    (items : List Json) (rest : List Char) :
    ∃ c cs, skipSpace ((indentedItems depth (item :: items)).toList ++ rest) = c :: cs ∧
      c ≠ ']' := by
  obtain ⟨after, hafter⟩ : ∃ after, (indentedItems depth (item :: items)).toList ++ rest =
      (newLine depth).toList ++ ((indented depth item).toList ++ after) := by
    cases items with
    | nil =>
        refine ⟨rest, ?_⟩
        rw [indentedItems]
        simp
    | cons other items =>
        refine ⟨',' :: (indentedItems depth (other :: items)).toList ++ rest, ?_⟩
        rw [toList_indentedItems_cons_cons, List.append_assoc, List.append_assoc]
  rw [hafter, skipSpace_newLine, skipSpace_of_opens h]
  obtain ⟨c, cs, hcs, -, hc⟩ := h
  exact ⟨c, cs ++ after, by rw [hcs, List.cons_append], hc⟩

theorem skipSpace_indentedFields
    (depth : ℕ) (field : String × Json) (fields : List (String × Json)) (rest : List Char) :
    ∃ cs, skipSpace ((indentedFields depth (field :: fields)).toList ++ rest) = '"' :: cs := by
  obtain ⟨key, v⟩ := field
  obtain ⟨after, hafter⟩ : ∃ after, (indentedFields depth ((key, v) :: fields)).toList ++ rest =
      fieldText depth key v ++ after := by
    cases fields with
    | nil => exact ⟨rest, by rw [toList_indentedFields_single]⟩
    | cons other fields =>
        exact ⟨_, by rw [toList_indentedFields_cons_cons, List.append_assoc]⟩
  rw [hafter, fieldText, List.append_assoc, skipSpace_newLine]
  exact ⟨_, rfl⟩

end Layout

section Reading

variable {outline : Outline} {v : Json}

/-- The value is read from its indented text, and nothing that follows is taken. -/
def ReadBack (outline : Outline) (v : Json) : Prop :=
  ∀ {depth fuel : ℕ} {rest : List Char}, (indented depth v).toList.length < fuel → Ended rest →
    outlined? fuel outline ((indented depth v).toList ++ rest) = some (v, rest)

theorem outlined?_congr (fuel : ℕ) (outline : Outline) {cs cs' : List Char}
    (hspace : skipSpace cs = skipSpace cs') :
    outlined? fuel outline cs = outlined? fuel outline cs' := by
  cases fuel with
  | zero => rw [outlined?, outlined?]
  | succ fuel =>
      unfold outlined?
      simp only [hspace]

theorem outlined?_newLine (fuel : ℕ) (outline : Outline) (depth : ℕ) (cs : List Char) :
    outlined? fuel outline ((newLine depth).toList ++ cs) = outlined? fuel outline cs :=
  outlined?_congr fuel outline (skipSpace_newLine depth cs)

theorem outlined?_space (fuel : ℕ) (outline : Outline) (cs : List Char) :
    outlined? fuel outline (' ' :: cs) = outlined? fuel outline cs :=
  outlined?_congr fuel outline (List.dropWhile_cons_of_pos rfl)

theorem skipSpace_skipSpace (cs : List Char) : skipSpace (skipSpace cs) = skipSpace cs :=
  List.dropWhile_idempotent _ _

theorem outlinedItems?_skipSpace
    (fuel : ℕ) (first : List Outline) (others : Outline) (cs : List Char) :
    outlinedItems? fuel first others (skipSpace cs) = outlinedItems? fuel first others cs := by
  cases fuel with
  | zero => rw [outlinedItems?, outlinedItems?]
  | succ fuel =>
      unfold outlinedItems?
      rw [outlined?_congr fuel _ (skipSpace_skipSpace cs)]

theorem outlinedFields?_skipSpace
    (fuel : ℕ) (outlines : List (String × Outline)) (cs : List Char) :
    outlinedFields? fuel outlines (skipSpace cs) = outlinedFields? fuel outlines cs := by
  cases fuel with
  | zero => rw [outlinedFields?, outlinedFields?]
  | succ fuel =>
      unfold outlinedFields?
      rw [skipSpace_skipSpace]

theorem outlinedItems?_indentedItems
    {items : List Json} (hitems : ∀ item ∈ items, ReadBack outline item) (hne : items ≠ [])
    {depth fuel : ℕ} (hfuel : (indentedItems depth items).toList.length < fuel)
    (depth' : ℕ) (rest : List Char) :
    outlinedItems? fuel [] outline ((indentedItems depth items).toList ++
      ((newLine depth').toList ++ ']' :: rest)) = some (items, rest) := by
  induction items generalizing fuel with
  | nil => exact absurd rfl hne
  | cons item items ih =>
      obtain ⟨hitem, hothers⟩ := List.forall_mem_cons.mp hitems
      obtain ⟨fuel, rfl⟩ : ∃ n, fuel = n + 1 := ⟨fuel - 1, by omega⟩
      have hline := length_newLine depth
      cases items with
      | nil =>
          have hclose : skipSpace ((newLine depth').toList ++ ']' :: rest) = ']' :: rest :=
            skipSpace_newLine depth' _
          rw [indentedItems] at hfuel ⊢
          rw [String.toList_append, List.length_append] at hfuel
          rw [String.toList_append, List.append_assoc, outlinedItems?]
          simp only [List.head?_nil, Option.getD_none]
          rw [outlined?_newLine, hitem (by omega) (ended_newLine depth' _)]
          simp only [hclose]
      | cons other items =>
          rw [toList_indentedItems_cons_cons] at hfuel ⊢
          simp only [List.length_append, List.length_cons] at hfuel
          simp only [List.append_assoc, List.cons_append]
          rw [outlinedItems?]
          simp only [List.head?_nil, Option.getD_none]
          rw [outlined?_newLine, hitem (by omega) (ended_comma _)]
          simp only [skipSpace_comma, List.tail_nil]
          rw [ih hothers (List.cons_ne_nil _ _) (by omega)]
          rfl

/-- The text of a field, behind which more fields or the end of the record may stand. -/
theorem outlinedFields?_field
    {outlines : List (String × Outline)} {key : String}
    (hknown : outlines.lookup key = some outline) (hv : ReadBack outline v)
    {depth fuel : ℕ} {rest : List Char}
    (hfuel : (fieldText depth key v).length ≤ fuel) (hrest : Ended rest) :
    outlinedFields? (fuel + 1) outlines (fieldText depth key v ++ rest) =
      match skipSpace rest with
      | ',' :: more =>
        (outlinedFields? fuel outlines more).map fun (fields, left) => ((key, v) :: fields, left)
      | '\x7d' :: left => some ([(key, v)], left)
      | _ => none := by
  unfold fieldText at hfuel ⊢
  have hkey := length_le_flatMap_escapedChar key.toList
  simp only [List.length_append, List.length_cons] at hfuel
  have hroom : key.toList.length < fuel := by omega
  have hstring := string?_escaped key.toList hroom []
    (':' :: ' ' :: ((indented depth v).toList ++ rest))
  rw [List.reverse_nil, List.nil_append, String.ofList_toList] at hstring
  have hquote : ∀ cs, skipSpace ('"' :: cs) = '"' :: cs := fun _ => rfl
  have hcolon : ∀ cs, skipSpace (':' :: cs) = ':' :: cs := fun _ => rfl
  simp only [List.append_assoc, List.cons_append]
  rw [outlinedFields?, skipSpace_newLine]
  simp only [hquote, hstring, hcolon, hknown, outlined?_space]
  rw [hv (by omega) hrest]
  rfl

theorem outlinedFields?_indentedFields
    {outlines : List (String × Outline)} {fields : List (String × Json)}
    (hknown : ∀ field ∈ fields, outlines.lookup field.1 ≠ none)
    (hfields : ∀ field ∈ fields, ∀ outline, outlines.lookup field.1 = some outline →
      ReadBack outline field.2) (hne : fields ≠ [])
    {depth fuel : ℕ} (hfuel : (indentedFields depth fields).toList.length < fuel)
    (depth' : ℕ) (rest : List Char) :
    outlinedFields? fuel outlines ((indentedFields depth fields).toList ++
      ((newLine depth').toList ++ '\x7d' :: rest)) = some (fields, rest) := by
  induction fields generalizing fuel with
  | nil => exact absurd rfl hne
  | cons field fields ih =>
      obtain ⟨key, v⟩ := field
      obtain ⟨hkey, hknown⟩ := List.forall_mem_cons.mp hknown
      obtain ⟨hv, hfields⟩ := List.forall_mem_cons.mp hfields
      obtain ⟨outline, houtline⟩ : ∃ outline, outlines.lookup key = some outline :=
        Option.ne_none_iff_exists'.mp hkey
      have hread : ReadBack outline v := hv outline houtline
      obtain ⟨fuel, rfl⟩ : ∃ n, fuel = n + 1 := ⟨fuel - 1, by omega⟩
      cases fields with
      | nil =>
          have hclose : skipSpace ((newLine depth').toList ++ '\x7d' :: rest) = '\x7d' :: rest :=
            skipSpace_newLine depth' _
          rw [toList_indentedFields_single] at hfuel ⊢
          rw [outlinedFields?_field houtline hread (by omega) (ended_newLine depth' _), hclose]
          rfl
      | cons other fields =>
          rw [toList_indentedFields_cons_cons] at hfuel ⊢
          simp only [List.length_append, List.length_cons] at hfuel
          rw [List.append_assoc, List.cons_append,
            outlinedFields?_field houtline hread (by omega) (ended_comma _), skipSpace_comma]
          simp only
          rw [ih hknown hfields (List.cons_ne_nil _ _) (by omega)]
          rfl

theorem value?_of_digit {c : Char} (hdigit : c.isDigit = true) (fuel depth : ℕ)
    (cs : List Char) : value? (fuel + 1) depth (c :: cs) = number? false (c :: cs) := by
  have hspace : skipSpace (c :: cs) = c :: cs :=
    List.dropWhile_cons_of_neg (by rw [isSpace_of_digit hdigit]; exact Bool.false_ne_true)
  rw [value?.eq_def]
  simp only [hspace]
  split
  all_goals first
    | next heq =>
        cases heq
        first
          | exact absurd hdigit (by decide)
          | simp [hdigit]
    | next heq => cases heq

theorem readBack_text (s : String) : ReadBack .whole (.text s) := by
  intro depth fuel rest hfuel _
  have hwritten : (indented depth (.text s)).toList =
      '"' :: (s.toList.flatMap escapedChar ++ ['"']) := by
    rw [indented, quoted, String.toList_ofList]
    rfl
  have hlength := length_le_flatMap_escapedChar s.toList
  rw [hwritten] at hfuel ⊢
  simp only [List.length_append, List.length_cons, List.length_nil] at hfuel
  obtain ⟨fuel, rfl⟩ : ∃ n, fuel = n + 2 := ⟨fuel - 2, by omega⟩
  have hroom : s.toList.length < fuel := by omega
  have hstring := string?_escaped s.toList hroom [] rest
  rw [List.reverse_nil, List.nil_append, String.ofList_toList] at hstring
  have hquote : ∀ cs, skipSpace ('"' :: cs) = '"' :: cs := fun _ => rfl
  simp only [List.cons_append, List.append_assoc, List.nil_append]
  unfold outlined? value?
  simp only [hquote, hstring]
  rfl

theorem readBack_nat {n : ℕ} (hn : n < 2 ^ 64) : ReadBack .whole (.nat n) := by
  intro depth fuel rest hfuel hrest
  have hnumber := number?_repr hn hrest
  obtain ⟨c, cs, hcs, hdigit⟩ := exists_digit n
  have hwritten : (indented depth (.nat n)).toList = c :: cs := hcs
  rw [hcs] at hnumber
  rw [hwritten] at hfuel ⊢
  simp only [List.length_cons] at hfuel
  obtain ⟨fuel, rfl⟩ : ∃ n, fuel = n + 2 := ⟨fuel - 2, by omega⟩
  have hspace : skipSpace (c :: (cs ++ rest)) = c :: (cs ++ rest) :=
    List.dropWhile_cons_of_neg (by rw [isSpace_of_digit hdigit]; exact Bool.false_ne_true)
  unfold outlined?
  rw [List.cons_append] at hnumber ⊢
  simp only [hspace, value?_of_digit hdigit]
  exact hnumber

theorem readBack_list {items : List Json} (hitems : ∀ item ∈ items, Fits outline item)
    (hread : ∀ item ∈ items, ReadBack outline item) :
    ReadBack (.list outline) (.list items) := by
  intro depth fuel rest hfuel _
  obtain ⟨fuel, rfl⟩ : ∃ n, fuel = n + 1 := ⟨fuel - 1, by omega⟩
  have hbracket : ∀ cs, skipSpace ('[' :: cs) = '[' :: cs := fun _ => rfl
  cases items with
  | nil =>
      have hwritten : (indented depth (.list [])).toList = ['[', ']'] := by
        rw [indented]
        rfl
      have hclose : ∀ cs, skipSpace (']' :: cs) = ']' :: cs := fun _ => rfl
      rw [hwritten]
      unfold outlined?
      simp only [List.cons_append, List.nil_append, hbracket, hclose]
  | cons item items =>
      rw [toList_indented_list] at hfuel ⊢
      simp only [List.length_append, List.length_cons, List.length_nil] at hfuel
      have hroom : (indentedItems (depth + 1) (item :: items)).toList.length < fuel := by omega
      have htaken := outlinedItems?_indentedItems hread (List.cons_ne_nil _ _) hroom depth rest
      obtain ⟨c, cs, hcs, hc⟩ := skipSpace_indentedItems
        (opens_indented (hitems item List.mem_cons_self) (depth + 1)) items
        ((newLine depth).toList ++ ']' :: rest)
      rw [← outlinedItems?_skipSpace, hcs] at htaken
      unfold outlined?
      simp only [List.cons_append, List.append_assoc, List.nil_append, hbracket, hcs]
      simp [hc, htaken]

theorem readBack_record {outlines : List (String × Outline)} {fields : List (String × Json)}
    (hknown : ∀ field ∈ fields, outlines.lookup field.1 ≠ none)
    (hread : ∀ field ∈ fields, ∀ outline, outlines.lookup field.1 = some outline →
      ReadBack outline field.2) :
    ReadBack (.record outlines) (.record fields) := by
  intro depth fuel rest hfuel _
  obtain ⟨fuel, rfl⟩ : ∃ n, fuel = n + 1 := ⟨fuel - 1, by omega⟩
  have hbrace : ∀ cs, skipSpace ('\x7b' :: cs) = '\x7b' :: cs := fun _ => rfl
  cases fields with
  | nil =>
      have hwritten : (indented depth (.record [])).toList = ['\x7b', '\x7d'] := by
        rw [indented]
        rfl
      have hclose : ∀ cs, skipSpace ('\x7d' :: cs) = '\x7d' :: cs := fun _ => rfl
      rw [hwritten]
      unfold outlined?
      simp only [List.cons_append, List.nil_append, hbrace, hclose]
  | cons field fields =>
      rw [toList_indented_record] at hfuel ⊢
      simp only [List.length_append, List.length_cons, List.length_nil] at hfuel
      have hroom : (indentedFields (depth + 1) (field :: fields)).toList.length < fuel := by omega
      have htaken := outlinedFields?_indentedFields hknown hread (List.cons_ne_nil _ _) hroom
        depth rest
      obtain ⟨cs, hcs⟩ := skipSpace_indentedFields (depth + 1) field fields
        ((newLine depth).toList ++ '\x7d' :: rest)
      rw [← outlinedFields?_skipSpace, hcs] at htaken
      unfold outlined?
      simp only [List.cons_append, List.append_assoc, List.nil_append, hbrace, hcs]
      simp [htaken]

theorem Fits.readBack (h : Fits outline v) : ReadBack outline v := by
  induction h with
  | text s => exact readBack_text s
  | nat hn => exact readBack_nat hn
  | list hitems ih => exact readBack_list hitems ih
  | record hknown _ ih => exact readBack_record hknown ih

/-- What an outline lets through is read back from a text of its own. -/
theorem parseOutlined?_pretty (h : Fits outline v) :
    parseOutlined? outline (pretty v) = some v := by
  have hroom : (indented 0 v).toList.length < 2 * (pretty v).toList.length + 4 := by
    unfold pretty
    omega
  have hend : Ended [] := nofun
  have hread := h.readBack hroom hend
  rw [List.append_nil] at hread
  unfold parseOutlined?
  simp only
  rw [pretty] at hread ⊢
  rw [hread]
  rfl

end Reading

end Refit.Json
