import Refit.Proofs.Json.Outlines

/-!
# Compact texts are read back

Values without numbers are read back from their compact form.  Such a text shows where it
ends, so nothing need be known of what follows.  The depth of a value bounds the levels of
lists and records in it, of which the reader takes a limited number.
-/

namespace Refit.Json

/-- Values without numbers, with at most this many levels of lists and records. -/
inductive Worded : ℕ → Json → Prop
  | null {depth : ℕ} : Worded depth .null
  | bool {depth : ℕ} (b : Bool) : Worded depth (.bool b)
  | text {depth : ℕ} (s : String) : Worded depth (.text s)
  | list {depth : ℕ} {items : List Json} (hitems : ∀ item ∈ items, Worded depth item) :
      Worded (depth + 1) (.list items)
  | record {depth : ℕ} {fields : List (String × Json)}
      (hfields : ∀ field ∈ fields, Worded depth field.2) : Worded (depth + 1) (.record fields)

theorem Worded.texts (depth : ℕ) (texts : List String) : Worded (depth + 1) (.texts texts) := by
  apply Worded.list
  intro item hitem
  rcases List.mem_map.mp hitem with ⟨s, -, rfl⟩
  exact .text s

section Layout

theorem toList_compact_list (items : List Json) :
    (compact (.list items)).toList = '[' :: ((compactItems items).toList ++ [']']) := by
  rw [compact]
  simp

theorem toList_compact_record (fields : List (String × Json)) :
    (compact (.record fields)).toList =
      '\x7b' :: ((compactFields fields).toList ++ ['\x7d']) := by
  rw [compact]
  simp

theorem toList_compact_text (s : String) :
    (compact (.text s)).toList = '"' :: (s.toList.flatMap escapedChar ++ ['"']) := by
  rw [compact, quoted, quotedChars, String.toList_ofList, List.cons_append]

theorem toList_compactItems_cons_cons (item other : Json) (items : List Json) :
    (compactItems (item :: other :: items)).toList =
      (compact item).toList ++ ',' :: (compactItems (other :: items)).toList := by
  rw [compactItems]
  · simp
  · exact List.cons_ne_nil _ _

/-- The text of a field. -/
def compactField (key : String) (v : Json) : List Char :=
  '"' :: (key.toList.flatMap escapedChar ++ '"' :: ':' :: (compact v).toList)

theorem toList_compactFields_single (key : String) (v : Json) :
    (compactFields [(key, v)]).toList = compactField key v := by
  rw [compactFields, quoted, quotedChars]
  simp [compactField]

theorem toList_compactFields_cons_cons
    (key : String) (v : Json) (other : String × Json) (fields : List (String × Json)) :
    (compactFields ((key, v) :: other :: fields)).toList =
      compactField key v ++ ',' :: (compactFields (other :: fields)).toList := by
  rw [compactFields, quoted, quotedChars]
  · simp [compactField]
  · exact List.cons_ne_nil _ _

theorem opens_compact {depth : ℕ} {v : Json} (h : Worded depth v) :
    Opens (compact v).toList := by
  cases h with
  | null => exact ⟨'n', ['u', 'l', 'l'], by rw [compact]; rfl, by decide⟩
  | bool b =>
      cases b with
      | true => exact ⟨'t', ['r', 'u', 'e'], by rw [compact]; rfl, by decide⟩
      | false => exact ⟨'f', ['a', 'l', 's', 'e'], by rw [compact]; rfl, by decide⟩
  | text s => exact ⟨'"', _, toList_compact_text s, by decide⟩
  | list => exact ⟨'[', _, toList_compact_list _, by decide⟩
  | record => exact ⟨'\x7b', _, toList_compact_record _, by decide⟩

theorem opens_compactItems
    {depth : ℕ} {items : List Json} (h : ∀ item ∈ items, Worded depth item) (hne : items ≠ []) :
    Opens (compactItems items).toList := by
  cases items with
  | nil => exact absurd rfl hne
  | cons item items =>
      rcases opens_compact (h item List.mem_cons_self) with ⟨c, cs, hcs, hspace, hc⟩
      cases items with
      | nil =>
          rw [compactItems]
          exact ⟨c, cs, hcs, hspace, hc⟩
      | cons other items =>
          rw [toList_compactItems_cons_cons, hcs]
          exact ⟨c, _, rfl, hspace, hc⟩

end Layout

section Reading

variable {v : Json}

/-- The value is read from its compact text, and nothing that follows is taken. -/
def ReadCompact (depth : ℕ) (v : Json) : Prop :=
  ∀ {fuel limit : ℕ} (rest : List Char), 2 * (compact v).toList.length < fuel → depth < limit →
    value? fuel limit ((compact v).toList ++ rest) = some (v, rest)

variable {depth : ℕ}

theorem readCompact_null : ReadCompact depth .null := by
  intro fuel limit rest hfuel _
  cases fuel with
  | zero => omega
  | succ fuel =>
      rw [compact, value?]
      rfl

theorem readCompact_bool (b : Bool) : ReadCompact depth (.bool b) := by
  intro fuel limit rest hfuel _
  cases fuel with
  | zero => omega
  | succ fuel =>
      cases b <;> (rw [compact, value?]; rfl)

theorem readCompact_text (s : String) : ReadCompact depth (.text s) := by
  intro fuel limit rest hfuel _
  have hlength := length_le_flatMap_escapedChar s.toList
  rw [toList_compact_text] at hfuel ⊢
  simp only [List.length_cons, List.length_append, List.length_nil] at hfuel
  cases fuel with
  | zero => omega
  | succ fuel =>
      have hfuel' : s.toList.length < fuel := by omega
      have hstring := string?_escaped s.toList hfuel' [] rest
      have hquote : ∀ cs, skipSpace ('"' :: cs) = '"' :: cs := fun _ => rfl
      rw [List.reverse_nil, List.nil_append, String.ofList_toList] at hstring
      rw [value?]
      simp only [List.cons_append, List.append_assoc, List.nil_append, hquote, hstring,
        Option.map_some]

theorem items?_compactItems
    {items : List Json} (hitems : ∀ item ∈ items, ReadCompact depth item) (hne : items ≠ [])
    {fuel limit : ℕ} (hfuel : 2 * (compactItems items).toList.length + 1 < fuel)
    (hlimit : depth < limit) (rest : List Char) :
    items? fuel limit ((compactItems items).toList ++ ']' :: rest) = some (items, rest) := by
  induction items generalizing fuel with
  | nil => exact absurd rfl hne
  | cons item items ih =>
      rcases List.forall_mem_cons.mp hitems with ⟨hitem, hothers⟩
      cases fuel with
      | zero => omega
      | succ fuel =>
          cases items with
          | nil =>
              have hclose : skipSpace (']' :: rest) = ']' :: rest := rfl
              rw [compactItems] at hfuel ⊢
              rw [items?, hitem _ (by omega) hlimit]
              simp only [hclose]
          | cons other items =>
              have hcomma : ∀ cs, skipSpace (',' :: cs) = ',' :: cs := fun _ => rfl
              rw [toList_compactItems_cons_cons] at hfuel ⊢
              simp only [List.length_append, List.length_cons] at hfuel
              have hfuel' : 2 * (compactItems (other :: items)).toList.length + 1 < fuel := by
                omega
              have hrest := ih hothers (List.cons_ne_nil _ _) hfuel'
              rw [List.append_assoc, List.cons_append, items?, hitem _ (by omega) hlimit]
              simp only [hcomma, hrest, Option.map_some]

theorem fields?_compactFields
    {fields : List (String × Json)} (hfields : ∀ field ∈ fields, ReadCompact depth field.2)
    (hne : fields ≠ []) {fuel limit : ℕ}
    (hfuel : 2 * (compactFields fields).toList.length + 1 < fuel) (hlimit : depth < limit)
    (rest : List Char) :
    fields? fuel limit ((compactFields fields).toList ++ '\x7d' :: rest) =
      some (fields, rest) := by
  induction fields generalizing fuel with
  | nil => exact absurd rfl hne
  | cons field fields ih =>
      rcases List.forall_mem_cons.mp hfields with ⟨hfield, hothers⟩
      rcases field with ⟨key, v⟩
      have hfield : ReadCompact depth v := hfield
      have hlength := length_le_flatMap_escapedChar key.toList
      have hquote : ∀ cs, skipSpace ('"' :: cs) = '"' :: cs := fun _ => rfl
      have hcolon : ∀ cs, skipSpace (':' :: cs) = ':' :: cs := fun _ => rfl
      -- Key and value are read in one way, whatever stands behind the field.
      have hhead : ∀ {fuel : ℕ} (after : List Char),
          2 * (compactField key v).length < fuel →
          string? fuel [] (key.toList.flatMap escapedChar ++
              '"' :: ':' :: ((compact v).toList ++ after)) =
            some (key, ':' :: ((compact v).toList ++ after)) ∧
          value? fuel limit ((compact v).toList ++ after) = some (v, after) := by
        intro fuel after hfuel
        simp only [compactField, List.length_cons, List.length_append] at hfuel
        have hfuel' : key.toList.length < fuel := by omega
        have hstring := string?_escaped key.toList hfuel' []
          (':' :: ((compact v).toList ++ after))
        rw [List.reverse_nil, List.nil_append, String.ofList_toList] at hstring
        exact ⟨hstring, hfield after (by omega) hlimit⟩
      cases fuel with
      | zero => omega
      | succ fuel =>
          cases fields with
          | nil =>
              have hclose : skipSpace ('\x7d' :: rest) = '\x7d' :: rest := rfl
              rw [toList_compactFields_single] at hfuel ⊢
              have hfuel' : 2 * (compactField key v).length < fuel := by omega
              rcases hhead ('\x7d' :: rest) hfuel' with ⟨hkey, hvalue⟩
              rw [fields?]
              simp only [compactField, List.cons_append, List.append_assoc, hquote, hkey, hcolon,
                hvalue, hclose]
          | cons other fields =>
              have hcomma : ∀ cs, skipSpace (',' :: cs) = ',' :: cs := fun _ => rfl
              rw [toList_compactFields_cons_cons] at hfuel ⊢
              simp only [List.length_append, List.length_cons] at hfuel
              have hfuel' : 2 * (compactField key v).length < fuel := by omega
              have hfuel'' : 2 * (compactFields (other :: fields)).toList.length + 1 < fuel := by
                omega
              have hrest := ih hothers (List.cons_ne_nil _ _) hfuel''
              rcases hhead (',' :: ((compactFields (other :: fields)).toList ++ '\x7d' :: rest))
                hfuel' with ⟨hkey, hvalue⟩
              rw [fields?]
              simp only [compactField, List.cons_append, List.append_assoc, hquote, hkey, hcolon,
                hvalue, hcomma, hrest, Option.map_some]

theorem readCompact_list
    {items : List Json} (hitems : ∀ item ∈ items, Worded depth item)
    (hread : ∀ item ∈ items, ReadCompact depth item) :
    ReadCompact (depth + 1) (.list items) := by
  intro fuel limit rest hfuel hlimit
  have hbracket : ∀ cs, skipSpace ('[' :: cs) = '[' :: cs := fun _ => rfl
  have hlevels : ¬ limit ≤ 1 := by omega
  rw [toList_compact_list] at hfuel ⊢
  simp only [List.length_cons, List.length_append, List.length_nil] at hfuel
  cases fuel with
  | zero => omega
  | succ fuel =>
      rw [value?]
      simp only [List.cons_append, List.append_assoc, List.nil_append, hbracket]
      rw [if_neg hlevels]
      by_cases hne : items = []
      · subst hne
        have hclose : skipSpace (']' :: rest) = ']' :: rest := rfl
        rw [compactItems]
        simp only [String.toList_empty, List.nil_append, hclose]
      · have hfuel' : 2 * (compactItems items).toList.length + 1 < fuel := by omega
        have hlimit' : depth < limit - 1 := by omega
        have htaken := items?_compactItems hread hne hfuel' hlimit' rest
        have hopens := opens_compactItems hitems hne
        rw [skipSpace_of_opens hopens]
        rcases hopens with ⟨c, cs, hcs, -, hc⟩
        rw [hcs, List.cons_append] at htaken ⊢
        simp [hc, htaken]

theorem readCompact_record
    {fields : List (String × Json)} (hread : ∀ field ∈ fields, ReadCompact depth field.2) :
    ReadCompact (depth + 1) (.record fields) := by
  intro fuel limit rest hfuel hlimit
  have hbrace : ∀ cs, skipSpace ('\x7b' :: cs) = '\x7b' :: cs := fun _ => rfl
  have hlevels : ¬ limit ≤ 1 := by omega
  rw [toList_compact_record] at hfuel ⊢
  simp only [List.length_cons, List.length_append, List.length_nil] at hfuel
  cases fuel with
  | zero => omega
  | succ fuel =>
      rw [value?]
      simp only [List.cons_append, List.append_assoc, List.nil_append, hbrace]
      rw [if_neg hlevels]
      by_cases hne : fields = []
      · subst hne
        have hclose : skipSpace ('\x7d' :: rest) = '\x7d' :: rest := rfl
        rw [compactFields]
        simp only [String.toList_empty, List.nil_append, hclose]
      · have hfuel' : 2 * (compactFields fields).toList.length + 1 < fuel := by omega
        have hlimit' : depth < limit - 1 := by omega
        have htaken := fields?_compactFields hread hne hfuel' hlimit' rest
        have hquote : ∃ cs, (compactFields fields).toList = '"' :: cs := by
          rcases fields with _ | ⟨⟨key, v⟩, _ | ⟨other, fields⟩⟩
          · exact absurd rfl hne
          · exact ⟨_, toList_compactFields_single key v⟩
          · exact ⟨_, toList_compactFields_cons_cons key v other fields⟩
        rcases hquote with ⟨cs, hcs⟩
        have hspace : ∀ cs, skipSpace ('"' :: cs) = '"' :: cs := fun _ => rfl
        rw [hcs, List.cons_append] at htaken ⊢
        simp [hspace, htaken]

theorem Worded.readCompact (h : Worded depth v) : ReadCompact depth v := by
  induction h with
  | null => exact readCompact_null
  | bool b => exact readCompact_bool b
  | text s => exact readCompact_text s
  | list hitems ih => exact readCompact_list hitems ih
  | record _ ih => exact readCompact_record ih

/-- Fields come back in the order in which they were written. -/
theorem parseRaw?_compact (h : Worded depth v) (hdepth : depth < depthLimit) :
    parseRaw? v.compact = some v := by
  have hfuel : 2 * (compact v).toList.length < 2 * (compact v).toList.length + 3 := by omega
  have hread := h.readCompact [] hfuel hdepth
  rw [List.append_nil] at hread
  unfold parseRaw?
  simp only [hread]
  rfl

end Reading

end Refit.Json
