import Refit.Proofs.Text.Pieces
import Refit.Signature.Member

/-!
# Declarations are told apart by their texts

Types and members are written without quotes.  Their texts determine them all the
same, as long as the names in them hold no separators and are not taken for a word
with a meaning of its own.  A constructor is written without name and result.
-/

namespace Refit

/-- None of these characters is in the text. -/
def FreeOf (cs : List Char) (s : String) : Prop := ∀ c ∈ cs, c ∉ s.toList

instance (cs : List Char) (s : String) : Decidable (FreeOf cs s) :=
  List.decidableBAll (fun c => c ∉ s.toList) cs

theorem FreeOf.append {cs : List Char} {s s' : String}
    (h : FreeOf cs s) (h' : FreeOf cs s') : FreeOf cs (s ++ s') := by
  intro c hc hmem
  rw [String.toList_append, List.mem_append] at hmem
  exact hmem.elim (h c hc) (h' c hc)

theorem FreeOf.intercalate {cs : List Char} {glue : String} {pieces : List String}
    (hglue : FreeOf cs glue) (hpieces : ∀ piece ∈ pieces, FreeOf cs piece) :
    FreeOf cs (glue.intercalate pieces) := by
  induction pieces with
  | nil =>
      intro c _ hmem
      simp at hmem
  | cons piece pieces ih =>
      have hpiece := hpieces piece List.mem_cons_self
      have hrest := ih fun other hother =>
        hpieces other (List.mem_cons_of_mem _ hother)
      cases pieces with
      | nil => simpa using hpiece
      | cons other pieces =>
          rw [String.intercalate_cons_cons]
          exact (hpiece.append hglue).append hrest

/-- What may stand behind a name in a declaration or a list of lines. -/
def separators : List Char := [' ', '\n', ',', '(', ')', '^']

/-- The words that may open a declaration. -/
def modifiers : List String := ["public", "protected", "private", "static"]

theorem map_inj_of_forall
    {α β : Type} {f : α → β} {xs ys : List α}
    (hf : ∀ x ∈ xs, ∀ y ∈ ys, f x = f y → x = y)
    (hmap : xs.map f = ys.map f) : xs = ys := by
  induction xs generalizing ys with
  | nil =>
      rw [List.map_nil, eq_comm, List.map_eq_nil_iff] at hmap
      exact hmap.symm
  | cons x xs ih =>
      cases ys with
      | nil => cases hmap
      | cons y ys =>
          rw [List.map_cons, List.map_cons, List.cons.injEq] at hmap
          have hhead := hf x List.mem_cons_self y List.mem_cons_self hmap.1
          have htail := ih (fun x hx y hy => hf x (List.mem_cons_of_mem _ hx) y
            (List.mem_cons_of_mem _ hy)) hmap.2
          rw [hhead, htail]

namespace ValueType

/-- The names in the type are not taken for anything else when it is written. -/
def Plain : ValueType → Prop
  | named name =>
    name ≠ "" ∧ FreeOf (']' :: separators) name ∧ ofWord? name = none ∧
      name ∉ modifiers
  | array element => element.Plain
  | _ => True

theorem text_ne_empty {t : ValueType} (ht : t.Plain) : t.text ≠ "" := by
  cases t with
  | primitive p => cases p <;> decide
  | boxed p => cases p <;> decide
  | void | string | object | list => decide
  | named name => exact ht.1
  | array element => simp [text, String.append_eq_empty_iff]

theorem freeOf_text {t : ValueType} (ht : t.Plain) :
    FreeOf separators t.text := by
  induction t with
  | primitive p => cases p <;> decide
  | boxed p => cases p <;> decide
  | void | string | object | list => decide
  | named name => exact fun c hc => ht.2.1 c (List.mem_cons_of_mem _ hc)
  | array element ih => exact (ih ht).append (by decide)

theorem mem_text_array (element : ValueType) :
    ']' ∈ (array element).text.toList := by
  simp [text]

theorem notMem_text {t : ValueType} (ht : t.Plain)
    (harray : ∀ element, t ≠ array element) : ']' ∉ t.text.toList := by
  cases t with
  | primitive p => cases p <;> decide
  | boxed p => cases p <;> decide
  | void | string | object | list => decide
  | named name => exact ht.2.1 ']' List.mem_cons_self
  | array element => exact absurd rfl (harray element)

theorem text_notMem_modifiers {t : ValueType} (ht : t.Plain) :
    t.text ∉ modifiers := by
  cases t with
  | primitive p => cases p <;> decide
  | boxed p => cases p <;> decide
  | void | string | object | list => decide
  | named name => exact ht.2.2.2
  | array element =>
      intro hmodifier
      have hbracket : ∀ word ∈ modifiers, ']' ∉ word.toList := by decide
      exact hbracket _ hmodifier (mem_text_array element)

/-- The type, unless it is written as a name. -/
def meant? : ValueType → Option ValueType
  | named _ => none
  | t => some t

theorem ofWord?_text {t : ValueType} (ht : t.Plain)
    (harray : ∀ element, t ≠ array element) : ofWord? t.text = t.meant? := by
  cases t with
  | primitive p => cases p <;> decide
  | boxed p => cases p <;> decide
  | void | string | object | list => decide
  | named name => exact ht.2.2.1
  | array element => exact absurd rfl (harray element)

theorem eq_of_meant?_eq_some {t u : ValueType} (h : t.meant? = some u) :
    t = u := by
  cases t <;> simp only [meant?, Option.some.injEq, reduceCtorEq] at h <;> exact h

theorem eq_named_of_meant?_eq_none {t : ValueType} (h : t.meant? = none) :
    t = named t.text := by
  cases t <;> simp only [meant?, reduceCtorEq] at h
  rfl

theorem text_inj {s t : ValueType} (hs : s.Plain) (ht : t.Plain)
    (htext : s.text = t.text) : s = t := by
  induction s generalizing t with
  | array element ih =>
      cases t with
      | array other =>
          have helement : element.text = other.text :=
            (String.append_left_inj "[]").mp htext
          exact congrArg array
            (ih (show element.Plain from hs) (show other.Plain from ht) helement)
      | primitive | boxed | void | string | object | list | named =>
          have hbracket := notMem_text ht (by simp)
          rw [← htext] at hbracket
          exact absurd (mem_text_array element) hbracket
  | primitive | boxed | void | string | object | list | named =>
      have hword := ofWord?_text hs (by simp)
      have hother : ∀ element, t ≠ array element := by
        rintro element rfl
        have hbracket := notMem_text hs (by simp)
        rw [htext] at hbracket
        exact hbracket (mem_text_array element)
      rw [htext, ofWord?_text ht hother] at hword
      cases hmeant : t.meant? with
      | some u =>
          rw [hmeant] at hword
          rw [eq_of_meant?_eq_some hmeant, eq_of_meant?_eq_some hword.symm]
      | none =>
          rw [hmeant] at hword
          rw [eq_named_of_meant?_eq_none hword.symm, htext,
            ← eq_named_of_meant?_eq_none hmeant]

theorem texts_inj {types types' : List ValueType}
    (htypes : ∀ t ∈ types, t.Plain) (htypes' : ∀ t ∈ types', t.Plain)
    (htexts : texts types = texts types') : types = types' := by
  have hpieces : ∀ types : List ValueType, (∀ t ∈ types, t.Plain) →
      ∀ piece ∈ types.map text, ',' ∉ piece.toList ∧ piece ≠ "" := by
    intro types htypes piece hpiece
    obtain ⟨t, ht, rfl⟩ := List.mem_map.mp hpiece
    exact ⟨freeOf_text (htypes t ht) ',' (by decide), text_ne_empty (htypes t ht)⟩
  have hmap := intercalate_inj_of_ne_empty (by rfl) (hpieces types htypes)
    (hpieces types' htypes') htexts
  exact map_inj_of_forall
    (fun s hs t ht => text_inj (htypes s hs) (htypes' t ht)) hmap

end ValueType

namespace Member

/-- The words in front of a declaration. -/
def modifierWords (v : Visibility) (isStatic : Bool) : List String :=
  (if v = .package then [] else [v.word]) ++ if isStatic then ["static"] else []

/-- What is declared, without the parameters. -/
def subjectWords (m : Member) : List String :=
  if m.isConstructor then [m.declaring]
  else [m.returnType.text, m.declaring ++ "." ++ m.name]

theorem text_eq (m : Member) :
    m.text =
      " ".intercalate (modifierWords m.visibility m.isStatic ++ m.subjectWords) ++
        ("(" ++ (ValueType.texts m.params ++ ")")) := by
  unfold text subjectWords modifierWords
  apply String.toList_injective
  cases m.visibility <;> cases m.isStatic <;> cases m.isConstructor <;>
    simp [String.intercalate_cons_cons, Visibility.word]

theorem getLast?_text (m : Member) : m.text.toList.getLast? = some ')' := by
  rw [text_eq, ← String.append_assoc, ← String.append_assoc, String.toList_append]
  exact List.getLast?_concat

/-- The names in the member are not taken for anything else when it is written. -/
structure Plain (m : Member) : Prop where
  declaring : FreeOf separators m.declaring
  declaring_notMem : m.declaring ∉ modifiers
  name : FreeOf ('.' :: separators) m.name
  returnType : m.returnType.Plain
  params : ∀ t ∈ m.params, t.Plain

theorem mem_modifiers_of_mem_modifierWords
    {v : Visibility} {isStatic : Bool} {word : String}
    (hword : word ∈ modifierWords v isStatic) : word ∈ modifiers := by
  cases v <;> cases isStatic <;>
    simp_all [modifierWords, modifiers, Visibility.word] <;>
    rcases hword with rfl | rfl <;> simp

theorem modifierWords_inj
    {v v' : Visibility} {isStatic isStatic' : Bool}
    (hwords : modifierWords v isStatic = modifierWords v' isStatic') :
    v = v' ∧ isStatic = isStatic' := by
  cases v <;> cases v' <;> cases isStatic <;> cases isStatic' <;>
    simp_all [modifierWords, Visibility.word]

namespace Plain

variable {m m' : Member}

theorem freeOf_of_mem_words (hm : m.Plain) {word : String}
    (hword : word ∈ modifierWords m.visibility m.isStatic ++ m.subjectWords) :
    FreeOf separators word := by
  rcases List.mem_append.mp hword with hmodifier | hsubject
  · have hfree : ∀ word ∈ modifiers, FreeOf separators word := by decide
    exact hfree word (mem_modifiers_of_mem_modifierWords hmodifier)
  · unfold subjectWords at hsubject
    split at hsubject
    · rw [List.mem_singleton] at hsubject
      subst hsubject
      exact hm.declaring
    · simp only [List.mem_cons, List.not_mem_nil, or_false] at hsubject
      rcases hsubject with rfl | rfl
      · exact ValueType.freeOf_text hm.returnType
      · exact (hm.declaring.append (by decide)).append
          fun c hc => hm.name c (List.mem_cons_of_mem _ hc)

theorem freeOf_text (hm : m.Plain) : FreeOf ['\n', '^'] m.text := by
  have hspace : FreeOf ['\n', '^'] " " := by decide
  have hopening : FreeOf ['\n', '^'] "(" := by decide
  have hclosing : FreeOf ['\n', '^'] ")" := by decide
  have hcomma : FreeOf ['\n', '^'] "," := by decide
  have hmarks : ∀ c ∈ ['\n', '^'], c ∈ separators := by simp [separators]
  have hparams : FreeOf ['\n', '^'] (ValueType.texts m.params) := by
    refine hcomma.intercalate fun piece hpiece c hc => ?_
    obtain ⟨t, ht, rfl⟩ := List.mem_map.mp hpiece
    exact ValueType.freeOf_text (hm.params t ht) c (hmarks c hc)
  rw [text_eq]
  refine (hspace.intercalate fun word hword c hc => ?_).append
    (hopening.append (hparams.append hclosing))
  exact hm.freeOf_of_mem_words hword c (hmarks c hc)

theorem words_inj (hm : m.Plain) (hm' : m'.Plain) (htext : m.text = m'.text) :
    modifierWords m.visibility m.isStatic ++ m.subjectWords =
      modifierWords m'.visibility m'.isStatic ++ m'.subjectWords ∧
    m.params = m'.params := by
  have hspace : FreeOf ['('] " " := by decide
  have hfree : ∀ {m : Member}, m.Plain → '(' ∉ (" ".intercalate
      (modifierWords m.visibility m.isStatic ++ m.subjectWords)).toList := by
    intro m hm
    refine hspace.intercalate (fun word hword => ?_) '(' (by decide)
    exact fun c hc => hm.freeOf_of_mem_words hword c (by simp_all [separators])
  have hnonempty : ∀ m : Member,
      modifierWords m.visibility m.isStatic ++ m.subjectWords ≠ [] := by
    intro m hnil
    rw [List.append_eq_nil_iff] at hnil
    unfold subjectWords at hnil
    split at hnil <;> simp at hnil
  have hchars := congrArg String.toList htext
  rw [text_eq, text_eq] at hchars
  simp only [String.toList_append] at hchars
  obtain ⟨hwords, hparams⟩ :=
    append_cons_inj_of_notMem (hfree hm) (hfree hm') hchars
  refine ⟨intercalate_inj (by rfl)
    (fun word hword => hm.freeOf_of_mem_words hword ' ' (by decide))
    (fun word hword => hm'.freeOf_of_mem_words hword ' ' (by decide))
    (hnonempty m) (hnonempty m') (String.toList_injective hwords), ?_⟩
  have htexts : ValueType.texts m.params = ValueType.texts m'.params :=
    String.toList_injective (List.append_cancel_right hparams)
  exact ValueType.texts_inj hm.params hm'.params htexts

theorem head_subjectWords_notMem (hm : m.Plain) {word : String}
    (hword : m.subjectWords.head? = some word) : word ∉ modifiers := by
  unfold subjectWords at hword
  split at hword <;> cases hword
  · exact hm.declaring_notMem
  · exact ValueType.text_notMem_modifiers hm.returnType

theorem subjectWords_inj (hm : m.Plain) (hm' : m'.Plain)
    (hwords : m.subjectWords = m'.subjectWords) :
    m.isConstructor = m'.isConstructor ∧ m.declaring = m'.declaring ∧
      (m.isConstructor = false →
        m.name = m'.name ∧ m.returnType = m'.returnType) := by
  unfold subjectWords at hwords
  cases hkind : m.isConstructor <;> cases hkind' : m'.isConstructor <;>
    simp only [hkind, hkind', Bool.false_eq_true, if_false, if_true,
      List.cons.injEq, reduceCtorEq, and_false, and_true] at hwords
  · obtain ⟨htype, hpath⟩ := hwords
    -- The name is what stands behind the last point.
    have hreversed :
        m.name.toList.reverse ++ '.' :: m.declaring.toList.reverse =
          m'.name.toList.reverse ++ '.' :: m'.declaring.toList.reverse := by
      simpa using congrArg (fun s : String => s.toList.reverse) hpath
    obtain ⟨hname, hdeclaring⟩ := append_cons_inj_of_notMem
      (by simpa using hm.name '.' List.mem_cons_self)
      (by simpa using hm'.name '.' List.mem_cons_self) hreversed
    refine ⟨rfl, String.toList_injective (List.reverse_injective hdeclaring),
      fun _ => ⟨String.toList_injective (List.reverse_injective hname), ?_⟩⟩
    exact ValueType.text_inj hm.returnType hm'.returnType htype
  · exact ⟨rfl, hwords, fun h => by cases h⟩

/-- Equal texts mean equal members, up to the name and the result of a
constructor, which are not written. -/
theorem text_inj (hm : m.Plain) (hm' : m'.Plain) (htext : m.text = m'.text)
    (hconstructor : m.isConstructor = true → m'.isConstructor = true →
      m.name = m'.name ∧ m.returnType = m'.returnType) : m = m' := by
  obtain ⟨hwords, hparams⟩ := hm.words_inj hm' htext
  obtain ⟨hmodifiers, hsubject⟩ := append_inj_of_forall
    (fun _ => mem_modifiers_of_mem_modifierWords)
    (fun _ => mem_modifiers_of_mem_modifierWords)
    (fun _ => hm.head_subjectWords_notMem)
    (fun _ => hm'.head_subjectWords_notMem) hwords
  obtain ⟨hvisibility, hstatic⟩ := modifierWords_inj hmodifiers
  obtain ⟨hkind, hdeclaring, hmethod⟩ := hm.subjectWords_inj hm' hsubject
  have hhead : m.name = m'.name ∧ m.returnType = m'.returnType := by
    cases hm_kind : m.isConstructor with
    | true => exact hconstructor hm_kind (hkind.symm.trans hm_kind)
    | false => exact hmethod hm_kind
  have hsame : m.kind = m'.kind := by
    unfold Member.isConstructor at hkind
    cases h : m.kind <;> cases h' : m'.kind <;> simp_all
  cases m
  cases m'
  simp_all

theorem isConstructor_eq (hm : m.Plain) (hm' : m'.Plain)
    (htext : m.text = m'.text) : m.isConstructor = m'.isConstructor := by
  obtain ⟨hwords, -⟩ := hm.words_inj hm' htext
  obtain ⟨-, hsubject⟩ := append_inj_of_forall
    (fun _ => mem_modifiers_of_mem_modifierWords)
    (fun _ => mem_modifiers_of_mem_modifierWords)
    (fun _ => hm.head_subjectWords_notMem)
    (fun _ => hm'.head_subjectWords_notMem) hwords
  exact (hm.subjectWords_inj hm' hsubject).1

end Plain

/-- What is not written of the constructors among members. -/
def constructorHeads (members : List Member) : List (String × ValueType) :=
  (members.filter (·.isConstructor)).map fun m => (m.name, m.returnType)

theorem map_text_inj
    {members members' : List Member} (hplain : ∀ m ∈ members, m.Plain)
    (hplain' : ∀ m ∈ members', m.Plain)
    (htexts : members.map text = members'.map text)
    (hheads : constructorHeads members = constructorHeads members') :
    members = members' := by
  induction members generalizing members' with
  | nil =>
      rw [List.map_nil, eq_comm, List.map_eq_nil_iff] at htexts
      exact htexts.symm
  | cons m members ih =>
      cases members' with
      | nil => cases htexts
      | cons m' members' =>
          rw [List.map_cons, List.map_cons, List.cons.injEq] at htexts
          obtain ⟨htext, htexts⟩ := htexts
          have hm := hplain m List.mem_cons_self
          have hm' := hplain' m' List.mem_cons_self
          have hkind := hm.isConstructor_eq hm' htext
          have hrest := ih (fun x hx => hplain x (List.mem_cons_of_mem m hx))
            (fun x hx => hplain' x (List.mem_cons_of_mem m' hx)) htexts
          unfold constructorHeads at hheads hrest
          cases hconstructor : m.isConstructor with
          | false =>
              rw [List.filter_cons_of_neg (by simp [hconstructor]),
                List.filter_cons_of_neg (by simp [← hkind, hconstructor])]
                at hheads
              rw [hrest hheads,
                hm.text_inj hm' htext fun h => by rw [hconstructor] at h; cases h]
          | true =>
              rw [List.filter_cons_of_pos hconstructor,
                List.filter_cons_of_pos (hkind ▸ hconstructor), List.map_cons,
                List.map_cons, List.cons.injEq, Prod.mk.injEq] at hheads
              rw [hrest hheads.2, hm.text_inj hm' htext fun _ _ => hheads.1]

end Member

end Refit
