import Mathlib.Data.List.TakeWhile
import Refit.Proofs.Signature.Reading
import Refit.Proofs.Text.Pieces
import Refit.Proofs.Traversal
import Refit.Signature.Interface

/-!
# Interfaces are read back

The description of an interface is one of its texts: whatever text an interface has
been read from, its description is read as the same interface.
-/

namespace Refit

namespace Operation

/-- The name can stand in front of parentheses and the types in them can be read. -/
structure Headed (op : Operation) : Prop where
  name_ne : op.name ≠ ""
  trimmed : Text.Trimmed op.name.toList
  freeOf : FreeOf ['(', ';', '\n'] op.name
  params : ∀ t ∈ op.params, t.Legible

structure Legible (op : Operation) : Prop extends op.Headed where
  returnType : op.returnType.Legible

section Parameters

theorem splitList_append
    {piece : List Char} (hpiece : ∀ c ∈ ['<', '>', ','], c ∉ piece)
    (current rest : List Char) :
    splitList 0 current (piece ++ rest) = splitList 0 (piece.reverse ++ current) rest := by
  induction piece generalizing current with
  | nil => rfl
  | cons c piece ih =>
      have hc : c ≠ '<' ∧ c ≠ '>' ∧ c ≠ ',' := by
        refine ⟨?_, ?_, ?_⟩ <;> rintro rfl
        · exact hpiece '<' (by decide) List.mem_cons_self
        · exact hpiece '>' (by decide) List.mem_cons_self
        · exact hpiece ',' (by decide) List.mem_cons_self
      rw [List.cons_append, splitList]
      simp only [hc.1, hc.2.1, hc.2.2, if_false, decide_false, Bool.false_and,
        Bool.false_eq_true]
      rw [ih fun d hd hmem => hpiece d hd (List.mem_cons_of_mem _ hmem)]
      simp

theorem splitList_texts {params : List ValueType} (hparams : ∀ t ∈ params, t.Legible) :
    splitList 0 [] (ValueType.texts params).toList = params.map (·.text.toList) := by
  have hfree : ∀ t ∈ params, ∀ c ∈ ['<', '>', ','], c ∉ t.text.toList := by
    intro t ht c hc
    apply (hparams t ht).freeOf_text
    revert c
    simp [ValueType.marks]
  have hpart : ∀ t ∈ params, Text.trim (t.text.toList.reverse ++ []).reverse =
      t.text.toList := by
    intro t ht
    rw [List.append_nil, List.reverse_reverse]
    exact (hparams t ht).trimmed_text
  unfold ValueType.texts
  induction params with
  | nil => rfl
  | cons t params ih =>
      obtain ⟨ht, hrest⟩ := List.forall_mem_cons.mp hparams
      obtain ⟨hfirst, hfree⟩ := List.forall_mem_cons.mp hfree
      obtain ⟨hpiece, hpart⟩ := List.forall_mem_cons.mp hpart
      cases params with
      | nil =>
          have hread := splitList_append hfirst [] []
          rw [List.append_nil] at hread
          rw [List.map_singleton, String.intercalate_singleton, hread, splitList]
          simp only [hpiece]
          simp [ht.text_ne_nil]
      | cons u params =>
          have htail := ih hrest hfree hpart
          rw [List.map_cons, List.map_cons, String.intercalate_cons_cons, ← List.map_cons,
            String.toList_append, String.toList_append, List.append_assoc,
            splitList_append hfirst]
          have hcomma : ",".toList = [','] := rfl
          rw [hcomma, List.cons_append, List.nil_append, splitList]
          simp only [hpiece, htail]
          simp

theorem mapM_ofChars_texts {params : List ValueType} (hparams : ∀ t ∈ params, t.Legible) :
    (params.map (·.text.toList)).mapM ValueType.ofChars = .ok params := by
  induction params with
  | nil => rfl
  | cons t params ih =>
      obtain ⟨ht, hrest⟩ := List.forall_mem_cons.mp hparams
      rw [List.map_cons, List.mapM_cons, ht.ofChars_text, ih hrest]
      rfl

end Parameters

/-- An operation is read from its pieces. -/
theorem ofChars_pieces
    {op : Operation} (hop : op.Headed) {tail : List Char} {returnType : ValueType}
    (htail : ')' ∉ tail) (hreturn : parseReturn (Text.trim tail) = .ok returnType) :
    ofChars (op.name.toList ++ '(' :: ((ValueType.texts op.params).toList ++ ')' :: tail)) =
      .ok ⟨op.name, op.params, returnType⟩ := by
  have hname : '(' ∉ op.name.toList := hop.freeOf '(' (by decide)
  have hnonempty : op.name.toList ≠ [] := by
    simpa using hop.name_ne
  unfold ofChars
  rw [takeWhile_ne_append_cons hname, dropWhile_ne_append_cons hname]
  have hreversed : ((ValueType.texts op.params).toList ++ ')' :: tail).reverse =
      tail.reverse ++ ')' :: (ValueType.texts op.params).toList.reverse := by
    simp
  have htail' : ')' ∉ tail.reverse := by
    simpa using htail
  simp only [List.drop_one, List.tail_cons, hreversed, takeWhile_ne_append_cons htail',
    dropWhile_ne_append_cons htail', List.reverse_reverse,
    show Text.trim op.name.toList = _ from hop.trimmed, splitList_texts hop.params,
    mapM_ofChars_texts hop.params, hreturn, String.ofList_toList]
  simp [hnonempty]

theorem Headed.ofChars_head {op : Operation} (hop : op.Headed) :
    ofChars (op.name ++ op.paramsText).toList = .ok ⟨op.name, op.params, .void⟩ := by
  have hreturn : parseReturn (Text.trim []) = .ok .void := rfl
  have hread := ofChars_pieces hop (by simp) hreturn
  have htext : (op.name ++ op.paramsText).toList =
      op.name.toList ++ '(' :: ((ValueType.texts op.params).toList ++ ')' :: []) := by
    simp [paramsText]
  rw [htext, hread]

theorem Legible.ofChars_text {op : Operation} (hop : op.Legible) :
    ofChars op.text.toList = .ok op := by
  have hclosing : ')' ∉ ':' :: op.returnType.text.toList := by
    have hfree := hop.returnType.freeOf_text ')' (by decide)
    simp [hfree]
  have htrimmed : Text.trim (':' :: op.returnType.text.toList) =
      ':' :: op.returnType.text.toList := by
    refine Text.trimmed_of_forall fun c hc => ?_
    rcases List.mem_cons.mp hc with rfl | htype
    · decide
    · exact ValueType.isBlank_of_isTypeChar (hop.returnType.isTypeChar_of_mem_text htype)
  have hreturn : parseReturn (Text.trim (':' :: op.returnType.text.toList)) =
      .ok op.returnType := by
    rw [htrimmed, parseReturn, show Text.trim _ = _ from hop.returnType.trimmed_text]
    exact hop.returnType.ofChars_text
  have hread := ofChars_pieces hop.toHeaded hclosing hreturn
  have htext : op.text.toList = op.name.toList ++ '(' ::
      ((ValueType.texts op.params).toList ++ ')' :: ':' :: op.returnType.text.toList) := by
    simp [text, paramsText]
  rw [htext, hread]

theorem legible_of_ofChars
    {entry : List Char} (hentry : ∀ c ∈ [';', '\n'], c ∉ entry) {op : Operation}
    (hread : ofChars entry = .ok op) : op.Legible := by
  unfold ofChars at hread
  split at hread
  · cases hread
  · simp only at hread
    split at hread
    · cases hread
    · split at hread
      · cases hread
      · next hname =>
        split at hread
        · cases hread
        · next params hparams =>
          split at hread
          · cases hread
          · next returnType hreturn =>
            cases hread
            refine ⟨⟨?_, ?_, ?_, ?_⟩, ?_⟩
            · simpa using hname
            · rw [String.toList_ofList]
              exact Text.trimmed_trim _
            · intro c hc hmem
              rw [String.toList_ofList] at hmem
              have hbefore := Text.mem_of_mem_trim hmem
              rcases List.mem_cons.mp hc with rfl | hseparator
              · simpa using List.mem_takeWhile_imp hbefore
              · exact hentry c hseparator ((List.takeWhile_prefix _).subset hbefore)
            · intro t ht
              obtain ⟨cs, -, hcs⟩ := forall₂_mem_right (forall₂_of_mapM_eq_ok hparams) ht
              exact ValueType.legible_of_ofChars hcs
            · unfold parseReturn at hreturn
              split at hreturn
              · cases hreturn
                trivial
              · exact ValueType.legible_of_ofChars hreturn
              · exact ValueType.legible_of_ofChars hreturn
              · cases hreturn

end Operation

namespace Interface

structure Legible (i : Interface) : Prop where
  name_ne : i.name ≠ ""
  trimmed : Text.Trimmed i.name.toList
  freeOf : FreeOf ['\x7b'] i.name
  constructors : ∀ c ∈ i.constructors,
    c.Headed ∧ c.name = i.name ∧ c.returnType = .named i.name
  methods : ∀ m ∈ i.methods, m.Legible ∧ m.name ≠ i.name

section Entries

theorem notMem_of_mem_splitEntries
    {current cs piece : List Char} (hcurrent : ∀ c ∈ [';', '\n'], c ∉ current)
    (hpiece : piece ∈ splitEntries current cs) : ∀ c ∈ [';', '\n'], c ∉ piece := by
  induction cs generalizing current with
  | nil =>
      rw [splitEntries, List.mem_singleton] at hpiece
      subst hpiece
      simpa using hcurrent
  | cons d cs ih =>
      rw [splitEntries] at hpiece
      split at hpiece
      · rcases List.mem_cons.mp hpiece with rfl | hrest
        · simpa using hcurrent
        · exact ih (by simp) hrest
      · next hd =>
        refine ih ?_ hpiece
        intro c hc hmem
        rcases List.mem_cons.mp hmem with rfl | hmem
        · simp at hd hc
          tauto
        · exact hcurrent c hc hmem

theorem splitEntries_append
    {piece : List Char} (hpiece : ∀ c ∈ [';', '\n'], c ∉ piece) (current rest : List Char) :
    splitEntries current (piece ++ rest) = splitEntries (piece.reverse ++ current) rest := by
  induction piece generalizing current with
  | nil => rfl
  | cons c piece ih =>
      have hc : (decide (c = ';') || decide (c = '\n')) = false := by
        rw [Bool.or_eq_false_iff, decide_eq_false_iff_not, decide_eq_false_iff_not]
        constructor <;> rintro rfl
        · exact hpiece ';' (by decide) List.mem_cons_self
        · exact hpiece '\n' (by decide) List.mem_cons_self
      rw [List.cons_append, splitEntries, hc, if_neg (by simp),
        ih fun d hd hmem => hpiece d hd (List.mem_cons_of_mem _ hmem)]
      simp

/-- A text that stands as one entry between others. -/
structure Entry (s : String) : Prop where
  ne : s ≠ ""
  trimmed : Text.Trimmed s.toList
  freeOf : FreeOf [';', '\n'] s

theorem entries_intercalate {texts : List String} (htexts : ∀ s ∈ texts, Entry s) :
    ((splitEntries [] (' ' :: (("; ".intercalate texts).toList ++ [' ']))).map
      Text.trim).filter (!·.isEmpty) = texts.map String.toList := by
  have hblank : ∀ c ∈ [' '], Text.isBlank c = true := List.forall_mem_singleton.mpr rfl
  have hpadded : ∀ s, Entry s → ∀ c ∈ [';', '\n'], c ∉ ' ' :: s.toList := by
    intro s hs c hc hmem
    rcases List.mem_cons.mp hmem with rfl | hmem
    · revert hc
      decide
    · exact hs.freeOf c hc hmem
  induction texts with
  | nil => rfl
  | cons s texts ih =>
      obtain ⟨hs, hrest⟩ := List.forall_mem_cons.mp htexts
      have hnonempty : s.toList ≠ [] := by
        simpa using hs.ne
      cases texts with
      | nil =>
          have hwhole : splitEntries [] (' ' :: (s.toList ++ [' '])) =
              [' ' :: (s.toList ++ [' '])] := by
            have hread := splitEntries_append (hpadded s hs) [] [' ']
            rw [List.cons_append] at hread
            rw [hread]
            simp [splitEntries]
          have htrim : Text.trim (' ' :: (s.toList ++ [' '])) = s.toList :=
            hs.trimmed.trim_padded hblank hblank
          rw [String.intercalate_singleton, hwhole]
          simp [htrim, hnonempty]
      | cons s' texts =>
          have hsplit : splitEntries [] (' ' ::
              (("; ".intercalate (s :: s' :: texts)).toList ++ [' '])) =
                (' ' :: s.toList) :: splitEntries []
                  (' ' :: (("; ".intercalate (s' :: texts)).toList ++ [' '])) := by
            have hread := splitEntries_append (hpadded s hs) []
              (';' :: ' ' :: (("; ".intercalate (s' :: texts)).toList ++ [' ']))
            rw [List.cons_append] at hread
            rw [String.intercalate_cons_cons]
            simp only [String.toList_append, List.append_assoc]
            have hglue : "; ".toList = [';', ' '] := rfl
            rw [hglue, List.cons_append, List.cons_append, List.nil_append, hread,
              splitEntries]
            simp
          have htrim : Text.trim (' ' :: s.toList) = s.toList := by
            have hnone : ∀ c ∈ ([] : List Char), Text.isBlank c = true := by simp
            have hpad := hs.trimmed.trim_padded hblank hnone
            rwa [List.append_nil] at hpad
          rw [hsplit, List.map_cons, List.map_cons, ← ih hrest, htrim]
          simp [hnonempty]

end Entries

variable {i : Interface}

theorem ofChars_eq_ok
    {text : List Char} (hread : ofChars text = .ok i) :
    ∃ name body, Text.Trimmed name ∧ name ≠ [] ∧ '\x7b' ∉ name ∧
      addEntries (Interface.mk (String.ofList name) [] [])
        (((splitEntries [] body).map Text.trim).filter (!·.isEmpty)) = .ok i := by
  unfold ofChars at hread
  simp only at hread
  split at hread
  · cases hread
  · split at hread
    · next reversed hbody =>
      split at hread
      · cases hread
      · next hname =>
        refine ⟨_, reversed.reverse, Text.trimmed_trim _, by simpa using hname, ?_, hread⟩
        intro hmem
        simpa using List.mem_takeWhile_imp (Text.mem_of_mem_trim hmem)
    · cases hread

namespace Legible

theorem withOperation (hi : i.Legible) {op : Operation} (hop : op.Legible) :
    (i.withOperation op).Legible := by
  unfold Interface.withOperation
  split_ifs with hname
  · refine ⟨hi.name_ne, hi.trimmed, hi.freeOf, ?_, hi.methods⟩
    intro c hc
    rcases List.mem_append.mp hc with hold | hnew
    · exact hi.constructors c hold
    · rw [List.mem_singleton.mp hnew]
      exact ⟨⟨hi.name_ne, hi.trimmed, hname ▸ hop.freeOf, hop.params⟩, rfl, rfl⟩
  · refine ⟨hi.name_ne, hi.trimmed, hi.freeOf, hi.constructors, ?_⟩
    intro m hm
    rcases List.mem_append.mp hm with hold | hnew
    · exact hi.methods m hold
    · rw [List.mem_singleton.mp hnew]
      exact ⟨hop, hname⟩

theorem of_addEntries
    (hi : i.Legible) {entries : List (List Char)}
    (hentries : ∀ entry ∈ entries, ∀ c ∈ [';', '\n'], c ∉ entry)
    {i' : Interface} (hadd : i.addEntries entries = .ok i') : i'.Legible := by
  induction entries generalizing i with
  | nil =>
      cases hadd
      exact hi
  | cons entry rest ih =>
      obtain ⟨hentry, hrest⟩ := List.forall_mem_cons.mp hentries
      rw [Interface.addEntries] at hadd
      split at hadd
      · cases hadd
      · next op hop =>
        exact ih (hi.withOperation (Operation.legible_of_ofChars hentry hop)) hrest hadd

end Legible

theorem legible_of_parse {query : String} (hparse : parse query = .ok i) : i.Legible := by
  obtain ⟨name, body, htrimmed, hnonempty, hbrace, hadd⟩ := ofChars_eq_ok hparse
  refine Legible.of_addEntries ⟨?_, ?_, ?_, by simp, by simp⟩ ?_ hadd
  · simpa using hnonempty
  · simpa using htrimmed
  · intro c hc
    rw [List.mem_singleton.mp hc]
    simpa using hbrace
  · intro entry hentry c hc hmem
    obtain ⟨piece, hpiece, rfl⟩ := List.mem_map.mp (List.mem_filter.mp hentry).1
    exact notMem_of_mem_splitEntries (by simp) hpiece c hc (Text.mem_of_mem_trim hmem)

theorem addEntries_append (entries more : List (List Char)) {i' : Interface}
    (hadd : i.addEntries entries = .ok i') :
    i.addEntries (entries ++ more) = i'.addEntries more := by
  induction entries generalizing i with
  | nil =>
      cases hadd
      rfl
  | cons entry rest ih =>
      rw [addEntries] at hadd
      rw [List.cons_append, addEntries]
      split at hadd
      · cases hadd
      · exact ih hadd

theorem addEntries_constructors
    {constructors : List Operation}
    (hall : ∀ c ∈ constructors,
      c.Headed ∧ c.name = i.name ∧ c.returnType = .named i.name) :
    i.addEntries (constructors.map fun c => (c.name ++ c.paramsText).toList) =
      .ok { i with constructors := i.constructors ++ constructors } := by
  induction constructors generalizing i with
  | nil => simp [addEntries]
  | cons c constructors ih =>
      obtain ⟨⟨hheaded, hname, hreturn⟩, hrest⟩ := List.forall_mem_cons.mp hall
      have hadded : i.withOperation ⟨c.name, c.params, .void⟩ =
          { i with constructors := i.constructors ++ [c] } := by
        have hc : (⟨i.name, c.params, .named i.name⟩ : Operation) = c := by
          rw [← hreturn, ← hname]
        simp only [withOperation, hname, if_true, withConstructor, hc]
      rw [List.map_cons, addEntries, hheaded.ofChars_head]
      simp only [hadded]
      rw [ih (i := { i with constructors := i.constructors ++ [c] }) hrest]
      simp

theorem addEntries_methods
    {methods : List Operation} (hall : ∀ m ∈ methods, m.Legible ∧ m.name ≠ i.name) :
    i.addEntries (methods.map fun m => m.text.toList) =
      .ok { i with methods := i.methods ++ methods } := by
  induction methods generalizing i with
  | nil => simp [addEntries]
  | cons m methods ih =>
      obtain ⟨⟨hlegible, hname⟩, hrest⟩ := List.forall_mem_cons.mp hall
      rw [List.map_cons, addEntries, hlegible.ofChars_text]
      simp only [withOperation, hname, if_false]
      rw [ih (i := { i with methods := i.methods ++ [m] }) hrest]
      simp

section Description

theorem entry_append
    {op : Operation} (hop : op.Headed) {rest : String} (hfree : FreeOf [';', '\n'] rest)
    (hlast : ∃ c, rest.toList.getLast? = some c ∧ Text.isBlank c = false) :
    Entry (op.name ++ rest) := by
  have hnonempty : op.name.toList ≠ [] := by
    simpa using hop.name_ne
  refine ⟨?_, ?_, FreeOf.append (fun c hc => ?_) hfree⟩
  · simp [String.append_eq_empty_iff, hop.name_ne]
  · rw [String.toList_append]
    apply Text.trimmed_of_ends
    · intro c hc
      rw [List.head?_append_of_ne_nil _ hnonempty] at hc
      exact hop.trimmed.head_not_blank hc
    · intro c hc
      obtain ⟨d, hd, hblank⟩ := hlast
      rw [List.getLast?_append, hd, Option.some_or] at hc
      cases hc
      exact hblank
  · exact hop.freeOf c (List.mem_cons_of_mem _ hc)

theorem freeOf_paramsText {op : Operation} (hop : op.Headed) :
    FreeOf [';', '\n'] op.paramsText := by
  have hopening : FreeOf [';', '\n'] "(" := by decide
  have hclosing : FreeOf [';', '\n'] ")" := by decide
  have hcomma : FreeOf [';', '\n'] "," := by decide
  have hmarks : ∀ c ∈ [';', '\n'], c ∈ ValueType.marks := by simp [ValueType.marks]
  refine (hopening.append (hcomma.intercalate ?_)).append hclosing
  intro piece hpiece c hc
  obtain ⟨t, ht, rfl⟩ := List.mem_map.mp hpiece
  exact (hop.params t ht).freeOf_text c (hmarks c hc)

theorem entry_head {op : Operation} (hop : op.Headed) : Entry (op.name ++ op.paramsText) := by
  refine entry_append hop (freeOf_paramsText hop) ⟨')', ?_, by decide⟩
  rw [Operation.paramsText, String.toList_append]
  exact List.getLast?_concat

theorem entry_text {op : Operation} (hop : op.Legible) : Entry op.text := by
  have hcolon : FreeOf [';', '\n'] ":" := by decide
  have hmarks : ∀ c ∈ [';', '\n'], c ∈ ValueType.marks := by simp [ValueType.marks]
  have hreturn : FreeOf [';', '\n'] op.returnType.text := fun c hc =>
    hop.returnType.freeOf_text c (hmarks c hc)
  have hfree := (freeOf_paramsText hop.toHeaded).append (hcolon.append hreturn)
  rw [Operation.text, String.append_assoc, String.append_assoc]
  refine entry_append hop.toHeaded hfree ?_
  obtain ⟨c, hc⟩ := Option.ne_none_iff_exists'.mp
    (mt List.getLast?_eq_none_iff.mp hop.returnType.text_ne_nil)
  refine ⟨c, ?_, hop.returnType.trimmed_text.last_not_blank hc⟩
  rw [String.toList_append, String.toList_append, List.getLast?_append, List.getLast?_append,
    hc, Option.some_or, Option.some_or]

/-- The operations as a description writes them. -/
def writtenOperations (i : Interface) : List String :=
  i.constructors.map (fun c => c.name ++ c.paramsText) ++ i.methods.map (·.text)

/-- An interface is read from its name and what stands between the braces. -/
theorem ofChars_pieces
    {name : List Char} (hname : Text.Trimmed name) (hnonempty : name ≠ [])
    (hbrace : '\x7b' ∉ name) (body : List Char) :
    ofChars ((name ++ [' ']) ++ '\x7b' :: (body ++ ['\x7d'])) =
      addEntries (Interface.mk (String.ofList name) [] [])
        (((splitEntries [] body).map Text.trim).filter (!·.isEmpty)) := by
  have hnone : ∀ c ∈ ([] : List Char), Text.isBlank c = true := by simp
  have hspace : ∀ c ∈ [' '], Text.isBlank c = true := List.forall_mem_singleton.mpr rfl
  have hpadded : Text.trim (name ++ [' ']) = name := hname.trim_padded hnone hspace
  have hbrace' : '\x7b' ∉ name ++ [' '] := by
    simpa using hbrace
  have hbody : Text.trimEnd (body ++ ['\x7d']) = body ++ ['\x7d'] := by
    apply Text.trimEnd_eq_self
    intro c hc
    rw [List.getLast?_append] at hc
    cases hc
    decide
  have hquery : Text.trim ((name ++ [' ']) ++ '\x7b' :: (body ++ ['\x7d'])) =
      (name ++ [' ']) ++ '\x7b' :: (body ++ ['\x7d']) := by
    apply Text.trimmed_of_ends
    · intro c hc
      rw [List.append_assoc, List.head?_append_of_ne_nil _ hnonempty] at hc
      exact hname.head_not_blank hc
    · intro c hc
      rw [← List.cons_append, ← List.append_assoc, List.getLast?_append] at hc
      cases hc
      decide
  unfold ofChars
  simp only [hquery]
  rw [takeWhile_ne_append_cons hbrace', dropWhile_ne_append_cons hbrace']
  simp only [List.drop_one, List.tail_cons, hbody, List.reverse_append, List.reverse_singleton,
    List.cons_append, List.nil_append, hpadded, List.reverse_reverse]
  simp [hnonempty]

namespace Legible

theorem entry_of_mem_writtenOperations
    (hi : i.Legible) {s : String} (hs : s ∈ i.writtenOperations) : Entry s := by
  rcases List.mem_append.mp hs with hconstructor | hmethod
  · obtain ⟨c, hc, rfl⟩ := List.mem_map.mp hconstructor
    exact entry_head (hi.constructors c hc).1
  · obtain ⟨m, hm, rfl⟩ := List.mem_map.mp hmethod
    exact entry_text (hi.methods m hm).1

theorem addEntries_writtenOperations (hi : i.Legible) :
    addEntries (Interface.mk i.name [] []) (i.writtenOperations.map String.toList) =
      .ok i := by
  have hsplit : i.writtenOperations.map String.toList =
      (i.constructors.map fun c => (c.name ++ c.paramsText).toList) ++
        i.methods.map fun m => m.text.toList := by
    rw [writtenOperations, List.map_append, List.map_map, List.map_map]
    rfl
  have hconstructors : addEntries (Interface.mk i.name [] [])
      (i.constructors.map fun c => (c.name ++ c.paramsText).toList) =
        .ok ⟨i.name, i.constructors, []⟩ :=
    addEntries_constructors hi.constructors
  have hmethods : addEntries ⟨i.name, i.constructors, []⟩
      (i.methods.map fun m => m.text.toList) = .ok i :=
    addEntries_methods hi.methods
  rw [hsplit, addEntries_append _ _ hconstructors, hmethods]

theorem parse_described (hi : i.Legible) : parse i.describe = .ok i := by
  have htext : i.describe.toList = (i.name.toList ++ [' ']) ++ '\x7b' ::
      ((' ' :: (("; ".intercalate i.writtenOperations).toList ++ [' '])) ++ ['\x7d']) := by
    simp [describe, writtenOperations]
  have hnonempty : i.name.toList ≠ [] := by
    simpa using hi.name_ne
  have hbrace : '\x7b' ∉ i.name.toList := by
    simpa using hi.freeOf '\x7b' (by decide)
  rw [parse, htext, ofChars_pieces hi.trimmed hnonempty hbrace,
    entries_intercalate fun _ => hi.entry_of_mem_writtenOperations, String.ofList_toList]
  exact hi.addEntries_writtenOperations

end Legible

end Description

/-- Whatever text an interface was read from, it is read from its description as well:
no two interfaces that can be read have one description. -/
theorem parse_describe {query : String} (hparse : parse query = .ok i) :
    parse i.describe = .ok i ∧
      ∀ query' i', parse query' = .ok i' → i'.describe = i.describe → i' = i := by
  have hread := (legible_of_parse hparse).parse_described
  refine ⟨hread, ?_⟩
  intro query' i' hparse' hdescribe
  have hread' := (legible_of_parse hparse').parse_described
  rw [hdescribe, hread] at hread'
  exact (Except.ok.inj hread').symm

end Interface

namespace Samples

/-- A map by name, which can be made for a number of entries. -/
def directory : Interface where
  name := "Directory"
  constructors := [⟨"Directory", [.primitive .int], .named "Directory"⟩]
  methods := [⟨"put", [.string, .named "java.util.Map"], .primitive .boolean⟩,
    ⟨"names", [.array (.boxed .int)], .array .string⟩, ⟨"clear", [], .void⟩]

/-- The interface on lines of its own, with type arguments, both arrows and blanks. -/
def directoryText : String :=
  " Directory\x7b\n Directory( int ,):void\n put(String, java.util.Map<String,Integer>)->boolean\n" ++
    ";; names(java.lang.Integer [] ) : java.lang.String[]; clear()\n \x7d \n"

end Samples

open Samples in
theorem Interface.parse_describe_directory :
    parse directoryText = .ok directory ∧ parse directory.describe = .ok directory ∧
      ∀ i', parse directory.describe = .ok i' → i'.describe = directory.describe →
        i' = directory := by
  have hparse : parse directoryText = .ok directory := by decide +kernel
  have hboth := parse_describe hparse
  exact ⟨hparse, hboth.1, hboth.2 directory.describe⟩

end Refit
