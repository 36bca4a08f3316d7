import Refit.Proofs.Store.Ordering

/-!
# Batches of cells

A ledger that takes batch after batch, some of which it refuses, keeps what it holds.
A batch is taken when its cells agree with what is held and with one another, so the
order of batches that are all taken does not matter.  The cells of the ledger are those
of its sheets, one sheet after the other.
-/

namespace Refit

namespace Archive

variable {σ : Type} {a : Archive σ} {s : σ}

/-- What is left of a store after some batches, whether it takes them or not. -/
def afterBatches (a : Archive σ) (s : σ) (batches : List (List (CellAddress × String))) : σ :=
  batches.foldl (fun s cells => (a.enterCells s cells).1) s

/-- How the batches end, one after the other. -/
def answers (a : Archive σ) (s : σ) :
    List (List (CellAddress × String)) → List (Except Error Unit)
  | [] => []
  | cells :: rest => (a.enterCells s cells).2 :: a.answers (a.enterCells s cells).1 rest

theorem afterBatches_append
    (a : Archive σ) (s : σ) (batches later : List (List (CellAddress × String))) :
    a.afterBatches s (batches ++ later) = a.afterBatches (a.afterBatches s batches) later :=
  List.foldl_append

theorem afterBatches_invariant {P : σ → Prop} {batches : List (List (CellAddress × String))}
    (hbatch : ∀ cells ∈ batches, ∀ s, P s → P (a.enterCells s cells).1) (hs : P s) :
    P (a.afterBatches s batches) := by
  induction batches generalizing s with
  | nil => exact hs
  | cons cells batches ih =>
      obtain ⟨hfirst, hothers⟩ := List.forall_mem_cons.mp hbatch
      exact ih hothers (hfirst s hs)

end Archive

namespace Ledger

variable {s s' : Ledger} {key : CellAddress} {cell : String}
  {cells rest : List (CellAddress × String)}

/-- The ledger with one more cell. -/
def adding (s : Ledger) (key : CellAddress) (cell : String) : Ledger :=
  { s with cells := insertByKey key cell s.cells }

section Steps

theorem get?_adding (s : Ledger) (key : CellAddress) (cell : String) (address : CellAddress) :
    (s.adding key cell).get? address = if address = key then some cell else s.get? address :=
  lookup_insertByKey fun _ _ => CellAddress.compare_eq_iff

theorem enterCells_cons_of_held (hheld : s.get? key = some cell) :
    s.enterCells ((key, cell) :: rest) = s.enterCells rest := by
  rw [enterCells, hheld]
  simp

theorem enterCells_cons_of_other {held : String} (hheld : s.get? key = some held)
    (hother : held ≠ cell) :
    s.enterCells ((key, cell) :: rest) =
      (s, .error (.cellStored key.sheet.scope.sheetId key.row key.column
        key.sheet.scope.candidateId)) := by
  rw [enterCells, hheld]
  simp [hother]

theorem enterCells_cons_of_free (hfree : s.get? key = none) :
    s.enterCells ((key, cell) :: rest) = (s.adding key cell).enterCells rest := by
  rw [enterCells, hfree]
  rfl

theorem enterCells_invariant {P : Ledger → Prop}
    (hadding : ∀ s key cell, s.get? key = none → P s → P (s.adding key cell)) (hs : P s) :
    P (s.enterCells cells).1 := by
  induction cells generalizing s with
  | nil => exact hs
  | cons entry rest ih =>
      obtain ⟨key, cell⟩ := entry
      cases hget : s.get? key with
      | none =>
          rw [enterCells_cons_of_free hget]
          exact ih (hadding s key cell hget hs)
      | some held =>
          by_cases hsame : held = cell
          · subst hsame
            rw [enterCells_cons_of_held hget]
            exact ih hs
          · rw [enterCells_cons_of_other hget hsame]
            exact hs

end Steps

section Batch

theorem get?_enterCells_of_some {address : CellAddress} {text : String}
    (hheld : s.get? address = some text) : (s.enterCells cells).1.get? address = some text := by
  refine enterCells_invariant (P := fun s => s.get? address = some text) ?_ hheld
  intro s key cell hfree hheld
  rw [get?_adding, if_neg, hheld]
  rintro rfl
  rw [hfree] at hheld
  cases hheld

theorem reports_enterCells : (s.enterCells cells).1.reports = s.reports :=
  enterCells_invariant (P := fun s' => s'.reports = s.reports) (fun _ _ _ _ h => h) rfl

/-- The cells stand in the order of their addresses. -/
def Ordered (s : Ledger) : Prop := SortedKeys s.cells

theorem Ordered.single (h : s.Ordered) : s.Single := SortedKeys.nodup h

theorem Ordered.enterCells (h : s.Ordered) : (s.enterCells cells).1.Ordered :=
  enterCells_invariant (fun _ key cell _ hs => SortedKeys.insertByKey hs key cell) h

theorem Ordered.eq_of_get? (h : s.Ordered) (h' : s'.Ordered) (hreports : s.reports = s'.reports)
    (hget : ∀ address, s.get? address = s'.get? address) : s = s' := by
  obtain ⟨cells, reports⟩ := s
  obtain ⟨cells', reports'⟩ := s'
  cases hreports
  have hcells : cells = cells' := SortedKeys.eq_of_lookup h h' hget
  rw [hcells]

/-- The cells of a batch agree with what is held and with one another. -/
structure Agrees (s : Ledger) (cells : List (CellAddress × String)) : Prop where
  held : ∀ entry ∈ cells, ∀ text, s.get? entry.1 = some text → text = entry.2
  among : cells.Pairwise fun earlier entry => earlier.1 = entry.1 → earlier.2 = entry.2

theorem agrees_cons_of_held (hheld : s.get? key = some cell) :
    s.Agrees ((key, cell) :: rest) ↔ s.Agrees rest := by
  constructor
  · rintro ⟨hkept, hamong⟩
    exact ⟨(List.forall_mem_cons.mp hkept).2, (List.pairwise_cons.mp hamong).2⟩
  · rintro ⟨hkept, hamong⟩
    refine ⟨List.forall_mem_cons.mpr ⟨?_, hkept⟩, List.pairwise_cons.mpr ⟨?_, hamong⟩⟩
    · intro text htext
      rw [hheld] at htext
      exact (Option.some.inj htext).symm
    · intro entry hentry hkey
      exact hkept entry hentry cell (hkey ▸ hheld)

theorem agrees_cons_of_free (hfree : s.get? key = none) :
    s.Agrees ((key, cell) :: rest) ↔ (s.adding key cell).Agrees rest := by
  constructor
  · rintro ⟨hkept, hamong⟩
    obtain ⟨hfirst, hamong⟩ := List.pairwise_cons.mp hamong
    refine ⟨?_, hamong⟩
    intro entry hentry text htext
    rw [get?_adding] at htext
    split_ifs at htext with hkey
    · cases htext
      exact hfirst entry hentry hkey.symm
    · exact hkept entry (List.mem_cons_of_mem _ hentry) text htext
  · rintro ⟨hkept, hamong⟩
    refine ⟨List.forall_mem_cons.mpr ⟨?_, ?_⟩, List.pairwise_cons.mpr ⟨?_, hamong⟩⟩
    · intro text htext
      rw [hfree] at htext
      cases htext
    · intro entry hentry text htext
      refine hkept entry hentry text ?_
      rw [get?_adding, if_neg, htext]
      rintro hkey
      rw [hkey, hfree] at htext
      cases htext
    · intro entry hentry hkey
      refine hkept entry hentry cell ?_
      rw [get?_adding, if_pos hkey.symm]

/-- A batch is taken exactly when its cells agree. -/
theorem enterCells_taken_iff : (s.enterCells cells).2 = .ok () ↔ s.Agrees cells := by
  induction cells generalizing s with
  | nil => exact iff_of_true rfl ⟨by simp, .nil⟩
  | cons entry rest ih =>
      obtain ⟨key, cell⟩ := entry
      cases hget : s.get? key with
      | none => rw [enterCells_cons_of_free hget, agrees_cons_of_free hget, ih]
      | some held =>
          by_cases hsame : held = cell
          · subst hsame
            rw [enterCells_cons_of_held hget, agrees_cons_of_held hget, ih]
          · rw [enterCells_cons_of_other hget hsame]
            refine iff_of_false (by simp) ?_
            intro hagrees
            exact hsame (hagrees.held _ List.mem_cons_self held hget)

theorem get?_enterCells_of_taken
    (htaken : (s.enterCells cells).2 = .ok ()) (address : CellAddress) :
    (s.enterCells cells).1.get? address = (s.get? address).or (cells.lookup address) := by
  induction cells generalizing s with
  | nil => simp [enterCells]
  | cons entry rest ih =>
      obtain ⟨key, cell⟩ := entry
      rw [List.lookup_cons]
      cases hget : s.get? key with
      | none =>
          rw [enterCells_cons_of_free hget] at htaken ⊢
          rw [ih htaken, get?_adding]
          by_cases hkey : address = key
          · simp [hkey, hget]
          · simp [hkey, beq_false_of_ne hkey]
      | some held =>
          by_cases hsame : held = cell
          · subst hsame
            rw [enterCells_cons_of_held hget] at htaken ⊢
            rw [ih htaken]
            by_cases hkey : address = key
            · simp [hkey, hget]
            · simp [beq_false_of_ne hkey]
          · rw [enterCells_cons_of_other hget hsame] at htaken
            cases htaken

theorem get?_enterCells_eq_some_iff
    (htaken : (s.enterCells cells).2 = .ok ()) {address : CellAddress} {text : String} :
    (s.enterCells cells).1.get? address = some text ↔
      s.get? address = some text ∨ (address, text) ∈ cells := by
  constructor
  · intro hheld
    rw [get?_enterCells_of_taken htaken, Option.or_eq_some_iff] at hheld
    exact hheld.imp_right fun hlookup => mem_of_lookup_eq_some hlookup.2
  · rintro (hheld | hentry)
    · exact get?_enterCells_of_some hheld
    · exact (get?_of_enterCells (Prod.ext rfl htaken)).2 _ hentry

theorem enterCells_append (more : List (CellAddress × String))
    (htaken : (s.enterCells cells).2 = .ok ()) :
    s.enterCells (cells ++ more) = (s.enterCells cells).1.enterCells more := by
  induction cells generalizing s with
  | nil => rfl
  | cons entry rest ih =>
      obtain ⟨key, cell⟩ := entry
      rw [List.cons_append]
      cases hget : s.get? key with
      | none =>
          rw [enterCells_cons_of_free hget] at htaken
          rw [enterCells_cons_of_free hget, enterCells_cons_of_free hget, ih htaken]
      | some held =>
          by_cases hsame : held = cell
          · subst hsame
            rw [enterCells_cons_of_held hget] at htaken
            rw [enterCells_cons_of_held hget, enterCells_cons_of_held hget, ih htaken]
          · rw [enterCells_cons_of_other hget hsame] at htaken
            cases htaken

/-- A batch that is not taken is refused at one of its cells; the cells before it
have been taken. -/
theorem exists_refused (hrefused : (s.enterCells cells).2 ≠ .ok ()) :
    ∃ before key cell after held, cells = before ++ (key, cell) :: after ∧
      (s.enterCells before).2 = .ok () ∧
      (s.enterCells before).1.get? key = some held ∧ held ≠ cell ∧
      s.enterCells cells = ((s.enterCells before).1,
        .error (.cellStored key.sheet.scope.sheetId key.row key.column
          key.sheet.scope.candidateId)) := by
  induction cells generalizing s with
  | nil => exact absurd rfl hrefused
  | cons entry rest ih =>
      obtain ⟨key, cell⟩ := entry
      cases hget : s.get? key with
      | none =>
          rw [enterCells_cons_of_free hget] at hrefused ⊢
          obtain ⟨before, other, text, after, held, rfl, htaken, hheld, hne, hend⟩ := ih hrefused
          refine ⟨(key, cell) :: before, other, text, after, held, rfl, ?_, ?_, hne, ?_⟩ <;>
            rw [enterCells_cons_of_free hget] <;> assumption
      | some held =>
          by_cases hsame : held = cell
          · subst hsame
            rw [enterCells_cons_of_held hget] at hrefused ⊢
            obtain ⟨before, other, text, after, held', rfl, htaken, hheld, hne, hend⟩ :=
              ih hrefused
            refine ⟨(key, held) :: before, other, text, after, held', rfl, ?_, ?_, hne, ?_⟩ <;>
              rw [enterCells_cons_of_held hget] <;> assumption
          · exact ⟨[], key, cell, rest, held, rfl, rfl, hget, hsame,
              enterCells_cons_of_other hget hsame⟩

end Batch

section Runs

variable {batches order : List (List (CellAddress × String))}

theorem get?_afterBatches_of_some {address : CellAddress} {text : String}
    (hheld : s.get? address = some text) :
    (store.afterBatches s batches).get? address = some text :=
  Archive.afterBatches_invariant (P := fun s : Ledger => s.get? address = some text)
    (fun _ _ _ hheld => get?_enterCells_of_some hheld) hheld

theorem reports_afterBatches : (store.afterBatches s batches).reports = s.reports :=
  Archive.afterBatches_invariant (P := fun s' : Ledger => s'.reports = s.reports)
    (fun _ _ _ hs => reports_enterCells.trans hs) rfl

theorem Ordered.afterBatches (h : s.Ordered) : (store.afterBatches s batches).Ordered :=
  Archive.afterBatches_invariant (fun _ _ _ hs => Ordered.enterCells hs) h

/-- Batches that are all taken come to the same as one batch of all their cells. -/
theorem answers_taken_iff :
    (∀ answer ∈ store.answers s batches, answer = .ok ()) ↔
      (s.enterCells batches.flatten).2 = .ok () := by
  induction batches generalizing s with
  | nil => simp [Archive.answers, enterCells]
  | cons cells batches ih =>
      rw [Archive.answers, List.forall_mem_cons, ih, List.flatten_cons]
      constructor
      · rintro ⟨hfirst, hrest⟩
        rw [enterCells_append _ hfirst]
        exact hrest
      · intro hall
        have hagrees := enterCells_taken_iff.mp hall
        have hfirst : (s.enterCells cells).2 = .ok () := by
          refine enterCells_taken_iff.mpr ⟨?_, (List.pairwise_append.mp hagrees.among).1⟩
          intro entry hentry
          exact hagrees.held entry (List.mem_append_left _ hentry)
        rw [enterCells_append _ hfirst] at hall
        exact ⟨hfirst, hall⟩

theorem afterBatches_of_taken (htaken : ∀ answer ∈ store.answers s batches, answer = .ok ()) :
    store.afterBatches s batches = (s.enterCells batches.flatten).1 := by
  induction batches generalizing s with
  | nil => rfl
  | cons cells batches ih =>
      rw [Archive.answers, List.forall_mem_cons] at htaken
      rw [List.flatten_cons, enterCells_append _ htaken.1]
      exact ih htaken.2

theorem Agrees.perm (h : s.Agrees cells) (hperm : rest.Perm cells) : s.Agrees rest := by
  refine ⟨fun entry hentry => h.held entry (hperm.mem_iff.mp hentry), ?_⟩
  refine hperm.symm.pairwise h.among ?_
  intro a b hab hkey
  exact (hab hkey.symm).symm

theorem Agrees.lookup_eq_some_iff (h : s.Agrees cells) {address : CellAddress} {text : String} :
    cells.lookup address = some text ↔ (address, text) ∈ cells := by
  refine ⟨mem_of_lookup_eq_some, fun hmem => ?_⟩
  have hsame : ∀ entry ∈ cells, ∀ other ∈ cells, entry.1 = other.1 → entry.2 = other.2 :=
    have hsymm : Std.Symm fun earlier entry : CellAddress × String =>
        earlier.1 = entry.1 → earlier.2 = entry.2 :=
      ⟨fun _ _ hab hkey => (hab hkey.symm).symm⟩
    h.among.forall_of_forall fun _ _ _ => rfl
  cases hlookup : cells.lookup address with
  | none =>
      exact absurd (List.mem_map_of_mem hmem) (lookup_eq_none_iff_keys.mp hlookup)
  | some other =>
      exact congrArg some (hsame _ (mem_of_lookup_eq_some hlookup) _ hmem rfl)

theorem Agrees.lookup_perm (h : s.Agrees cells) (hperm : rest.Perm cells)
    (address : CellAddress) : rest.lookup address = cells.lookup address := by
  ext text
  rw [h.lookup_eq_some_iff, (h.perm hperm).lookup_eq_some_iff, hperm.mem_iff]

theorem afterBatches_perm (hordered : s.Ordered) (hperm : order.Perm batches)
    (htaken : ∀ answer ∈ store.answers s batches, answer = .ok ()) :
    (∀ answer ∈ store.answers s order, answer = .ok ()) ∧
      store.afterBatches s order = store.afterBatches s batches := by
  have hcells := enterCells_taken_iff.mp (answers_taken_iff.mp htaken)
  have hflat : order.flatten.Perm batches.flatten := hperm.flatten
  have htaken' := answers_taken_iff.mpr (enterCells_taken_iff.mpr (hcells.perm hflat))
  refine ⟨htaken', ?_⟩
  -- Both ledgers are ordered, so they are the same as soon as they answer the same.
  refine hordered.afterBatches.eq_of_get? hordered.afterBatches
    (reports_afterBatches.trans reports_afterBatches.symm) ?_
  intro address
  rw [afterBatches_of_taken htaken, afterBatches_of_taken htaken',
    get?_enterCells_of_taken (answers_taken_iff.mp htaken),
    get?_enterCells_of_taken (answers_taken_iff.mp htaken'), hcells.lookup_perm hflat]

end Runs

section Sheets

theorem mem_sheets_iff {key : SheetKey} :
    key ∈ s.sheets ↔ ∃ row column, s.get? ⟨key, row, column⟩ ≠ none := by
  unfold sheets
  rw [mem_eraseReps, List.mem_map]
  constructor
  · rintro ⟨⟨⟨sheet, row, column⟩, text⟩, hentry, rfl⟩
    refine ⟨row, column, fun hnone => ?_⟩
    exact lookup_eq_none_iff_keys.mp hnone (List.mem_map_of_mem hentry)
  · rintro ⟨row, column, hheld⟩
    obtain ⟨text, htext⟩ := Option.ne_none_iff_exists'.mp hheld
    exact ⟨_, mem_of_lookup_eq_some htext, rfl⟩

theorem Ordered.pairwise_sheets (h : s.Ordered) :
    s.sheets.Pairwise fun a b => compare a b = .lt := by
  apply pairwise_eraseReps
  rw [List.pairwise_map]
  exact h.imp CellAddress.isLE_compare_sheet

theorem sorted_sheet (s : Ledger) (key : SheetKey) : (s.sheet key).Sorted :=
  Sheet.ofCells_sorted _ _

theorem mem_addressed_sheet_iff (hsingle : s.Single) {key : SheetKey} {address : CellAddress}
    {text : String} :
    (address, text) ∈ key.addressed (s.sheet key) ↔
      address.sheet = key ∧ s.get? address = some text := by
  rw [mem_iff_lookup (SheetKey.nodup_addressed (s.sorted_sheet key) key),
    SheetKey.lookup_addressed]
  split_ifs with hsheet
  · rw [get?_sheet hsingle]
    subst hsheet
    simp
  · simp [hsheet]

theorem sortedKeys_addressed {sheet : Sheet} (hsorted : sheet.Sorted) (key : SheetKey) :
    SortedKeys (key.addressed sheet) := by
  unfold SortedKeys SheetKey.addressed
  rw [List.pairwise_map]
  exact hsorted.imp (CellAddress.compare_cell key _ _).mpr

/-- The cells of a ledger are those of its sheets, one sheet after the other. -/
theorem Ordered.cells_eq (h : s.Ordered) :
    s.cells = s.sheets.flatMap fun key => key.addressed (s.sheet key) := by
  refine SortedKeys.eq_of_mem h ?_ ?_
  · refine List.pairwise_flatMap.mpr ⟨?_, ?_⟩
    · intro key _
      exact sortedKeys_addressed (s.sorted_sheet key) key
    · refine h.pairwise_sheets.imp fun {a b} hab => ?_
      rintro ⟨address, text⟩ hentry ⟨address', text'⟩ hentry'
      apply CellAddress.compare_of_compare_sheet
      rw [((mem_addressed_sheet_iff h.single).mp hentry).1,
        ((mem_addressed_sheet_iff h.single).mp hentry').1]
      exact hab
  · rintro ⟨address, text⟩
    rw [mem_iff_lookup h.single, List.mem_flatMap]
    constructor
    · intro hheld
      refine ⟨address.sheet, mem_sheets_iff.mpr ⟨address.row, address.column, ?_⟩,
        (mem_addressed_sheet_iff h.single).mpr ⟨rfl, hheld⟩⟩
      exact Option.ne_none_iff_exists'.mpr ⟨text, hheld⟩
    · rintro ⟨key, -, hentry⟩
      exact ((mem_addressed_sheet_iff h.single).mp hentry).2

theorem Ordered.size_eq_sum (h : s.Ordered) :
    s.size = (s.sheets.map fun key => (s.sheet key).size).sum := by
  unfold size
  rw [h.cells_eq, List.length_flatMap]
  simp [SheetKey.addressed, Sheet.size]

end Sheets

/-- The ledger after some batches, of which the first is for an empty one. -/
def ofBatches (batches : List (List (CellAddress × String))) : Ledger :=
  store.afterBatches {} batches

theorem ordered_ofBatches (batches : List (List (CellAddress × String))) :
    (ofBatches batches).Ordered :=
  Ordered.afterBatches List.Pairwise.nil

/-- A ledger is a map in which every cell is written once, parted into its sheets.  It
takes a batch that agrees with what is held and with itself, and then it holds the cells
of the batch besides. -/
theorem batches_written_once (batches : List (List (CellAddress × String))) :
    (∀ later address text, (ofBatches batches).get? address = some text →
      (ofBatches (batches ++ later)).get? address = some text) ∧
    (∀ cells, ((ofBatches batches).enterCells cells).2 = .ok () ↔
      (∀ entry ∈ cells, ∀ text,
        (ofBatches batches).get? entry.1 = some text → text = entry.2) ∧
      cells.Pairwise fun earlier entry => earlier.1 = entry.1 → earlier.2 = entry.2) ∧
    (∀ cells, ((ofBatches batches).enterCells cells).2 = .ok () → ∀ address text,
      ((ofBatches batches).enterCells cells).1.get? address = some text ↔
        (ofBatches batches).get? address = some text ∨ (address, text) ∈ cells) ∧
    (∀ order, order.Perm batches → (∀ answer ∈ store.answers {} batches, answer = .ok ()) →
      (∀ answer ∈ store.answers {} order, answer = .ok ()) ∧
        ofBatches order = ofBatches batches) ∧
    ((ofBatches batches).sheets.Pairwise fun a b => compare a b = .lt) ∧
    (∀ key, key ∈ (ofBatches batches).sheets ↔
      ∃ row column, (ofBatches batches).get? ⟨key, row, column⟩ ≠ none) ∧
    (∀ address text, (ofBatches batches).get? address = some text ↔
      ∃! key, key ∈ (ofBatches batches).sheets ∧
        (address, text) ∈ key.addressed ((ofBatches batches).sheet key)) ∧
    ((ofBatches batches).sheets.map fun key => ((ofBatches batches).sheet key).size).sum =
      (ofBatches batches).size := by
  have hordered := ordered_ofBatches batches
  refine ⟨?_, ?_, fun _ htaken _ _ => get?_enterCells_eq_some_iff htaken, ?_,
    hordered.pairwise_sheets, fun _ => mem_sheets_iff, ?_, hordered.size_eq_sum.symm⟩
  · intro later address text hheld
    unfold ofBatches
    rw [Archive.afterBatches_append]
    exact get?_afterBatches_of_some hheld
  · intro cells
    rw [enterCells_taken_iff]
    exact ⟨fun h => ⟨h.held, h.among⟩, fun h => ⟨h.1, h.2⟩⟩
  · intro order hperm htaken
    exact afterBatches_perm List.Pairwise.nil hperm htaken
  · intro address text
    constructor
    · intro hheld
      refine ⟨address.sheet, ⟨mem_sheets_iff.mpr ⟨address.row, address.column, ?_⟩, ?_⟩, ?_⟩
      · exact Option.ne_none_iff_exists'.mpr ⟨text, hheld⟩
      · exact (mem_addressed_sheet_iff hordered.single).mpr ⟨rfl, hheld⟩
      · rintro key ⟨-, hentry⟩
        exact ((mem_addressed_sheet_iff hordered.single).mp hentry).1.symm
    · rintro ⟨key, ⟨-, hentry⟩, -⟩
      exact ((mem_addressed_sheet_iff hordered.single).mp hentry).2

end Ledger

end Refit
