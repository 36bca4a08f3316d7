import Refit.Proofs.Store.Folder

/-!
# What a refused batch leaves

A batch that is refused has been written up to the cell, or the sheet, that is refused: in
a ledger all cells before it, in a folder all sheets whose keys are before its own.  Nothing
that was there is lost, and nothing else comes in.
-/

namespace Refit

namespace FolderStore

variable {s : FolderStore} {key : SheetKey} {cells : List ((ℕ × ℕ) × String)}
  {groups : List (SheetKey × List ((ℕ × ℕ) × String))}
  {sheetId shown : String} {row column : ℕ}

/-- Groups that are not all taken are refused at one of them; those before it have been
taken. -/
theorem exists_refused {e : Error} (hrefused : (s.putSheets groups).2 = .error e) :
    ∃ before key cells after, groups = before ++ (key, cells) :: after ∧
      (s.putSheets before).2 = .ok () ∧
      s.putSheets groups = (s.putSheets before).1.putSheet key cells ∧
      ((s.putSheets before).1.putSheet key cells).2 = .error e := by
  induction groups generalizing s with
  | nil => cases hrefused
  | cons group rest ih =>
      obtain ⟨key, cells⟩ := group
      rw [putSheets_cons] at hrefused ⊢
      rcases hput : s.putSheet key cells with ⟨s', e' | _⟩
      · rw [hput] at hrefused
        refine ⟨[], key, cells, rest, rfl, rfl, ?_⟩
        rw [putSheets_nil, hput]
        exact ⟨rfl, hrefused⟩
      · rw [hput] at hrefused
        obtain ⟨before, key', cells', after, rfl, htaken, hend, herror⟩ := ih hrefused
        refine ⟨(key, cells) :: before, key', cells', after, rfl, ?_⟩
        rw [putSheets_cons, hput]
        exact ⟨htaken, hend, herror⟩

theorem storedCells_ne_conflict :
    s.storedCells key ≠ .error (.cellStoredIn sheetId row column shown) := by
  unfold storedCells
  simp only
  split_ifs
  · exact nofun
  · split
    · next e hread =>
      unfold FileSystem.read at hread
      split at hread <;> cases hread
      exact nofun
    · split <;> exact nofun

theorem putSheet_conflict
    (hrefused : (s.putSheet key cells).2 = .error (.cellStoredIn sheetId row column shown)) :
    (s.putSheet key cells).1 = s ∧ ∃ held, s.storedCells key = .ok held ∧
      s.merge key held cells = .error (.cellStoredIn sheetId row column shown) := by
  unfold putSheet at hrefused ⊢
  cases hstored : s.storedCells key with
  | error e =>
      rw [hstored] at hrefused
      cases hrefused
      exact absurd hstored storedCells_ne_conflict
  | ok held =>
      rw [hstored] at hrefused
      cases hmerge : s.merge key held cells with
      | error e =>
          simp only [hmerge] at hrefused ⊢
          cases hrefused
          exact ⟨trivial, held, rfl, hmerge⟩
      | ok merged =>
          simp only [hmerge] at hrefused
          have hio := FileSystem.writeBelow_io hrefused
          cases hio

/-- The cells of a batch that are on sheets before this one. -/
def cellsBefore (key : SheetKey) (cells : List (CellAddress × String)) :
    List (CellAddress × String) :=
  cells.filter fun entry => compare entry.1.sheet key = .lt

theorem cellsIn_cellsBefore (key other : SheetKey) (cells : List (CellAddress × String)) :
    other.cellsIn (cellsBefore key cells) =
      if compare other key = .lt then other.cellsIn cells else [] := by
  unfold cellsBefore SheetKey.cellsIn
  rw [List.filter_filter]
  split_ifs with hbefore
  · congr 1
    apply List.filter_congr
    intro entry _
    by_cases hsheet : entry.1.sheet = other
    · simp [hsheet, hbefore]
    · simp [hsheet]
  · rw [List.map_eq_nil_iff, List.filter_eq_nil_iff]
    intro entry _ hentry
    simp only [Bool.and_eq_true, beq_iff_eq, decide_eq_true_eq] at hentry
    exact hbefore (hentry.1 ▸ hentry.2)

theorem grouped_cellsBefore (key : SheetKey) (cells : List (CellAddress × String)) :
    grouped (cellsBefore key cells) =
      (grouped cells).filter fun group => compare group.1 key = .lt := by
  refine (sortedKeys_grouped _).eq_of_mem ((sortedKeys_grouped cells).filter _) ?_
  rintro ⟨other, group⟩
  rw [List.mem_filter, mem_grouped_iff, mem_grouped_iff, cellsIn_cellsBefore]
  by_cases hbefore : compare other key = .lt
  · simp [hbefore]
  · simp [hbefore]

theorem filter_before {before after : List (SheetKey × List ((ℕ × ℕ) × String))}
    (hsorted : SortedKeys (before ++ (key, cells) :: after)) :
    (before ++ (key, cells) :: after).filter (fun group => compare group.1 key = .lt) = before := by
  obtain ⟨-, hrest, hbefore⟩ := List.pairwise_append.mp hsorted
  have hkept : before.filter (fun group => compare group.1 key = .lt) = before := by
    rw [List.filter_eq_self]
    intro group hgroup
    have hlt : compare group.1 key = .lt := hbefore group hgroup (key, cells) List.mem_cons_self
    simp [hlt]
  have hdropped : ((key, cells) :: after).filter (fun group => compare group.1 key = .lt) = [] := by
    rw [List.filter_eq_nil_iff]
    intro group hgroup hlt
    have hlt := of_decide_eq_true hlt
    rcases List.mem_cons.mp hgroup with rfl | hin
    · rw [Std.ReflOrd.compare_self] at hlt
      cases hlt
    · have hself := Std.TransCmp.lt_trans hlt ((List.pairwise_cons.mp hrest).1 group hin)
      rw [Std.ReflOrd.compare_self] at hself
      cases hself
  rw [List.filter_append, hkept, hdropped, List.append_nil]

/-- A batch with a conflict is written up to the sheet that has it. -/
theorem enterCells_conflict {cells : List (CellAddress × String)}
    (hrefused : (s.enterCells cells).2 = .error (.cellStoredIn sheetId row column shown)) :
    ∃ key place text earlier later held,
      key.cellsIn cells = earlier ++ (place, text) :: later ∧
      (s.enterCells (cellsBefore key cells)).2 = .ok () ∧
      (s.enterCells cells).1 = (s.enterCells (cellsBefore key cells)).1 ∧
      ((s.enterCells (cellsBefore key cells)).1.Has key place held ∨ (place, held) ∈ earlier) ∧
      held ≠ text ∧ (key.scope.sheetId, place.1, place.2) = (sheetId, row, column) := by
  obtain ⟨before, key, group, after, hgroups, htaken, hend, herror⟩ := exists_refused hrefused
  have hsorted := sortedKeys_grouped cells
  have hgroup : group = key.cellsIn cells := by
    have hmem : (key, group) ∈ grouped cells := by
      rw [hgroups]
      exact List.mem_append_right _ List.mem_cons_self
    exact (mem_grouped_iff.mp hmem).1
  have hbefore : grouped (cellsBefore key cells) = before := by
    rw [hgroups] at hsorted
    rw [grouped_cellsBefore, hgroups, filter_before hsorted]
  obtain ⟨hkept, stored, hstored, hmerge⟩ := putSheet_conflict herror
  obtain ⟨earlier, place, text, later, merged, held, hcells, hmerged, hheld, hne, hnamed⟩ :=
    exists_of_merge_error hmerge
  cases hnamed
  refine ⟨key, place, text, earlier, later, held, hgroup ▸ hcells, ?_, ?_, ?_, hne, rfl⟩
  · rw [enterCells, hbefore, htaken]
  · rw [enterCells, enterCells, hbefore, hend, hkept]
  · rw [enterCells, hbefore]
    exact ((lookup_merge hmerged).mp hheld).imp_left fun hlookup => ⟨stored, hstored, hlookup⟩

/-- A store takes a part of the batch, and the whole batch comes to the same. -/
structure Partly (s : FolderStore) (cells part : List (CellAddress × String)) : Prop where
  taken : (s.enterCells part).2 = .ok ()
  state_eq : (s.enterCells cells).1 = (s.enterCells part).1
  sheet : ∀ other : SheetKey, other.Named → ∃ sheet sheet', s.sheet other = .ok sheet ∧
    (s.enterCells cells).1.sheet other = .ok sheet' ∧
    (∀ row column text, sheet'.get? row column = some text ↔
      sheet.get? row column = some text ∨
        ∃ key, other.SharesFile key ∧ (key.cell row column, text) ∈ part) ∧
    ((∀ key row column text, other.SharesFile key → (SheetKey.cell key row column, text) ∈ part →
      sheet.get? row column = some text) → sheet' = sheet)

theorem Sound.partly (hs : s.Sound) {cells part : List (CellAddress × String)}
    (hstorable : ∀ entry ∈ part, Storable entry.1) (htaken : (s.enterCells part).2 = .ok ())
    (hstate : (s.enterCells cells).1 = (s.enterCells part).1) : s.Partly cells part := by
  refine ⟨htaken, hstate, fun other hnamed => ?_⟩
  obtain ⟨sheet, hsheet, hname, hsorted, hget⟩ := hs.exists_sheet hnamed
  obtain ⟨sheet', hsheet', hname', hsorted', hget'⟩ :=
    (hs.enterCells hstorable).exists_sheet hnamed
  have hcells : ∀ row column text, sheet'.get? row column = some text ↔
      sheet.get? row column = some text ∨
        ∃ key, other.SharesFile key ∧ (key.cell row column, text) ∈ part := by
    intro row column text
    rw [hget', hget]
    exact hs.has_enterCells hstorable htaken hnamed
  refine ⟨sheet, sheet', hsheet, hstate ▸ hsheet', hcells, fun hthere => ?_⟩
  refine hsorted'.eq_of_get? hsorted (hname'.trans hname.symm) fun row column => ?_
  ext text
  rw [hcells]
  constructor
  · rintro (hheld | ⟨key, hshares, hmem⟩)
    · exact hheld
    · exact hthere key row column text hshares hmem
  · exact Or.inl

end FolderStore

namespace Ledger

/-- A ledger takes a part of the batch, and the whole batch comes to the same. -/
structure Partly (s : Ledger) (cells part : List (CellAddress × String)) : Prop where
  taken : (s.enterCells part).2 = .ok ()
  state_eq : (s.enterCells cells).1 = (s.enterCells part).1
  get?_iff : ∀ address text, (s.enterCells cells).1.get? address = some text ↔
    s.get? address = some text ∨ (address, text) ∈ part
  unchanged : (∀ entry ∈ part, s.get? entry.1 = some entry.2) → (s.enterCells cells).1 = s

theorem partly {s : Ledger} {cells part : List (CellAddress × String)}
    (htaken : (s.enterCells part).2 = .ok ())
    (hstate : (s.enterCells cells).1 = (s.enterCells part).1) : s.Partly cells part := by
  refine ⟨htaken, hstate, fun address text => ?_, fun hthere => ?_⟩
  · rw [hstate]
    exact get?_enterCells_eq_some_iff htaken
  · rw [hstate, enterCells_of_held hthere]

end Ledger

/-- A batch with a conflict comes to the same as a part of it that is taken: in a ledger the
cells before the conflict, in a folder the cells of the sheets before its sheet. -/
theorem refused_batch_in_part :
    (∀ (batches : List (List (CellAddress × String))) (cells : List (CellAddress × String)),
      ((Ledger.ofBatches batches).enterCells cells).2 ≠ .ok () →
      ∃ earlier address text later held, cells = earlier ++ (address, text) :: later ∧
        ((Ledger.ofBatches batches).get? address = some held ∨ (address, held) ∈ earlier) ∧
        held ≠ text ∧ (Ledger.ofBatches batches).Partly cells earlier) ∧
    (∀ (root : String) (batches : List (List (CellAddress × String)))
      (cells : List (CellAddress × String)) (sheetId : String) (row column : ℕ) (shown : String),
      (∀ entry ∈ batches.flatten, FolderStore.Storable entry.1) →
      (∀ entry ∈ cells, FolderStore.Storable entry.1) →
      ((FolderStore.ofBatches root batches).enterCells cells).2 =
        .error (.cellStoredIn sheetId row column shown) →
      ∃ key place text earlier later held,
        key.cellsIn cells = earlier ++ (place, text) :: later ∧
        (((FolderStore.ofBatches root batches).enterCells
            (FolderStore.cellsBefore key cells)).1.Has key place held ∨
          (place, held) ∈ earlier) ∧
        held ≠ text ∧
        (FolderStore.ofBatches root batches).Partly cells (FolderStore.cellsBefore key cells)) := by
  refine ⟨?_, ?_⟩
  · intro batches cells hrefused
    obtain ⟨earlier, address, text, later, held, hcells, htaken, hheld, hne, hend⟩ :=
      Ledger.exists_refused hrefused
    refine ⟨earlier, address, text, later, held, hcells, ?_, hne, Ledger.partly htaken ?_⟩
    · exact (Ledger.get?_enterCells_eq_some_iff htaken).mp hheld
    · rw [hend]
  · intro root batches cells sheetId row column shown hbatches hcells hrefused
    obtain ⟨key, place, text, earlier, later, held, hgroup, htaken, hend, hheld, hne, -⟩ :=
      FolderStore.enterCells_conflict hrefused
    refine ⟨key, place, text, earlier, later, held, hgroup, hheld, hne, ?_⟩
    exact (FolderStore.sound_ofBatches hbatches).partly
      (fun entry hentry => hcells entry (List.mem_filter.mp hentry).1) htaken hend

section Samples

/-- The sheet of a run on one of the adapters of a component. -/
def adapterSheet (adapter : ℕ) : SheetKey :=
  ⟨⟨"exec-1", "Stack", "run", "push_size", "list-stack", adapter⟩, .actuation⟩

/-- A new cell, and one where another is. -/
def conflicting : List (CellAddress × String) :=
  [((adapterSheet 0).cell 0 1, "2"), ((adapterSheet 0).cell 0 0, "9")]

/-- A cell on one sheet, and two on another that are not the same. -/
def conflictingSheets : List (CellAddress × String) :=
  [((adapterSheet 0).cell 0 0, "2"), ((adapterSheet 1).cell 0 0, "1"),
    ((adapterSheet 1).cell 0 0, "9")]

theorem storable_conflictingSheets :
    ∀ entry ∈ conflictingSheets, FolderStore.Storable entry.1 := by
  simp [conflictingSheets, FolderStore.Storable, adapterSheet, SheetKey.cell]

theorem refused_batch_in_part_samples :
    (((Ledger.ofBatches [[((adapterSheet 0).cell 0 0, "1")]]).enterCells conflicting).2 ≠ .ok () ∧
      ∃ earlier address text later held, conflicting = earlier ++ (address, text) :: later ∧
        ((Ledger.ofBatches [[((adapterSheet 0).cell 0 0, "1")]]).get? address = some held ∨
          (address, held) ∈ earlier) ∧
        held ≠ text ∧
        (Ledger.ofBatches [[((adapterSheet 0).cell 0 0, "1")]]).Partly conflicting earlier) ∧
    (((FolderStore.ofBatches "root" []).enterCells conflictingSheets).2 = .error
        (.cellStoredIn "push_size" 0 0 "root/exec-1/list-stack/1/push_size.actuation.json") ∧
      ∃ key, (FolderStore.ofBatches "root" []).Partly conflictingSheets
        (FolderStore.cellsBefore key conflictingSheets)) := by
  have hmemory : ((Ledger.ofBatches [[((adapterSheet 0).cell 0 0, "1")]]).enterCells
      conflicting).2 ≠ .ok () := by
    decide
  have hfolder : ((FolderStore.ofBatches "root" []).enterCells conflictingSheets).2 = .error
      (.cellStoredIn "push_size" 0 0 "root/exec-1/list-stack/1/push_size.actuation.json") := by
    decide +kernel
  refine ⟨⟨hmemory, refused_batch_in_part.1 _ _ hmemory⟩, hfolder, ?_⟩
  obtain ⟨key, -, -, -, -, -, -, -, -, hpartly⟩ :=
    refused_batch_in_part.2 "root" [] conflictingSheets _ _ _ _ (by simp)
      storable_conflictingSheets hfolder
  exact ⟨key, hpartly⟩

/-- A refused batch is read afterwards: a cell of it in a ledger, a sheet of it in a folder. -/
theorem refused_batch_read :
    (((Ledger.ofBatches [[((adapterSheet 0).cell 0 0, "1")]]).enterCells conflicting).2 ≠ .ok () ∧
      (Ledger.ofBatches [[((adapterSheet 0).cell 0 0, "1")]]).get? ((adapterSheet 0).cell 0 1) =
        none ∧
      ((Ledger.ofBatches [[((adapterSheet 0).cell 0 0, "1")]]).enterCells conflicting).1.get?
        ((adapterSheet 0).cell 0 1) = some "2") ∧
    (((FolderStore.ofBatches "root" []).enterCells conflictingSheets).2 = .error
        (.cellStoredIn "push_size" 0 0 "root/exec-1/list-stack/1/push_size.actuation.json") ∧
      ((FolderStore.ofBatches "root" []).enterCells conflictingSheets).1.sheet (adapterSheet 0) ≠
        (FolderStore.ofBatches "root" []).sheet (adapterSheet 0)) := by
  have hrefused : ((FolderStore.ofBatches "root" []).enterCells conflictingSheets).2 = .error
      (.cellStoredIn "push_size" 0 0 "root/exec-1/list-stack/1/push_size.actuation.json") := by
    decide +kernel
  refine ⟨⟨by decide, by decide, by decide⟩, hrefused, fun hsame => ?_⟩
  have hnamed : (adapterSheet 0).Named := by
    unfold SheetKey.Named
    decide
  have hsound : (FolderStore.ofBatches "root" []).Sound := FolderStore.sound_empty "root"
  have hgroups : FolderStore.grouped conflictingSheets = [(adapterSheet 0, [((0, 0), "2")]),
      (adapterSheet 1, [((0, 0), "1"), ((0, 0), "9")])] := by
    decide +kernel
  have htaken : ((FolderStore.ofBatches "root" []).putSheet (adapterSheet 0)
      [((0, 0), "2")]).2 = .ok () := by
    decide +kernel
  obtain ⟨hsound', hhas⟩ := hsound.putSheet_ok (by decide) (by decide) htaken
  -- The first sheet is written, and its cell stays when the second is refused.
  have hnew : ((FolderStore.ofBatches "root" []).enterCells conflictingSheets).1.Has
      (adapterSheet 0) (0, 0) "2" := by
    have hfirst := ((hhas _ hnamed).2 (0, 0) "2").mpr (Or.inr ⟨.refl _, List.mem_cons_self⟩)
    rw [FolderStore.enterCells, hgroups, FolderStore.putSheets_cons]
    split
    · next s e hput =>
      rw [hput] at htaken
      cases htaken
    · next s _ hput =>
      rw [hput] at hsound' hfirst
      have hstorable := FolderStore.storableGroup_of_mem_grouped storable_conflictingSheets
      rw [hgroups] at hstorable
      exact hsound'.has_putSheets_of_has (List.forall_mem_cons.mp hstorable).2 hnamed hfirst
  obtain ⟨sheet, hsheet, -, -, hget⟩ := hsound.exists_sheet hnamed
  obtain ⟨sheet', hsheet', -, -, hget'⟩ :=
    (hsound.enterCells storable_conflictingSheets).exists_sheet hnamed
  have heq : sheet' = sheet := Except.ok.inj (hsheet'.symm.trans (hsame.trans hsheet))
  have hold := (hget' 0 0 "2").mpr hnew
  rw [heq, hget] at hold
  exact FolderStore.not_has_empty hnamed hold

end Samples

end Refit
