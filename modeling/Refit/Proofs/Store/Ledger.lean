import Refit.Proofs.Sheet.Order
import Refit.Store.Ledger

/-!
# What the ledger holds

A ledger has one cell at an address at most.  Cells at addresses that are free are all
taken, and nothing else changes; a sheet is got back if all its cells are there.
-/

namespace Refit

section Orders

theorem Scope.eq_of_compare {a b : Scope} (h : compare a b = .eq) : a = b := by
  change (compare a.executionId b.executionId).then _ = .eq at h
  simp only [Ordering.then_eq_eq, Std.LawfulEqOrd.compare_eq_iff_eq] at h
  obtain ⟨hexecution, habstraction, haction, hsheet, hcandidate, hadapter⟩ := h
  cases a
  cases b
  simp_all

theorem Scope.compare_self (a : Scope) : compare a a = .eq := by
  change (compare a.executionId a.executionId).then _ = .eq
  simp

theorem CellAddress.compare_eq_iff {a b : CellAddress} : compare a b = .eq ↔ a = b := by
  change ((compare a.sheet.scope b.sheet.scope).then
    (compare a.sheet.kind.rank b.sheet.kind.rank)).then
      ((compare a.row b.row).then (compare a.column b.column)) = .eq ↔ _
  simp only [Ordering.then_eq_eq, Std.LawfulEqOrd.compare_eq_iff_eq]
  constructor
  · rintro ⟨⟨hscope, hkind⟩, hrow, hcolumn⟩
    obtain ⟨⟨scope, kind⟩, row, column⟩ := a
    obtain ⟨⟨scope', kind'⟩, row', column'⟩ := b
    have hkinds : kind = kind' := by
      cases kind <;> cases kind' <;> first | rfl | cases hkind
    cases Scope.eq_of_compare hscope
    cases hkinds
    cases hrow
    cases hcolumn
    rfl
  · rintro rfl
    exact ⟨⟨Scope.compare_self _, rfl⟩, rfl, rfl⟩

end Orders

section InsertByKey

variable {κ β : Type} [DecidableEq κ] [Ord κ] {key key' : κ} {value : β}
  {entries : List (κ × β)}

theorem lookup_insertByKey
    (hcompare : ∀ a b : κ, compare a b = .eq ↔ a = b) :
    (insertByKey key value entries).lookup key' =
      if key' = key then some value else entries.lookup key' := by
  induction entries with
  | nil =>
      rw [insertByKey, List.lookup_cons]
      by_cases hkey : key' = key
      · simp [hkey]
      · simp [hkey, beq_false_of_ne hkey]
  | cons entry rest ih =>
      obtain ⟨other, held⟩ := entry
      unfold insertByKey
      split
      · rw [List.lookup_cons]
        by_cases hkey : key' = key
        · simp [hkey]
        · simp [hkey, beq_false_of_ne hkey]
      · next hsame =>
        cases (hcompare key other).mp hsame
        rw [List.lookup_cons, List.lookup_cons]
        by_cases hkey : key' = key
        · simp [hkey]
        · simp [hkey, beq_false_of_ne hkey]
      · next hlater =>
        have hne : key ≠ other := by
          intro hsame
          rw [(hcompare key other).mpr hsame] at hlater
          cases hlater
        rw [List.lookup_cons, List.lookup_cons, ih]
        by_cases hkey : key' = key
        · subst hkey
          simp [beq_false_of_ne hne]
        · simp [hkey]

theorem mem_map_fst_insertByKey
    (hcompare : ∀ a b : κ, compare a b = .eq ↔ a = b) :
    key' ∈ (insertByKey key value entries).map Prod.fst ↔
      key' = key ∨ key' ∈ entries.map Prod.fst := by
  induction entries with
  | nil => simp [insertByKey]
  | cons entry rest ih =>
      obtain ⟨other, held⟩ := entry
      unfold insertByKey
      split
      · simp
      · next hsame =>
        simp [(hcompare key other).mp hsame]
      · simp only [List.map_cons, List.mem_cons, ih]
        tauto

theorem nodup_insertByKey
    (hcompare : ∀ a b : κ, compare a b = .eq ↔ a = b)
    (hnodup : (entries.map Prod.fst).Nodup) (hnew : key ∉ entries.map Prod.fst) :
    ((insertByKey key value entries).map Prod.fst).Nodup := by
  induction entries with
  | nil => simp [insertByKey]
  | cons entry rest ih =>
      obtain ⟨other, held⟩ := entry
      obtain ⟨hother, hrest⟩ := List.nodup_cons.mp hnodup
      obtain ⟨hne, hnotin⟩ := List.ne_and_not_mem_of_not_mem_cons hnew
      unfold insertByKey
      split
      · exact List.nodup_cons.mpr ⟨hnew, hnodup⟩
      · next hsame => exact absurd ((hcompare key other).mp hsame) hne
      · refine List.nodup_cons.mpr ⟨?_, ih hrest hnotin⟩
        rw [mem_map_fst_insertByKey hcompare]
        rintro (hsame | hin)
        · exact hne hsame.symm
        · exact hother hin

end InsertByKey

namespace SheetKey

theorem lookup_addressed (key : SheetKey) (s : Sheet) (address : CellAddress) :
    (key.addressed s).lookup address =
      if address.sheet = key then s.get? address.row address.column else none := by
  unfold addressed Sheet.get? cell
  induction s.cells with
  | nil => simp
  | cons entry rest ih =>
      obtain ⟨⟨row, column⟩, text⟩ := entry
      rw [List.map_cons, List.lookup_cons, List.lookup_cons, ih]
      obtain ⟨sheet, row', column'⟩ := address
      by_cases hsheet : sheet = key
      · subst hsheet
        by_cases hplace : (row', column') = (row, column)
        · cases hplace
          simp
        · have hne : (⟨sheet, row', column'⟩ : CellAddress) ≠ ⟨sheet, row, column⟩ := by
            rintro ⟨⟩
            exact hplace rfl
          simp [beq_false_of_ne hplace, beq_false_of_ne hne]
      · have hne : (⟨sheet, row', column'⟩ : CellAddress) ≠ ⟨key, row, column⟩ := by
          rintro ⟨⟩
          exact hsheet rfl
        simp [hsheet, beq_false_of_ne hne]

theorem nodup_addressed {s : Sheet} (hsorted : s.Sorted) (key : SheetKey) :
    ((key.addressed s).map Prod.fst).Nodup := by
  have hkeys : (key.addressed s).map Prod.fst =
      (s.cells.map Prod.fst).map fun place => key.cell place.1 place.2 := by
    unfold addressed
    rw [List.map_map, List.map_map]
    rfl
  rw [hkeys]
  refine hsorted.nodup.map fun place place' hcell => ?_
  unfold cell at hcell
  simp only [CellAddress.mk.injEq, true_and] at hcell
  exact Prod.ext hcell.1 hcell.2

/-- The cells of a batch that are on one sheet, by their places. -/
def cellsIn (key : SheetKey) (cells : List (CellAddress × String)) :
    List ((ℕ × ℕ) × String) :=
  (cells.filter (·.1.sheet == key)).map fun (k, cell) => ((k.row, k.column), cell)

theorem lookup_cellsIn (key : SheetKey) (cells : List (CellAddress × String))
    (row column : ℕ) :
    (key.cellsIn cells).lookup (row, column) = cells.lookup ⟨key, row, column⟩ := by
  unfold cellsIn
  induction cells with
  | nil => rfl
  | cons entry rest ih =>
      obtain ⟨⟨sheet, row', column'⟩, cell⟩ := entry
      rw [List.lookup_cons, List.filter_cons]
      by_cases hsheet : sheet = key
      · subst hsheet
        simp only [beq_self_eq_true, if_true, List.map_cons]
        rw [List.lookup_cons, ih]
        by_cases hplace : (row, column) = (row', column')
        · cases hplace
          simp
        · have hne : (⟨sheet, row, column⟩ : CellAddress) ≠ ⟨sheet, row', column'⟩ := by
            rintro ⟨⟩
            exact hplace rfl
          simp [beq_false_of_ne hplace, beq_false_of_ne hne]
      · have hne : (⟨key, row, column⟩ : CellAddress) ≠ ⟨sheet, row', column'⟩ := by
          rintro ⟨⟩
          exact hsheet rfl
        simp [hsheet, beq_false_of_ne hne, ih]

end SheetKey

namespace Ledger

variable {s : Ledger}

/-- There is one cell at an address at most. -/
def Single (s : Ledger) : Prop := (s.cells.map Prod.fst).Nodup

/-- Cells at free addresses are all taken. -/
theorem enterCells_of_free
    (hsingle : s.Single) {cells : List (CellAddress × String)}
    (hnodup : (cells.map Prod.fst).Nodup)
    (hfree : ∀ address ∈ cells.map Prod.fst, s.get? address = none) :
    ∃ s', s.enterCells cells = (s', .ok ()) ∧ s'.Single ∧ s'.reports = s.reports ∧
      ∀ address, s'.get? address = (cells.lookup address).or (s.get? address) := by
  induction cells generalizing s with
  | nil => exact ⟨s, rfl, hsingle, rfl, fun _ => rfl⟩
  | cons entry rest ih =>
      obtain ⟨address, cell⟩ := entry
      obtain ⟨hnew, hrest⟩ := List.nodup_cons.mp hnodup
      have hnone : s.get? address = none := hfree address List.mem_cons_self
      have hnotin : address ∉ s.cells.map Prod.fst := lookup_eq_none_iff_keys.mp hnone
      let first : Ledger := { s with cells := insertByKey address cell s.cells }
      have hget : ∀ other, first.get? other =
          if other = address then some cell else s.get? other :=
        fun other => lookup_insertByKey fun _ _ => CellAddress.compare_eq_iff
      have hfree' : ∀ other ∈ rest.map Prod.fst, first.get? other = none := by
        intro other hother
        have hne : other ≠ address := by
          rintro rfl
          exact hnew hother
        rw [hget, if_neg hne]
        exact hfree other (List.mem_cons_of_mem _ hother)
      have hsingle' : first.Single :=
        nodup_insertByKey (fun _ _ => CellAddress.compare_eq_iff) hsingle hnotin
      obtain ⟨s', henter, hsingle', hreports, hheld⟩ := ih hsingle' hrest hfree'
      refine ⟨s', ?_, hsingle', hreports, fun other => ?_⟩
      · rw [enterCells, hnone]
        exact henter
      · rw [hheld, hget, List.lookup_cons]
        by_cases hsame : other = address
        · subst hsame
          have hlookup : rest.lookup other = none := lookup_eq_none_iff_keys.mpr hnew
          simp [hlookup]
        · simp [hsame, beq_false_of_ne hsame]

/-- Cells that are taken are there afterwards, as are those that were there before. -/
theorem get?_of_enterCells
    {cells : List (CellAddress × String)} {s' : Ledger}
    (henter : s.enterCells cells = (s', .ok ())) :
    (∀ address cell, s.get? address = some cell → s'.get? address = some cell) ∧
      ∀ entry ∈ cells, s'.get? entry.1 = some entry.2 := by
  induction cells generalizing s with
  | nil =>
      cases henter
      exact ⟨fun _ _ hcell => hcell, by simp⟩
  | cons entry rest ih =>
      obtain ⟨key, cell⟩ := entry
      rw [enterCells] at henter
      split at henter
      · next held hheld =>
        split at henter
        · next hsame =>
          subst hsame
          obtain ⟨hkept, hrest⟩ := ih henter
          exact ⟨hkept, List.forall_mem_cons.mpr ⟨hkept key held hheld, hrest⟩⟩
        · cases henter
      · next hfree =>
        obtain ⟨hkept, hrest⟩ := ih henter
        have hget : ∀ address, get? { s with cells := insertByKey key cell s.cells } address =
            if address = key then some cell else s.get? address :=
          fun _ => lookup_insertByKey fun _ _ => CellAddress.compare_eq_iff
        refine ⟨fun address other hother => hkept address other ?_,
          List.forall_mem_cons.mpr ⟨hkept key cell ?_, hrest⟩⟩
        · rw [hget, if_neg, hother]
          rintro rfl
          rw [hfree] at hother
          cases hother
        · rw [hget, if_pos rfl]

/-- Cells that are there already are taken again. -/
theorem enterCells_of_held
    {cells : List (CellAddress × String)}
    (hheld : ∀ entry ∈ cells, s.get? entry.1 = some entry.2) :
    s.enterCells cells = (s, .ok ()) := by
  induction cells with
  | nil => rfl
  | cons entry rest ih =>
      obtain ⟨hfirst, hrest⟩ := List.forall_mem_cons.mp hheld
      obtain ⟨key, cell⟩ := entry
      rw [enterCells, hfirst]
      simp only [if_true]
      exact ih hrest

theorem enterCells_again
    {cells : List (CellAddress × String)} {s' : Ledger}
    (henter : s.enterCells cells = (s', .ok ())) : s'.enterCells cells = (s', .ok ()) :=
  enterCells_of_held (get?_of_enterCells henter).2

/-- A sheet is entered where there is none, and nothing else changes. -/
theorem enterSheet_of_free
    (hsingle : s.Single) (key : SheetKey) {sheet : Sheet} (hsorted : sheet.Sorted)
    (hfree : ∀ row column, s.get? ⟨key, row, column⟩ = none) :
    ∃ s', s.enterCells (key.addressed sheet) = (s', .ok ()) ∧ s'.Single ∧
      s'.reports = s.reports ∧ ∀ address, s'.get? address =
        if address.sheet = key then sheet.get? address.row address.column
        else s.get? address := by
  have hunwritten : ∀ address ∈ (key.addressed sheet).map Prod.fst,
      s.get? address = none := by
    intro address haddress
    unfold SheetKey.addressed at haddress
    rw [List.map_map] at haddress
    obtain ⟨entry, -, rfl⟩ := List.mem_map.mp haddress
    exact hfree _ _
  obtain ⟨s', henter, hsingle', hreports, hget⟩ :=
    enterCells_of_free hsingle (SheetKey.nodup_addressed hsorted key) hunwritten
  refine ⟨s', henter, hsingle', hreports, fun address => ?_⟩
  rw [hget, SheetKey.lookup_addressed]
  split_ifs with hsheet
  · have hnone : s.get? address = none := by
      obtain ⟨sheet', row, column⟩ := address
      cases hsheet
      exact hfree row column
    rw [hnone]
    exact Option.or_none
  · rfl

/-- A sheet of the ledger holds what the ledger holds at its addresses. -/
theorem get?_sheet (hsingle : s.Single) (key : SheetKey) (row column : ℕ) :
    (s.sheet key).get? row column = s.get? ⟨key, row, column⟩ := by
  have hnodup : (((s.cells.filter (·.1.sheet == key)).map fun (k, cell) =>
      ((k.row, k.column), cell)).map Prod.fst).Nodup := by
    have hkept : ((s.cells.filter (·.1.sheet == key)).map Prod.fst).Nodup :=
      hsingle.sublist (List.Sublist.map _ List.filter_sublist)
    rw [List.map_map]
    have hcompose : (Prod.fst ∘ fun ((k, cell) : CellAddress × String) =>
        ((k.row, k.column), cell)) = fun entry => (entry.1.row, entry.1.column) := rfl
    rw [hcompose]
    rw [List.nodup_iff_pairwise_ne, List.pairwise_map] at hkept ⊢
    refine hkept.imp_of_mem fun {a b} ha hb hne hplace => hne ?_
    have hsheeta : a.1.sheet = key := by simpa using (List.mem_filter.mp ha).2
    have hsheetb : b.1.sheet = key := by simpa using (List.mem_filter.mp hb).2
    obtain ⟨⟨asheet, arow, acolumn⟩, acell⟩ := a
    obtain ⟨⟨bsheet, brow, bcolumn⟩, bcell⟩ := b
    cases hsheeta
    cases hsheetb
    cases hplace
    rfl
  unfold Ledger.sheet
  rw [Sheet.get?_ofCells _ hnodup]
  exact SheetKey.lookup_cellsIn key s.cells row column

/-- A sheet whose cells are there, and no others at its addresses, is got back. -/
theorem sheet_eq
    (hsingle : s.Single) {key : SheetKey} {sheet : Sheet}
    (hname : sheet.name = key.scope.sheetId) (hsorted : sheet.Sorted)
    (hget : ∀ row column, s.get? ⟨key, row, column⟩ = sheet.get? row column) :
    s.sheet key = sheet := by
  refine Sheet.Sorted.eq_of_get? (Sheet.ofCells_sorted _ _) hsorted hname.symm ?_
  intro row column
  exact (get?_sheet hsingle key row column).trans (hget row column)

theorem report?_enterReport
    (s : Ledger) (execution candidate : String) (report : FittingReport)
    (execution' candidate' : String) :
    (s.enterReport execution candidate report).report? execution' candidate' =
      if (execution', candidate') = (execution, candidate) then some report
      else s.report? execution' candidate' := by
  unfold report? enterReport
  rw [List.lookup_cons]
  by_cases hkey : (execution', candidate') = (execution, candidate)
  · simp [hkey]
  · simp only [beq_false_of_ne hkey, if_neg hkey]
    exact lookup_filter_ne hkey

end Ledger

end Refit
