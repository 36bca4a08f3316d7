import Refit.Proofs.Execution.Sights
import Refit.Proofs.Sheet.Paired

/-!
# The order of cells

The cells of a sheet stand row by row, each place once, so a sheet is known by its name
and by what it holds in each place.  A recorder keeps the order and the name.
-/

namespace Refit

namespace Sheet

theorem before_iff {a b : ℕ × ℕ} :
    before a b = true ↔ a.1 < b.1 ∨ a.1 = b.1 ∧ a.2 < b.2 := by
  unfold before
  simp

theorem ne_of_before {a b : ℕ × ℕ} (h : before a b = true) : a ≠ b := by
  rintro rfl
  rw [before_iff] at h
  omega

theorem before_trans
    {a b c : ℕ × ℕ} (hab : before a b = true) (hbc : before b c = true) :
    before a c = true := by
  rw [before_iff] at *
  omega

theorem before_of_not_before
    {a b : ℕ × ℕ} (hne : a ≠ b) (hnot : ¬ before a b = true) : before b a = true := by
  rw [before_iff] at *
  have hcomponents : ¬ (a.1 = b.1 ∧ a.2 = b.2) := fun h => hne (Prod.ext h.1 h.2)
  omega

/-- The cells stand row by row. -/
def SortedCells (cells : List ((ℕ × ℕ) × String)) : Prop :=
  cells.Pairwise fun a b => before a.1 b.1 = true

def Sorted (s : Sheet) : Prop := SortedCells s.cells

variable {key : ℕ × ℕ} {cell : String} {cells cells' : List ((ℕ × ℕ) × String)}

theorem SortedCells.insertCell (h : SortedCells cells) :
    SortedCells (insertCell key cell cells) := by
  induction cells with
  | nil => exact List.pairwise_singleton _ _
  | cons entry rest ih =>
      obtain ⟨other, held⟩ := entry
      obtain ⟨hhead, hrest⟩ := List.pairwise_cons.mp h
      unfold Sheet.insertCell
      split_ifs with hsame hbefore
      · exact List.pairwise_cons.mpr ⟨fun entry hentry => hsame ▸ hhead entry hentry, hrest⟩
      · refine List.pairwise_cons.mpr ⟨fun entry hentry => ?_, h⟩
        rcases List.mem_cons.mp hentry with rfl | hin
        · exact hbefore
        · exact before_trans hbefore (hhead entry hin)
      · refine List.pairwise_cons.mpr ⟨fun entry hentry => ?_, ih hrest⟩
        have hkey : entry.1 ∈ (Sheet.insertCell key cell rest).map Prod.fst :=
          List.mem_map_of_mem hentry
        rcases mem_map_fst_insertCell.mp hkey with hnew | hold
        · rw [hnew]
          exact before_of_not_before hsame hbefore
        · obtain ⟨old, hin, hold⟩ := List.mem_map.mp hold
          rw [← hold]
          exact hhead old hin

theorem SortedCells.nodup (h : SortedCells cells) : (cells.map Prod.fst).Nodup := by
  rw [List.nodup_iff_pairwise_ne, List.pairwise_map]
  exact h.imp ne_of_before

theorem SortedCells.eq_of_lookup
    (h : SortedCells cells) (h' : SortedCells cells')
    (hlookup : ∀ key, cells.lookup key = cells'.lookup key) : cells = cells' := by
  have hperm : cells.Perm cells' := by
    refine (List.perm_ext_iff_of_nodup h.nodup.of_map h'.nodup.of_map).mpr ?_
    rintro ⟨key, cell⟩
    rw [mem_iff_lookup h.nodup, mem_iff_lookup h'.nodup, hlookup]
  refine hperm.eq_of_pairwise (fun a b _ _ hab hba => ?_) h h'
  exact absurd rfl (ne_of_before (before_trans hab hba))

theorem Sorted.eq_of_get?
    {s s' : Sheet} (h : s.Sorted) (h' : s'.Sorted) (hname : s.name = s'.name)
    (hget : ∀ row column, s.get? row column = s'.get? row column) : s = s' := by
  obtain ⟨name, cells⟩ := s
  obtain ⟨name', cells'⟩ := s'
  cases hname
  have hcells : cells = cells' :=
    SortedCells.eq_of_lookup h h' fun key => hget key.1 key.2
  rw [hcells]

section OfCells

theorem sorted_foldl_insertCell (more : List ((ℕ × ℕ) × String)) (h : SortedCells cells) :
    SortedCells (more.foldl (fun done (key, cell) => insertCell key cell done) cells) := by
  induction more generalizing cells with
  | nil => exact h
  | cons entry rest ih => exact ih h.insertCell

theorem lookup_foldl_insertCell
    {more : List ((ℕ × ℕ) × String)} (hnodup : (more.map Prod.fst).Nodup) (key : ℕ × ℕ) :
    (more.foldl (fun done (key, cell) => insertCell key cell done) cells).lookup key =
      (more.lookup key).or (cells.lookup key) := by
  induction more generalizing cells with
  | nil => rfl
  | cons entry rest ih =>
      obtain ⟨other, cell⟩ := entry
      obtain ⟨hnew, hrest⟩ := List.nodup_cons.mp hnodup
      rw [List.foldl_cons, ih hrest, lookup_insertCell, List.lookup_cons]
      by_cases hkey : key = other
      · subst hkey
        have hnone : rest.lookup key = none := lookup_eq_none_iff_keys.mpr hnew
        simp [hnone]
      · simp [hkey, beq_false_of_ne hkey]

theorem ofCells_sorted (name : String) (cells : List ((ℕ × ℕ) × String)) :
    (ofCells name cells).Sorted :=
  sorted_foldl_insertCell cells List.Pairwise.nil

theorem get?_ofCells
    (name : String) (hnodup : (cells.map Prod.fst).Nodup) (row column : ℕ) :
    (ofCells name cells).get? row column = cells.lookup (row, column) := by
  unfold get? ofCells
  rw [lookup_foldl_insertCell hnodup]
  exact Option.or_none

/-- Cells that are in order already are those of the sheet. -/
theorem SortedCells.cells_ofCells (h : SortedCells cells) (name : String) :
    (ofCells name cells).cells = cells :=
  (ofCells_sorted name cells).eq_of_lookup h fun key => get?_ofCells name h.nodup key.1 key.2

end OfCells

end Sheet

namespace Recording

variable {r : Recording} {P : Sheet → Prop}

/-- Both sheets have a property. -/
def Both (P : Sheet → Prop) (r : Recording) : Prop := P r.actuation ∧ P r.adapted

section Kept

variable (hput : ∀ s row column cell s', P s → Sheet.put s row column cell = .ok s' → P s')
include hput

theorem Both.putAdapted (h : r.Both P) (row column : ℕ) (cell : String) :
    (r.putAdapted row column cell).1.Both P := by
  unfold Recording.putAdapted putOn
  split
  · next s hs => exact ⟨h.1, hput _ _ _ _ _ h.2 hs⟩
  · exact h

theorem Both.putActuation (h : r.Both P) (row column : ℕ) (cell : String) :
    (r.putActuation row column cell).1.Both P := by
  unfold Recording.putActuation putOn
  split
  · next s hs => exact ⟨hput _ _ _ _ _ h.1 hs, h.2⟩
  · exact h

theorem Both.enterBoth (h : r.Both P) (row column : ℕ) (cell : String) :
    (r.enterBoth row column cell).1.Both P := by
  have hfirst := h.putAdapted hput row column cell
  unfold Recording.enterBoth
  split
  · next hresult =>
    rw [hresult] at hfirst
    exact hfirst
  · next hresult =>
    rw [hresult] at hfirst
    exact hfirst.putActuation hput row column cell

theorem Both.putRow (h : r.Both P) (row column : ℕ) (cells : List String) :
    (r.putRow row column cells).1.Both P := by
  induction cells generalizing r column with
  | nil => exact h
  | cons cell rest ih =>
      have hfirst := h.enterBoth hput row column cell
      unfold Recording.putRow
      split
      · next hresult =>
        rw [hresult] at hfirst
        exact hfirst
      · next hresult =>
        rw [hresult] at hfirst
        exact ih hfirst (column + 1)

theorem Both.enterOperation (h : r.Both P) (row : ℕ) (actuation adapted : String) :
    (r.enterOperation row actuation adapted).1.Both P := by
  have hfirst := h.putActuation hput row Sheet.operationColumn actuation
  unfold Recording.enterOperation
  split
  · next hresult =>
    rw [hresult] at hfirst
    exact hfirst
  · next hresult =>
    rw [hresult] at hfirst
    exact hfirst.putAdapted hput row Sheet.operationColumn adapted

theorem Both.after
    (h : r.Both P) (host : Host) (heap : Heap) (run : Run) (s : RunStep) :
    (Recording.after host heap run s r).1.Both P := by
  rw [after_eq]
  cases s.output with
  | none => exact h.enterOperation hput _ _ _
  | some output =>
      have hwritten := h.enterBoth hput s.step.position Sheet.outputColumn
        (CellText.Encoder.output ⟨run.producers, host, heap⟩ output)
      simp only
      split
      · next hresult =>
        rw [hresult] at hwritten
        exact hwritten
      · next hresult =>
        rw [hresult] at hwritten
        exact hwritten.enterOperation hput _ _ _

/-- What writing a cell keeps of a sheet holds of both sheets of a recorded run. -/
theorem both_of_recorded
    (p : Runner) (host : Host) (sequence : Sequence) (heap : Heap) (h : r.Both P) :
    (p.execute (Observer.recorder host) sequence heap r).visitor.Both P :=
  p.executeFrom_visitor_invariant (fun _ _ _ _ _ h => h.putRow hput _ _ _)
    (fun _ _ _ _ h => h.after hput _ _ _ _) _ _ _ h

end Kept

/-- A recorded sheet has the name that it was begun with, and its cells are in order. -/
theorem recorded_sorted
    (p : Runner) (host : Host) (sequence : Sequence) (heap : Heap) (name : String) :
    (p.execute (Observer.recorder host) sequence heap (empty name)).visitor.Both
      fun s => s.name = name ∧ s.Sorted := by
  refine both_of_recorded ?_ p host sequence heap ⟨⟨rfl, .nil⟩, ⟨rfl, .nil⟩⟩
  rintro s row column cell s' ⟨hname, hsorted⟩ hput
  unfold Sheet.put at hput
  split at hput
  · cases hput
  · cases hput
    exact ⟨hname, hsorted.insertCell⟩

end Recording

end Refit
