import Refit.Proofs.Association
import Refit.Sheet.Recorder

/-!
# The two sheets go together

Every cell is written on both sheets, first on one and then on the other.  A cell
that is refused by the first is not tried on the second, and the second never
refuses what the first has taken.  So the same places are written on both at any
time, whatever the recorder is shown and in whatever order, and but for the names
of operations the same cells stand there.
-/

namespace Refit

namespace Sheet

variable {s s' : Sheet} {row column : ℕ} {cell : String}
  {cells cells' : List ((ℕ × ℕ) × String)} {key : ℕ × ℕ}

/-- The places that are written, in their order. -/
def keys (s : Sheet) : List (ℕ × ℕ) := s.cells.map Prod.fst

/-- A cell stands in this place. -/
def Holds (s : Sheet) (row column : ℕ) : Prop := (row, column) ∈ s.keys

theorem get?_eq_none_iff : s.get? row column = none ↔ ¬ s.Holds row column :=
  lookup_eq_none_iff_keys

theorem lookup_insertCell (key' : ℕ × ℕ) :
    (insertCell key cell cells).lookup key' =
      if key' = key then some cell else cells.lookup key' := by
  induction cells with
  | nil =>
      rw [insertCell, List.lookup_cons]
      by_cases hkey : key' = key
      · simp [hkey]
      · simp [hkey, beq_false_of_ne hkey]
  | cons entry rest ih =>
      obtain ⟨other, held⟩ := entry
      unfold insertCell
      by_cases hkey : key' = key
      · subst hkey
        rw [if_pos rfl]
        split_ifs with hother hbefore
        · rw [List.lookup_cons, beq_self_eq_true]
        · rw [List.lookup_cons, beq_self_eq_true]
        · rw [List.lookup_cons, beq_false_of_ne hother, ih, if_pos rfl]
      · rw [if_neg hkey] at ih ⊢
        split_ifs with hother hbefore
        · subst hother
          rw [List.lookup_cons, List.lookup_cons, beq_false_of_ne hkey]
        · rw [List.lookup_cons, beq_false_of_ne hkey]
        · rw [List.lookup_cons, List.lookup_cons, ih]

theorem mem_map_fst_insertCell {key' : ℕ × ℕ} :
    key' ∈ (insertCell key cell cells).map Prod.fst ↔
      key' = key ∨ key' ∈ cells.map Prod.fst := by
  induction cells with
  | nil => simp [insertCell]
  | cons entry rest ih =>
      obtain ⟨other, held⟩ := entry
      unfold insertCell
      split_ifs with hother hbefore
      · simp [hother]
      · simp
      · simp only [List.map_cons, List.mem_cons, ih]
        tauto

/-- Where a cell is put depends on the places alone. -/
theorem map_fst_insertCell_congr
    {cell cell' : String} (hkeys : cells.map Prod.fst = cells'.map Prod.fst) :
    (insertCell key cell cells).map Prod.fst =
      (insertCell key cell' cells').map Prod.fst := by
  induction cells generalizing cells' with
  | nil =>
      rw [List.map_nil, eq_comm, List.map_eq_nil_iff] at hkeys
      rw [hkeys]
      rfl
  | cons entry rest ih =>
      cases cells' with
      | nil => cases hkeys
      | cons entry' rest' =>
          obtain ⟨other, held⟩ := entry
          obtain ⟨other', held'⟩ := entry'
          simp only [List.map_cons, List.cons.injEq] at hkeys
          obtain ⟨rfl, hrest⟩ := hkeys
          unfold insertCell
          split_ifs
          · simp [hrest]
          · simp [hrest]
          · simp [ih hrest]

theorem put_of_not_holds
    (hfree : ¬ s.Holds row column) (cell : String) :
    s.put row column cell =
      .ok { s with cells := insertCell (row, column) cell s.cells } := by
  unfold put
  rw [get?_eq_none_iff.mpr hfree]

theorem exists_put_of_holds
    (hheld : s.Holds row column) (cell : String) :
    ∃ held, s.put row column cell = .error (.occupiedCell row column s.name held) := by
  unfold put
  cases hget : s.get? row column with
  | none => exact absurd hheld (get?_eq_none_iff.mp hget)
  | some held => exact ⟨held, rfl⟩

end Sheet

namespace Recording

variable {r : Recording} {row column : ℕ} {cell : String}

/-- The same places are written on both sheets, and but for the names of operations
the same cells stand there. -/
structure Paired (r : Recording) : Prop where
  keys : r.actuation.keys = r.adapted.keys
  cells : ∀ row column, column ≠ Sheet.operationColumn →
    r.actuation.get? row column = r.adapted.get? row column

/-- A cell stands in this place. -/
def Holds (r : Recording) (row column : ℕ) : Prop := r.actuation.Holds row column

theorem Paired.holds_adapted (h : r.Paired) :
    r.adapted.Holds row column ↔ r.Holds row column := by
  unfold Recording.Holds Sheet.Holds
  rw [h.keys]

theorem paired_empty (name : String) : (empty name).Paired := ⟨rfl, fun _ _ _ => rfl⟩

theorem not_holds_empty (name : String) : ¬ (empty name).Holds row column := by
  unfold Holds Sheet.Holds Sheet.keys empty
  simp

/-- A recording with one more place on both sheets. -/
def adding (r : Recording) (row column : ℕ) (actuation adapted : String) : Recording where
  actuation :=
    { r.actuation with
      cells := Sheet.insertCell (row, column) actuation r.actuation.cells }
  adapted :=
    { r.adapted with cells := Sheet.insertCell (row, column) adapted r.adapted.cells }

theorem holds_adding {actuation adapted : String} {row' column' : ℕ} :
    (r.adding row column actuation adapted).Holds row' column' ↔
      (row' = row ∧ column' = column) ∨ r.Holds row' column' := by
  unfold Holds Sheet.Holds Sheet.keys adding
  rw [Sheet.mem_map_fst_insertCell, Prod.mk.injEq]

theorem Paired.adding
    (h : r.Paired) {actuation adapted : String}
    (hcells : column ≠ Sheet.operationColumn → actuation = adapted) :
    (r.adding row column actuation adapted).Paired where
  keys := Sheet.map_fst_insertCell_congr h.keys
  cells row' column' hcolumn := by
    have hold := h.cells row' column' hcolumn
    unfold Sheet.get? Recording.adding at *
    simp only [Sheet.lookup_insertCell, Prod.mk.injEq]
    split_ifs with hplace
    · rw [hcells (hplace.2 ▸ hcolumn)]
    · exact hold

/-- A cell is refused by the first sheet or taken by both. -/
theorem Paired.enterBoth_cases (h : r.Paired) (row column : ℕ) (cell : String) :
    (r.Holds row column ∧ ∃ e, r.enterBoth row column cell = (r, .error e)) ∨
      ¬ r.Holds row column ∧
        r.enterBoth row column cell = (r.adding row column cell cell, .ok ()) := by
  unfold enterBoth putAdapted putActuation putOn
  by_cases hheld : r.Holds row column
  · obtain ⟨held, hput⟩ := Sheet.exists_put_of_holds (h.holds_adapted.mpr hheld) cell
    rw [hput]
    exact .inl ⟨hheld, _, rfl⟩
  · have hfree : ¬ r.adapted.Holds row column := fun hold => hheld (h.holds_adapted.mp hold)
    rw [Sheet.put_of_not_holds hfree]
    simp only
    rw [Sheet.put_of_not_holds hheld]
    exact .inr ⟨hheld, rfl⟩

/-- The two names of an operation, written at the end. -/
def enterOperation (r : Recording) (row : ℕ) (actuation adapted : String) :
    Recording × Except Error Unit :=
  match r.putActuation row Sheet.operationColumn actuation with
  | (r, .error error) => (r, .error error)
  | (r, .ok _) => r.putAdapted row Sheet.operationColumn adapted

theorem Paired.enterOperation_cases
    (h : r.Paired) (row : ℕ) (actuation adapted : String) :
    (r.Holds row Sheet.operationColumn ∧
        ∃ e, r.enterOperation row actuation adapted = (r, .error e)) ∨
      ¬ r.Holds row Sheet.operationColumn ∧
        r.enterOperation row actuation adapted =
          (r.adding row Sheet.operationColumn actuation adapted, .ok ()) := by
  unfold enterOperation putAdapted putActuation putOn
  by_cases hheld : r.Holds row Sheet.operationColumn
  · obtain ⟨held, hput⟩ := Sheet.exists_put_of_holds hheld actuation
    rw [hput]
    exact .inl ⟨hheld, _, rfl⟩
  · have hfree : ¬ r.adapted.Holds row Sheet.operationColumn :=
      fun hold => hheld (h.holds_adapted.mp hold)
    rw [Sheet.put_of_not_holds hheld]
    simp only
    rw [Sheet.put_of_not_holds hfree]
    exact .inr ⟨hheld, rfl⟩

theorem Paired.enterBoth (h : r.Paired) (row column : ℕ) (cell : String) :
    (r.enterBoth row column cell).1.Paired := by
  obtain ⟨-, e, hrefused⟩ | ⟨-, htaken⟩ := h.enterBoth_cases row column cell
  · rw [hrefused]
    exact h
  · rw [htaken]
    exact h.adding fun _ => rfl

theorem Paired.putRow (h : r.Paired) (row column : ℕ) (cells : List String) :
    (r.putRow row column cells).1.Paired := by
  induction cells generalizing r column with
  | nil => exact h
  | cons cell rest ih =>
      have hfirst := h.enterBoth row column cell
      unfold Recording.putRow
      split
      · next hput =>
        rw [hput] at hfirst
        exact hfirst
      · next hput =>
        rw [hput] at hfirst
        exact ih hfirst (column + 1)

/-- Where a row is free from a column on, all cells are taken. -/
theorem Paired.putRow_of_free
    (h : r.Paired) (cells : List String)
    (hfree : ∀ later, column ≤ later → ¬ r.Holds row later) :
    ∃ r', r.putRow row column cells = (r', .ok ()) ∧ r'.Paired ∧
      ∀ row' column', r'.Holds row' column' ↔ r.Holds row' column' ∨
        row' = row ∧ column ≤ column' ∧ column' < column + cells.length := by
  induction cells generalizing r column with
  | nil =>
      refine ⟨r, rfl, h, fun row' column' => ?_⟩
      simp only [List.length_nil]
      constructor
      · exact .inl
      · rintro (hheld | ⟨-, hle, hlt⟩)
        · exact hheld
        · omega
  | cons cell rest ih =>
      obtain ⟨hheld, -⟩ | ⟨-, htaken⟩ := h.enterBoth_cases row column cell
      · exact absurd hheld (hfree column le_rfl)
      have hadded : (r.adding row column cell cell).Paired := h.adding fun _ => rfl
      have hfree' : ∀ later, column + 1 ≤ later →
          ¬ (r.adding row column cell cell).Holds row later := by
        intro later hlater
        rw [holds_adding]
        rintro (⟨-, rfl⟩ | hheld)
        · omega
        · exact hfree later (by omega) hheld
      obtain ⟨r', hrest, hpaired, hholds⟩ := ih hadded hfree'
      refine ⟨r', ?_, hpaired, fun row' column' => ?_⟩
      · unfold Recording.putRow
        rw [htaken]
        exact hrest
      · rw [hholds, holds_adding, List.length_cons]
        constructor
        · rintro ((⟨rfl, rfl⟩ | hheld) | ⟨rfl, hle, hlt⟩)
          · exact .inr ⟨rfl, le_rfl, by omega⟩
          · exact .inl hheld
          · exact .inr ⟨rfl, by omega, by omega⟩
        · rintro (hheld | ⟨rfl, hle, hlt⟩)
          · exact .inl (.inr hheld)
          · rcases hle.eq_or_lt with rfl | hgt
            · exact .inl (.inl ⟨rfl, rfl⟩)
            · exact .inr ⟨rfl, by omega, by omega⟩

theorem after_eq
    (host : Host) (heap : Heap) (run : Run) (s : RunStep) (r : Recording) :
    after host heap run s r =
      match
        match s.output with
        | some output =>
          r.enterBoth s.step.position Sheet.outputColumn
            (CellText.Encoder.output ⟨run.producers, host, heap⟩ output)
        | none => (r, .ok ()) with
      | (r, .error error) => (r, .error error)
      | (r, .ok _) =>
        r.enterOperation s.step.position (CellText.ofText s.nominal)
          (CellText.ofText (s.adapted.getD s.nominal)) := by
  unfold after enterOperation
  cases s.output with
  | none => rfl
  | some output =>
      simp only
      generalize r.enterBoth s.step.position Sheet.outputColumn _ = written
      obtain ⟨r', e | done⟩ := written
      · rfl
      · rfl

theorem Paired.before
    (h : r.Paired) (host : Host) (heap : Heap) (run : Run) (s : RunStep) :
    (Recording.before host heap run s r).1.Paired :=
  h.putRow _ _ _

theorem Paired.enterOperation (h : r.Paired) (row : ℕ) (actuation adapted : String) :
    (r.enterOperation row actuation adapted).1.Paired := by
  obtain ⟨-, e, hrefused⟩ | ⟨-, htaken⟩ := h.enterOperation_cases row actuation adapted
  · rw [hrefused]
    exact h
  · rw [htaken]
    exact h.adding fun hne => absurd rfl hne

theorem Paired.after
    (h : r.Paired) (host : Host) (heap : Heap) (run : Run) (s : RunStep) :
    (Recording.after host heap run s r).1.Paired := by
  rw [after_eq]
  cases s.output with
  | none => exact h.enterOperation _ _ _
  | some output =>
      have hwritten := h.enterBoth s.step.position Sheet.outputColumn
        (CellText.Encoder.output ⟨run.producers, host, heap⟩ output)
      simp only
      split
      · next hput =>
        rw [hput] at hwritten
        exact hwritten
      · next hput =>
        rw [hput] at hwritten
        exact hwritten.enterOperation _ _ _

/-- One look of the recorder at a step, before or after. -/
inductive Look where
  | before (heap : Heap) (run : Run) (s : RunStep)
  | after (heap : Heap) (run : Run) (s : RunStep)

/-- The recording after a look, whether the look is refused or not. -/
def look (host : Host) (r : Recording) : Look → Recording
  | .before heap run s => (Recording.before host heap run s r).1
  | .after heap run s => (Recording.after host heap run s r).1

/-- The recording after looks in any order. -/
def looks (host : Host) (r : Recording) (seen : List Look) : Recording :=
  seen.foldl (look host) r

theorem Paired.looks (h : r.Paired) (host : Host) (seen : List Look) :
    (r.looks host seen).Paired := by
  induction seen generalizing r with
  | nil => exact h
  | cons first rest ih =>
      cases first with
      | before heap run s => exact ih (h.before host heap run s)
      | after heap run s => exact ih (h.after host heap run s)

end Recording

end Refit
