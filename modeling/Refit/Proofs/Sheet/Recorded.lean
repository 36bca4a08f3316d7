import Refit.Proofs.Execution.Sights
import Refit.Sheet.Recorder

/-!
# Where the cells of a sheet come from

The recorder writes at each sight of a run: the target and the inputs of a step
before it runs, its output afterwards.  Nothing else stands on the two sheets, but
for the names of operations.
-/

namespace Refit

def Sight.encoder (sight : Sight) (host : Host) : CellText.Encoder :=
  ⟨sight.run.producers, host, sight.heap⟩

/-- The cells for what a sight shows, by column. -/
def Sight.cells (sight : Sight) (host : Host) : List (ℕ × String) :=
  match sight.step.output with
  | none =>
    ((Recording.targetCell (sight.encoder host) sight.step ::
      sight.step.inputs.map (sight.encoder host).value).zipIdx Sheet.targetColumn).map Prod.swap
  | some output => [(Sheet.outputColumn, (sight.encoder host).output output)]

theorem Sheet.mem_insertCell
    {key : ℕ × ℕ} {cell : String} {cells : List ((ℕ × ℕ) × String)}
    {entry : (ℕ × ℕ) × String} (hentry : entry ∈ insertCell key cell cells) :
    entry = (key, cell) ∨ entry ∈ cells := by
  induction cells with
  | nil => exact .inl (List.mem_singleton.mp hentry)
  | cons other rest ih =>
      obtain ⟨place, held⟩ := other
      unfold insertCell at hentry
      split_ifs at hentry
      · exact (List.mem_cons.mp hentry).imp_right (List.mem_cons_of_mem _)
      · exact List.mem_cons.mp hentry
      · rcases List.mem_cons.mp hentry with rfl | hentry
        · exact .inr List.mem_cons_self
        · exact (ih hentry).imp_right (List.mem_cons_of_mem _)

namespace Recording

variable {P Q : ℕ → ℕ → String → Prop} {r : Recording} {row column : ℕ} {cell : String}

/-- Cells outside the column of operations have the property. -/
def Only (P : ℕ → ℕ → String → Prop) (r : Recording) : Prop :=
  ∀ sheet ∈ [r.actuation, r.adapted], ∀ entry ∈ sheet.cells,
    entry.1.2 ≠ Sheet.operationColumn → P entry.1.1 entry.1.2 entry.2

theorem Only.mono
    (h : r.Only P) (hPQ : ∀ row column cell, P row column cell → Q row column cell) :
    r.Only Q :=
  fun sheet hsheet entry hentry hcolumn => hPQ _ _ _ (h sheet hsheet entry hentry hcolumn)

theorem only_iff :
    r.Only P ↔
      (∀ entry ∈ r.actuation.cells,
        entry.1.2 ≠ Sheet.operationColumn → P entry.1.1 entry.1.2 entry.2) ∧
      ∀ entry ∈ r.adapted.cells,
        entry.1.2 ≠ Sheet.operationColumn → P entry.1.1 entry.1.2 entry.2 := by
  simp [Only]

theorem only_put
    {sheet sheet' : Sheet} (hput : sheet.put row column cell = .ok sheet')
    (hsheet : ∀ entry ∈ sheet.cells,
      entry.1.2 ≠ Sheet.operationColumn → P entry.1.1 entry.1.2 entry.2)
    (hcell : column ≠ Sheet.operationColumn → P row column cell) :
    ∀ entry ∈ sheet'.cells,
      entry.1.2 ≠ Sheet.operationColumn → P entry.1.1 entry.1.2 entry.2 := by
  intro entry hentry
  unfold Sheet.put at hput
  split at hput
  · cases hput
  cases hput
  rcases Sheet.mem_insertCell hentry with rfl | hentry
  · exact hcell
  · exact hsheet entry hentry

theorem Only.putActuation
    (h : r.Only P) (hcell : column ≠ Sheet.operationColumn → P row column cell) :
    (r.putActuation row column cell).1.Only P := by
  unfold Recording.putActuation putOn
  split
  · next hput =>
    exact only_iff.mpr ⟨only_put hput (only_iff.mp h).1 hcell, (only_iff.mp h).2⟩
  · exact h

theorem Only.putAdapted
    (h : r.Only P) (hcell : column ≠ Sheet.operationColumn → P row column cell) :
    (r.putAdapted row column cell).1.Only P := by
  unfold Recording.putAdapted putOn
  split
  · next hput =>
    exact only_iff.mpr ⟨(only_iff.mp h).1, only_put hput (only_iff.mp h).2 hcell⟩
  · exact h

theorem Only.enterBoth
    (h : r.Only P) (hcell : column ≠ Sheet.operationColumn → P row column cell) :
    (r.enterBoth row column cell).1.Only P := by
  have hadapted := h.putAdapted hcell
  unfold Recording.enterBoth
  split
  · next hput =>
    rw [hput] at hadapted
    exact hadapted
  · next hput =>
    rw [hput] at hadapted
    exact hadapted.putActuation hcell

theorem Only.putRow
    (h : r.Only P) {cells : List String}
    (hcells : ∀ entry ∈ cells.zipIdx column, P row entry.2 entry.1) :
    (r.putRow row column cells).1.Only P := by
  induction cells generalizing r column with
  | nil => exact h
  | cons cell rest ih =>
      rw [List.zipIdx_cons, List.forall_mem_cons] at hcells
      have hfirst := h.enterBoth fun _ => hcells.1
      unfold Recording.putRow
      split
      · next hput =>
        rw [hput] at hfirst
        exact hfirst
      · next hput =>
        rw [hput] at hfirst
        exact ih hfirst hcells.2

theorem Only.before
    (h : r.Only P) {host : Host} {sight : Sight} (hnone : sight.step.output = none)
    (hcells : ∀ entry ∈ sight.cells host, P sight.step.step.position entry.1 entry.2) :
    (Recording.before host sight.heap sight.run sight.step r).1.Only P := by
  unfold Sight.cells at hcells
  simp only [hnone] at hcells
  refine h.putRow fun entry hentry => ?_
  exact hcells entry.swap (List.mem_map_of_mem hentry)

theorem Only.operation
    (h : r.Only P) (row : ℕ) (actuation adapted : String) :
    (match r.putActuation row Sheet.operationColumn actuation with
      | (r, .error e) => ((r, .error e) : Recording × Except Error Unit)
      | (r, .ok _) => r.putAdapted row Sheet.operationColumn adapted).1.Only P := by
  have hactuation :
      (r.putActuation row Sheet.operationColumn actuation).1.Only P :=
    h.putActuation fun hne => absurd rfl hne
  split
  · next hput =>
    rw [hput] at hactuation
    exact hactuation
  · next hput =>
    rw [hput] at hactuation
    exact hactuation.putAdapted fun hne => absurd rfl hne

theorem Only.after
    (h : r.Only P) {host : Host} {sight : Sight}
    (hcells : ∀ entry ∈ sight.cells host, P sight.step.step.position entry.1 entry.2) :
    (Recording.after host sight.heap sight.run sight.step r).1.Only P := by
  unfold Recording.after
  cases houtput : sight.step.output with
  | none => exact h.operation _ _ _
  | some output =>
      have hmem : (Sheet.outputColumn, (sight.encoder host).output output) ∈
          sight.cells host := by
        unfold Sight.cells
        rw [houtput]
        exact List.mem_singleton_self _
      have hwritten : (r.enterBoth sight.step.step.position Sheet.outputColumn
          ((sight.encoder host).output output)).1.Only P :=
        h.enterBoth fun _ => hcells _ hmem
      simp only
      split
      · exact hwritten
      · exact hwritten.operation _ _ _

end Recording

namespace Runner

/-- Every cell on the sheets of a recorded run, but for the names of operations, was
written for what was seen in its row. -/
theorem recorded_of_sights
    (p : Runner) (host : Host) (sequence : Sequence) (heap : Heap) (name : String) :
    Recording.Only (fun row column cell =>
        ∃ sight ∈ p.sights (Observer.recorder host) sequence heap (Recording.empty name),
          sight.step.step.position = row ∧ (column, cell) ∈ sight.cells host)
      (p.execute (Observer.recorder host) sequence heap (Recording.empty name)).visitor := by
  let Held : List Sight × Recording → Prop := fun (sights, r) =>
    r.Only fun row column cell => ∃ sight ∈ sights,
      sight.step.step.position = row ∧ (column, cell) ∈ sight.cells host
  have hgrows : ∀ (sights : List Sight) (sight : Sight) (r : Recording),
      Held (sights, r) → Held (sights ++ [sight], r) := by
    intro sights sight r h sheet hsheet entry hentry hcolumn
    obtain ⟨old, hold, hcell⟩ := h sheet hsheet entry hentry hcolumn
    exact ⟨old, List.mem_append_left _ hold, hcell⟩
  have hlast : ∀ (sights : List Sight) (sight : Sight), ∀ entry ∈ sight.cells host,
      ∃ seen ∈ sights ++ [sight], seen.step.step.position = sight.step.step.position ∧
        (entry.1, entry.2) ∈ seen.cells host :=
    fun sights sight entry hentry => ⟨sight, by simp, rfl, hentry⟩
  have hheld : Held (p.execute (Observer.recorder host).recalling sequence heap
      ([], Recording.empty name)).visitor := by
    refine executeFrom_visitor_invariant p ?_ ?_ _ _ _ ?_
    · rintro heap run step ⟨sights, r⟩ hnone h
      let sight : Sight := ⟨heap, run, step⟩
      have hnone' : sight.step.output = none := hnone
      exact (hgrows sights sight r h).before hnone' (hlast sights sight)
    · rintro heap run step ⟨sights, r⟩ h
      let sight : Sight := ⟨heap, run, step⟩
      exact (hgrows sights sight r h).after (hlast sights sight)
    · simp [Held, Recording.Only, Recording.empty]
  rwa [execute_recalling] at hheld

end Runner

end Refit
