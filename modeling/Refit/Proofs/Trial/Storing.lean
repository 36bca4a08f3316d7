import Refit.Proofs.Store.Ledger
import Refit.Proofs.Trial.Journal

/-!
# A journal in the ledger

A fresh ledger takes a whole journal if no two of its records have one scope.  It then
holds the cells of the records and no others, so every sheet can be got back, and it
holds the reports.
-/

namespace Refit

def Recording.sheet (r : Recording) : SheetKind → Sheet
  | .actuation => r.actuation
  | .adapted => r.adapted

/-- The sheets of a record are named after the sequence, with their cells in order. -/
def RunRecord.Filed (record : RunRecord) : Prop :=
  record.recording.Both fun s => s.name = record.sequence ∧ s.Sorted

theorem RunRecord.Filed.sheet {record : RunRecord} (h : record.Filed) (kind : SheetKind) :
    (record.recording.sheet kind).name = record.sequence ∧
      (record.recording.sheet kind).Sorted := by
  cases kind with
  | actuation => exact h.1
  | adapted => exact h.2

namespace Batch

variable (b : Batch) {s : Ledger} {done : List RunRecord}

theorem recordOf_filed (x : Execution) : (b.recordOf x).Filed :=
  Recording.recorded_sorted _ _ _ _ _

/-- The ledger holds the cells of these records and no others. -/
structure Holds (s : Ledger) (records : List RunRecord) : Prop where
  single : s.Single
  cell : ∀ address cell, s.get? address = some cell ↔ ∃ record ∈ records,
    address.sheet.scope = b.scopeOf record ∧
      (record.recording.sheet address.sheet.kind).get? address.row address.column = some cell

theorem holds_empty : b.Holds {} [] := by
  refine ⟨List.nodup_nil, fun address cell => ?_⟩
  simp [Ledger.get?]

theorem Holds.free
    {b : Batch} (h : b.Holds s done) {scope : Scope}
    (hnew : ∀ old ∈ done, b.scopeOf old ≠ scope) {address : CellAddress}
    (hscope : address.sheet.scope = scope) : s.get? address = none := by
  cases hget : s.get? address with
  | none => rfl
  | some cell =>
      obtain ⟨old, hold, hsame, -⟩ := (h.cell address cell).mp hget
      exact absurd (hsame.symm.trans hscope) (hnew old hold)

/-- A sheet whose scope no other record has is got back. -/
theorem Holds.sheet_eq
    {b : Batch} (h : b.Holds s done) (hscopes : (done.map b.scopeOf).Nodup)
    {record : RunRecord} (hrecord : record ∈ done) (hfiled : record.Filed)
    (kind : SheetKind) :
    s.sheet ⟨b.scopeOf record, kind⟩ = record.recording.sheet kind := by
  obtain ⟨hname, hsorted⟩ := hfiled.sheet kind
  refine Ledger.sheet_eq h.single hname hsorted fun row column => ?_
  refine Option.ext fun cell => ?_
  rw [h.cell]
  constructor
  · rintro ⟨other, hother, hscope, hcell⟩
    cases List.inj_on_of_nodup_map hscopes hrecord hother hscope
    exact hcell
  · intro hcell
    exact ⟨record, hrecord, rfl, hcell⟩

theorem enter_ran
    {b : Batch} (h : b.Holds s done) (x : Execution)
    (hnew : ∀ old ∈ done, b.scopeOf old ≠ b.scopeOf (b.recordOf x)) :
    ∃ s', b.enter Ledger.store s (.ran x) = (s', .ok ()) ∧
      b.Holds s' (done ++ [b.recordOf x]) ∧ s'.reports = s.reports := by
  let record := b.recordOf x
  have hfiled := b.recordOf_filed x
  obtain ⟨first, hactuation, hsingle, hreports, hfirst⟩ := Ledger.enterSheet_of_free
    h.single ⟨b.scopeOf record, .actuation⟩ hfiled.1.2 fun row column => h.free hnew rfl
  have hfree : ∀ row column,
      first.get? ⟨⟨b.scopeOf record, .adapted⟩, row, column⟩ = none := by
    intro row column
    rw [hfirst, if_neg (by simp)]
    exact h.free hnew rfl
  obtain ⟨last, hadapted, hsingle', hreports', hlast⟩ :=
    Ledger.enterSheet_of_free hsingle _ hfiled.2.2 hfree
  have hget : ∀ address, last.get? address =
      if address.sheet.scope = b.scopeOf record then
        (record.recording.sheet address.sheet.kind).get? address.row address.column
      else s.get? address := by
    intro address
    rw [hlast, hfirst]
    obtain ⟨⟨scope, kind⟩, row, column⟩ := address
    by_cases hscope : scope = b.scopeOf record
    · cases hscope
      cases kind with
      | actuation => simp [Recording.sheet, record]
      | adapted => simp [Recording.sheet, record]
    · simp [hscope]
  refine ⟨last, ?_, ⟨hsingle', fun address cell => ?_⟩, hreports'.trans hreports⟩
  · unfold enter
    simp only [Ledger.store]
    rw [hactuation]
    exact hadapted
  · rw [hget]
    simp only [List.mem_append, or_and_right, exists_or]
    split_ifs with hscope
    · constructor
      · exact fun hcell => .inr ⟨record, List.mem_singleton_self _, hscope, hcell⟩
      · rintro (⟨old, hold, hsame, -⟩ | ⟨same, hsame, -, hcell⟩)
        · exact absurd (hsame.symm.trans hscope) (hnew old hold)
        · rw [List.mem_singleton.mp hsame] at hcell
          exact hcell
    · rw [h.cell]
      constructor
      · exact .inl
      · rintro (hold | ⟨same, hsame, hother, -⟩)
        · exact hold
        · rw [List.mem_singleton.mp hsame] at hother
          exact absurd hother hscope

/-- A record of which nothing was run leaves nothing to store. -/
theorem Holds.append_unrecorded
    {b : Batch} (h : b.Holds s done) {record : RunRecord} {name : String}
    (hempty : record.recording = Recording.empty name) : b.Holds s (done ++ [record]) := by
  refine ⟨h.single, fun address cell => ?_⟩
  rw [h.cell]
  simp only [List.mem_append, or_and_right, exists_or]
  constructor
  · exact .inl
  · rintro (hold | ⟨same, hsame, -, hcell⟩)
    · exact hold
    · rw [List.mem_singleton.mp hsame, hempty] at hcell
      cases hkind : address.sheet.kind <;> rw [hkind] at hcell <;> cases hcell

/-- What an entry says of the adapters of a component. -/
def report? : JournalEntry → Option (String × FittingReport)
  | .report candidate report => some (candidate, report)
  | _ => none

def reports (entries : List JournalEntry) : List (String × FittingReport) :=
  entries.filterMap report?

/-- Nothing was recorded for the aborted records of a journal. -/
def Unrecorded (entries : List JournalEntry) : Prop :=
  ∀ record, .aborted record ∈ entries →
    record.recording = Recording.empty record.sequence

/-- Entries whose records have scopes of their own are all taken, and the last report
on a component is kept. -/
theorem enterAll_of_fresh
    {b : Batch} (h : b.Holds s done) {entries : List JournalEntry}
    (hunrecorded : Unrecorded entries)
    (hscopes : ((done ++ b.records entries).map b.scopeOf).Nodup)
    (hreports : ((reports entries).map Prod.fst).Nodup) :
    ∃ s', b.enterAll Ledger.store s entries = (s', .ok ()) ∧
      b.Holds s' (done ++ b.records entries) ∧
      ∀ candidate, s'.report? b.request.executionId candidate =
        ((reports entries).lookup candidate).or
          (s.report? b.request.executionId candidate) := by
  induction entries generalizing s done with
  | nil =>
      refine ⟨s, rfl, ?_, fun _ => rfl⟩
      rw [records, List.filterMap_nil, List.append_nil]
      exact h
  | cons entry rest ih =>
      have hunrecorded' : Unrecorded rest :=
        fun record hrecord => hunrecorded record (List.mem_cons_of_mem _ hrecord)
      cases entry with
      | report candidate report =>
          obtain ⟨hnew, hrest⟩ := List.nodup_cons.mp hreports
          have h' : b.Holds (s.enterReport b.request.executionId candidate report) done :=
            ⟨h.single, h.cell⟩
          obtain ⟨s', henter, hheld, hreport⟩ := ih h' hunrecorded' hscopes hrest
          refine ⟨s', henter, hheld, fun other => ?_⟩
          have hcons : reports (.report candidate report :: rest) =
              (candidate, report) :: reports rest := rfl
          rw [hreport, Ledger.report?_enterReport, hcons, List.lookup_cons]
          by_cases hsame : other = candidate
          · have hnone : (reports rest).lookup candidate = none :=
              lookup_eq_none_iff_keys.mpr hnew
            simp [hsame, hnone]
          · simp [hsame, beq_false_of_ne hsame]
      | ran x =>
          have hsplit : done ++ b.records (.ran x :: rest) =
              done ++ [b.recordOf x] ++ b.records rest := by
            simp [records, record?]
          rw [hsplit] at hscopes ⊢
          have hnew : ∀ old ∈ done, b.scopeOf old ≠ b.scopeOf (b.recordOf x) := by
            intro old hold hsame
            rw [List.map_append, List.map_append] at hscopes
            have hdisjoint := List.disjoint_of_nodup_append hscopes.of_append_left
            exact hdisjoint (List.mem_map_of_mem hold) (by simp [hsame])
          obtain ⟨s', henter, hholds, hkept⟩ := enter_ran h x hnew
          obtain ⟨s'', hrest, hheld, hreport⟩ := ih hholds hunrecorded' hscopes hreports
          refine ⟨s'', ?_, hheld, fun other => ?_⟩
          · rw [enterAll, henter]
            exact hrest
          · rw [hreport, Ledger.report?, hkept]
            rfl
      | aborted record =>
          have hsplit : done ++ b.records (.aborted record :: rest) =
              done ++ [record] ++ b.records rest := by
            simp [records, record?]
          rw [hsplit] at hscopes ⊢
          have hempty := hunrecorded record List.mem_cons_self
          exact ih (h.append_unrecorded hempty) hunrecorded' hscopes hreports

end Batch

end Refit
