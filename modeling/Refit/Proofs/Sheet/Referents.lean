import Refit.Proofs.Execution.Scripts
import Refit.Proofs.Sheet.Recorded
import Refit.Proofs.Sheet.References

/-!
# What references refer to

A cell that is written for a stand-in refers to the step that put it out first.
Over an honest host this step has been run when the cell is written, so the
reference is resolved from then on, and two references on a sheet are the same text
exactly when they are written for the same object.
-/

namespace Refit

namespace Sequence

theorem positions_of_build
    {name : String} {kinds : List (StepKind × List StepInput)} {sequence : Sequence}
    (hbuild : build name kinds = .ok sequence) :
    sequence.steps.map (·.position) = List.range' 0 sequence.steps.length := by
  unfold build at hbuild
  simp only at hbuild
  split at hbuild
  · cases hbuild
  cases hbuild
  unfold ofKinds
  rw [List.map_map, List.length_map, List.length_zipIdx, ← List.zipIdx_map_snd 0 kinds]
  rfl

end Sequence

namespace Sight

/-- A cell is written for an object that is entered for the step in the row. -/
structure Refers (sight : Sight) (host : Host) (i : Instance) (row : ℕ)
    (cell : String) : Prop where
  shows : sight.Shows i
  entered : sight.run.producers.lookup i.id = some row
  written : (sight.encoder host).value (.object i) = cell

variable {sight : Sight} {host : Host} {i : Instance} {row : ℕ} {cell : String}

theorem Refers.cell_eq (h : sight.Refers host i row cell) :
    cell = CellText.ofText (CellText.reference i.typeName row) := by
  rw [← h.written]
  unfold CellText.Encoder.value CellText.Encoder.json CellText.Encoder.object encoder
  simp only [h.entered]
  rfl

theorem Refers.parse
    (h : sight.Refers host i row cell) (hrow : row < 2 ^ 64) :
    CellText.parseReference? cell = some (i.typeName, row) := by
  rw [h.cell_eq]
  exact CellText.parseReference?_reference i.typeName hrow

theorem Refers.produces
    (h : sight.Refers host i row cell) (htracked : sight.Tracked) :
    sight.run.Produces row i := by
  obtain ⟨w, hheap, hrun, hmade⟩ := htracked.tracked
  obtain ⟨before, after, hsplit, -⟩ := List.lookup_eq_some_iff.mp h.entered
  have hentry : (i.id, row) ∈ sight.run.producers := by
    rw [hsplit]
    simp
  obtain ⟨j, hid, -, hproduces⟩ := hrun.sound _ hentry
  have hj := Value.only_object.mp (hrun.made row _ hproduces.output)
  rwa [← hj.eq_of_id_eq (hmade i h.shows) hid]

/-- The reference is resolved in every run that goes on from here. -/
theorem Refers.resolve
    (h : sight.Refers host i row cell) (htracked : sight.Tracked) (hrow : row < 2 ^ 64)
    {run : Run} (hbegins : sight.run.steps <+: run.steps) :
    ∃ s, run.resolve? cell = some s ∧ s.output = some (.ok (.object i)) := by
  have hproduces := (h.produces htracked).of_begins hbegins
  obtain ⟨s, hs, houtput⟩ := Option.bind_eq_some_iff.mp hproduces.output
  refine ⟨s, ?_, houtput⟩
  unfold Run.resolve?
  rw [h.parse hrow]
  exact hs

theorem Refers.row_le
    (h : sight.Refers host i row cell) (htracked : sight.Tracked) :
    (sight.step.output = none → row < sight.step.step.position) ∧
      row ≤ sight.step.step.position := by
  have hrow := (h.produces htracked).lt_length
  rw [htracked.placed] at hrow
  constructor
  · intro hnone
    simpa [hnone] using hrow
  · split at hrow <;> omega

theorem Refers.cell_eq_iff
    {sight' : Sight} {i' : Instance} {row' : ℕ} {cell' : String} {last : Run}
    (h : sight.Refers host i row cell) (htracked : sight.Tracked)
    (hbegins : sight.run.steps <+: last.steps) (hrow : row < 2 ^ 64)
    (h' : sight'.Refers host i' row' cell') (htracked' : sight'.Tracked)
    (hbegins' : sight'.run.steps <+: last.steps) (hrow' : row' < 2 ^ 64) :
    cell = cell' ↔ i.id = i'.id := by
  have hproduces := (h.produces htracked).of_begins hbegins
  have hproduces' := (h'.produces htracked').of_begins hbegins'
  have hsame : row = row' → i = i' := by
    rintro rfl
    have houtput := hproduces.output.symm.trans hproduces'.output
    simpa using houtput
  constructor
  · intro hcell
    have hparse := h.parse hrow
    rw [hcell, h'.parse hrow'] at hparse
    have hrows : row' = row := (Prod.mk.inj (Option.some.inj hparse)).2
    rw [hsame hrows.symm]
  · intro hid
    have hrows := hproduces.row_unique hproduces' hid
    rw [h.cell_eq, h'.cell_eq, hsame hrows, hrows]

end Sight

namespace Runner

section Seen

variable {p : Runner} {w : World} {name : String} {kinds : List (StepKind × List StepInput)}
  {sequence : Sequence}

/-- All that is seen of a run shows the beginning of one and the same run. -/
theorem exists_last
    (hbuild : Sequence.build name kinds = .ok sequence) (hhonest : p.host.Honest w)
    (hclosed : w.Closed) (hnames : ∀ entry ∈ p.names, entry.2.Only w.Made)
    (hliterals : ∀ s ∈ sequence.steps, s.LiteralsOnly w.Made)
    {σ : Type} (v : Observer σ) (state : σ) :
    ∃ last : Run, last.steps.length ≤ sequence.steps.length ∧
      (∀ sight ∈ p.sights v sequence w.heap state,
        sight.Tracked ∧ sight.run.steps <+: last.steps) ∧
      ∀ final, (p.execute v sequence w.heap state).result = .ok final →
        final.steps = last.steps ∧
          final.ProducersSound (p.execute v sequence w.heap state).heap := by
  let start : Run :=
    ⟨sequence.name, p.binding.adapter.adapterId, p.binding.adapter.candidateId, [], []⟩
  have hstart : start.Tracked w := Run.tracked_of_nil rfl rfl w
  rcases executeFrom_tracked hhonest v hclosed hnames hliterals hstart
    (Sequence.positions_of_build hbuild) [] state with ⟨last, -, hbound, hwithin⟩
  change (p.execute v.recalling sequence w.heap ([], state)).Within [] last at hwithin
  rw [execute_recalling] at hwithin
  refine ⟨last, hbound.trans_eq (Nat.zero_add _), ?_, hwithin.final⟩
  intro sight hsight
  exact (hwithin.seen sight hsight).resolve_left List.not_mem_nil

/-- The row that a cell refers to fits 64 bits. -/
theorem row_lt_of_refers
    {last : Run} (hbound : last.steps.length ≤ sequence.steps.length)
    (hlength : sequence.steps.length ≤ 2 ^ 64) {sight : Sight} (htracked : sight.Tracked)
    (hbegins : sight.run.steps <+: last.steps) {host : Host} {i : Instance} {row : ℕ}
    {cell : String} (h : sight.Refers host i row cell) : row < 2 ^ 64 := by
  have hshown := (h.produces htracked).lt_length
  have hlast := hbegins.length_le
  omega

end Seen

/-- At all that a run shows to its observer, and at its end, the producers are sound.
Hence a cell that is written for a stand-in is read back as its type and the first
step that put it out; the step comes before the one at hand, unless the cell is for
the output, and it is found there and at the end of the run.  Two such cells are the
same exactly when they are written for the same object.  The sheets of a recorded run
hold no cells but those that were written for what was seen in their row, and for the
names of operations.

A sequence is a vector, whose length fits 64 bits. -/
theorem references_resolve
    {σ : Type} (p : Runner) (v : Observer σ) (w : World)
    {name : String} {kinds : List (StepKind × List StepInput)} {sequence : Sequence}
    (hbuild : Sequence.build name kinds = .ok sequence)
    (hlength : sequence.steps.length ≤ 2 ^ 64)
    (hhonest : p.host.Honest w) (hclosed : w.Closed)
    (hnames : ∀ entry ∈ p.names, entry.2.Only w.Made)
    (hliterals : ∀ s ∈ sequence.steps, s.LiteralsOnly w.Made) (state : σ) :
    (∀ sight ∈ p.sights v sequence w.heap state,
      sight.run.ProducersSound sight.heap ∧
      ∀ i row cell, sight.Refers p.host i row cell →
        CellText.parseReference? cell = some (i.typeName, row) ∧
        (∃ s, sight.run.resolve? cell = some s ∧ s.output = some (.ok (.object i))) ∧
        (sight.step.output = none → row < sight.step.step.position) ∧
        row ≤ sight.step.step.position) ∧
    (∀ final, (p.execute v sequence w.heap state).result = .ok final →
      final.ProducersSound (p.execute v sequence w.heap state).heap ∧
      ∀ sight ∈ p.sights v sequence w.heap state, ∀ i row cell,
        sight.Refers p.host i row cell →
          ∃ s, final.resolve? cell = some s ∧ s.output = some (.ok (.object i))) ∧
    (∀ sight ∈ p.sights v sequence w.heap state,
      ∀ sight' ∈ p.sights v sequence w.heap state, ∀ i row cell i' row' cell',
        sight.Refers p.host i row cell → sight'.Refers p.host i' row' cell' →
          (cell = cell' ↔ i.id = i'.id)) ∧
    ∀ title, Recording.Only (fun row column cell =>
        ∃ sight ∈ p.sights (Observer.recorder p.host) sequence w.heap (.empty title),
          sight.step.step.position = row ∧ (column, cell) ∈ sight.cells p.host ∧
          ∀ i produced, sight.Refers p.host i produced cell →
            CellText.parseReference? cell = some (i.typeName, produced) ∧ produced ≤ row)
      (p.execute (Observer.recorder p.host) sequence w.heap (.empty title)).visitor := by
  rcases exists_last hbuild hhonest hclosed hnames hliterals v state with
    ⟨last, hbound, hseen, hlast⟩
  refine ⟨?_, ?_, ?_, ?_⟩
  · intro sight hsight
    rcases hseen sight hsight with ⟨htracked, hbegins⟩
    rcases htracked.tracked with ⟨w', hheap, hrun, -⟩
    refine ⟨hheap ▸ hrun.sound, fun i row cell h => ?_⟩
    have hrow := row_lt_of_refers hbound hlength htracked hbegins h
    exact ⟨h.parse hrow, h.resolve htracked hrow List.prefix_rfl, h.row_le htracked⟩
  · intro final hfinal
    rcases hlast final hfinal with ⟨hsteps, hsound⟩
    refine ⟨hsound, fun sight hsight i row cell h => ?_⟩
    rcases hseen sight hsight with ⟨htracked, hbegins⟩
    have hrow := row_lt_of_refers hbound hlength htracked hbegins h
    rw [← hsteps] at hbegins
    exact h.resolve htracked hrow hbegins
  · intro sight hsight sight' hsight' i row cell i' row' cell' h h'
    rcases hseen sight hsight with ⟨htracked, hbegins⟩
    rcases hseen sight' hsight' with ⟨htracked', hbegins'⟩
    exact h.cell_eq_iff htracked hbegins (row_lt_of_refers hbound hlength htracked hbegins h)
      h' htracked' hbegins' (row_lt_of_refers hbound hlength htracked' hbegins' h')
  · intro title
    rcases exists_last hbuild hhonest hclosed hnames hliterals (Observer.recorder p.host)
      (.empty title) with ⟨last, hbound, hseen, -⟩
    refine Recording.Only.mono (p.recorded_of_sights p.host sequence w.heap title) ?_
    rintro row column cell ⟨sight, hsight, rfl, hcell⟩
    rcases hseen sight hsight with ⟨htracked, hbegins⟩
    refine ⟨sight, hsight, rfl, hcell, fun i produced h => ?_⟩
    exact ⟨h.parse (row_lt_of_refers hbound hlength htracked hbegins h),
      (h.row_le htracked).2⟩

end Runner

namespace Samples

/-- A stand-in that was there before is given to `echo`, then one that is made on the
way; `echo` gives both back. -/
def echoingKinds : List (StepKind × List StepInput) :=
  [(.call "Echo" "echo" none, [.literal (.object echoStandIn)]),
   (.construct "Echo", []),
   (.call "Echo" "echo" none, [.ref 0]),
   (.call "Echo" "echo" none, [.ref 1])]

def echoWorld : World := ⟨echoHeap, fun _ => "Echo"⟩

theorem echoWorld_closed : echoWorld.Closed := by
  intro i entry hentry
  change echoHeap.entry? i = some entry at hentry
  rw [echoHeap, Heap.entry?_alloc] at hentry
  split at hentry
  · cases hentry
    intro adaptee hadaptee
    cases hadaptee
  · cases hentry

theorem echoHost_constantsOnly
    {b : Behaviour} (hb : ∀ v, b ≠ .const v) (P : Instance → Prop) :
    (echoHost b).ConstantsOnly P := by
  intro s hs v hv
  rw [List.mem_singleton.mp hs] at hv
  exact absurd hv (hb v)

theorem echoingKinds_literals :
    ∀ s ∈ (Sequence.ofKinds "echo" echoingKinds).steps, s.LiteralsOnly echoWorld.Made := by
  have hmade : echoWorld.Made echoStandIn := ⟨by decide, rfl⟩
  simpa [Sequence.ofKinds, echoingKinds, Step.LiteralsOnly, List.zipIdx] using hmade

def echoSights : List Sight :=
  (echoRunner (.eval "$0")).sights Observer.silent (Sequence.ofKinds "echo" echoingKinds)
    echoHeap ()

theorem echoSights_refer :
    ∃ sight ∈ echoSights, ∃ sight' ∈ echoSights, ∃ cell cell',
      sight.Refers (echoRunner (.eval "$0")).host echoStandIn 0 cell ∧
        sight'.Refers (echoRunner (.eval "$0")).host ⟨2, "Echo"⟩ 1 cell' := by
  -- The input of the third step and the output of the last.
  have hinput := List.mem_of_getElem? (l := echoSights) (i := 4) rfl
  have houtput := List.mem_of_getElem? (l := echoSights) (i := 7) rfl
  exact ⟨_, hinput, _, houtput, _, _, ⟨Or.inr List.mem_cons_self, rfl, rfl⟩, ⟨rfl, rfl, rfl⟩⟩

end Samples

open Samples in
/-- A cell for the stand-in that was there before refers to the first step, a cell for
the other one to the second. -/
theorem Runner.references_resolve_echo :
    ∃ sight ∈ echoSights, ∃ sight' ∈ echoSights, ∃ cell cell',
      sight.Refers (echoRunner (.eval "$0")).host echoStandIn 0 cell ∧
        sight'.Refers (echoRunner (.eval "$0")).host ⟨2, "Echo"⟩ 1 cell' ∧
        CellText.parseReference? cell = some ("Echo", 0) ∧
        CellText.parseReference? cell' = some ("Echo", 1) ∧ cell ≠ cell' := by
  have hhonest : (echoRunner (.eval "$0")).host.Honest echoWorld :=
    HostScript.host_honest (echoHost_constantsOnly (b := .eval "$0") nofun _)
  have hbuild : Sequence.build "echo" echoingKinds =
      .ok (Sequence.ofKinds "echo" echoingKinds) := rfl
  obtain ⟨hsights, -, hcells, -⟩ :=
    references_resolve (echoRunner (.eval "$0")) Observer.silent echoWorld hbuild
      (by decide) hhonest echoWorld_closed (by simp [echoRunner]) echoingKinds_literals ()
  obtain ⟨sight, hsight, sight', hsight', cell, cell', hrefers, hrefers'⟩ := echoSights_refer
  refine ⟨sight, hsight, sight', hsight', cell, cell', hrefers, hrefers',
    ((hsights sight hsight).2 _ _ _ hrefers).1, ((hsights sight' hsight').2 _ _ _ hrefers').1,
    fun hcell => ?_⟩
  have hid := (hcells sight hsight sight' hsight' _ _ _ _ _ _ hrefers hrefers').mp hcell
  exact absurd hid (by decide)

end Refit
