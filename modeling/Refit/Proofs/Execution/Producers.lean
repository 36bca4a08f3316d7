import Refit.Proofs.Execution.Results

/-!
# Producers

A run keeps for each stand-in the step that put it out first.  A stand-in turns up in
two ways: the runner makes it, or a call or an expression gives back one that is there
already.  One that is made is new, so no earlier step has put it out; one that is given
back is entered unless an earlier step did put it out, and then it was recognized as a
stand-in and entered at the time.
-/

namespace Refit

namespace Run

/-- The step in this row is the first one that put out the object. -/
structure Produces (run : Run) (row : ℕ) (i : Instance) : Prop where
  output : run.outputAt? row = some (.ok (.object i))
  first : ∀ earlier < row, ∀ j,
    run.outputAt? earlier = some (.ok (.object j)) → j.id ≠ i.id

variable {run run' : Run} {row : ℕ} {i : Instance}

theorem lt_length_of_outputAt?
    {output : Except Fault Value} (houtput : run.outputAt? row = some output) :
    row < run.steps.length := by
  obtain ⟨s, hs, -⟩ := Option.bind_eq_some_iff.mp houtput
  exact (List.getElem?_eq_some_iff.mp hs).1

theorem outputAt?_of_begins
    (hbegins : run.steps <+: run'.steps) (hrow : row < run.steps.length) :
    run'.outputAt? row = run.outputAt? row := by
  obtain ⟨more, hmore⟩ := hbegins
  unfold outputAt?
  rw [← hmore, List.getElem?_append_left hrow]

theorem Produces.lt_length (h : run.Produces row i) : row < run.steps.length :=
  lt_length_of_outputAt? h.output

/-- What is run later does not change who was first. -/
theorem Produces.of_begins
    (hbegins : run.steps <+: run'.steps) (h : run.Produces row i) :
    run'.Produces row i where
  output := (outputAt?_of_begins hbegins h.lt_length).trans h.output
  first earlier hearlier j hj := by
    rw [outputAt?_of_begins hbegins (hearlier.trans h.lt_length)] at hj
    exact h.first earlier hearlier j hj

theorem Produces.row_unique
    {row' : ℕ} {j : Instance} (h : run.Produces row i) (h' : run.Produces row' j)
    (hid : i.id = j.id) : row = row' := by
  rcases lt_trichotomy row row' with hlt | heq | hgt
  · exact absurd hid (h'.first row hlt i h.output)
  · exact heq
  · exact absurd hid.symm (h.first row' hgt j h'.output)

/-- Every entry names the first step that put out the object of that number, and
the object is a stand-in. -/
def ProducersSound (run : Run) (heap : Heap) : Prop :=
  ∀ entry ∈ run.producers, ∃ i : Instance, i.id = entry.1 ∧
    heap.HoldsStandIn i ∧ run.Produces entry.2 i

/-- A run in a world: nothing but made objects has been put out, the producers are
as they should be, and no stand-in that was put out is missing among them. -/
structure Tracked (run : Run) (w : World) : Prop where
  made : run.Only w.Made
  sound : run.ProducersSound w.heap
  complete : ∀ row i, run.outputAt? row = some (.ok (.object i)) →
    w.heap.isStandIn i = true → ∃ first, (i.id, first) ∈ run.producers

theorem tracked_of_nil
    (hsteps : run.steps = []) (hproducers : run.producers = []) (w : World) :
    run.Tracked w := by
  have hnone : ∀ row, run.outputAt? row = none := by
    intro row
    unfold outputAt?
    rw [hsteps]
    rfl
  refine ⟨fun row v hv => ?_, fun entry hentry => ?_, fun row i hi => ?_⟩
  · rw [hnone] at hv
    cases hv
  · rw [hproducers] at hentry
    cases hentry
  · rw [hnone] at hi
    cases hi

end Run

theorem Heap.holdsStandIn_of_isStandIn
    {h : Heap} {i : Instance} (hi : h.isStandIn i = true) : h.HoldsStandIn i := by
  obtain ⟨s, hs⟩ := Option.isSome_iff_exists.mp hi
  exact ⟨s, false, Heap.standIn?_eq_some.mp hs⟩

namespace Runner

section Entries

variable {heap : Heap} {producers : List (ℕ × ℕ)} {position : ℕ} {result : StepResult}

/-- The producers with the stand-in that a step has made. -/
def enterMade (producers : List (ℕ × ℕ)) (position : ℕ) :
    Option Instance → List (ℕ × ℕ)
  | some i => (i.id, position) :: producers.filter (·.1 ≠ i.id)
  | none => producers

/-- The producers with the stand-in that a step has put out. -/
def enterReturned (heap : Heap) (producers : List (ℕ × ℕ)) (position : ℕ) :
    Except Fault Value → List (ℕ × ℕ)
  | .ok (.object i) =>
    if heap.isStandIn i && (producers.lookup i.id).isNone then (i.id, position) :: producers
    else producers
  | _ => producers

theorem producersAfter_eq :
    producersAfter heap producers position result =
      enterReturned heap (enterMade producers position result.standIn) position
        result.output := by
  rcases result with ⟨output, adapted, _ | i⟩ <;> rfl

theorem lookup_isNone_iff {id : ℕ} :
    (producers.lookup id).isNone = true ↔ ∀ row, (id, row) ∉ producers := by
  rw [Option.isNone_iff_eq_none, List.lookup_eq_none_iff]
  constructor
  · intro hnone row hrow
    simpa using hnone (id, row) hrow
  · rintro hnone ⟨other, row⟩ hentry
    rw [bne_iff_ne]
    rintro rfl
    exact hnone row hentry

theorem mem_enterReturned
    {output : Except Fault Value} {entry : ℕ × ℕ}
    (hentry : entry ∈ enterReturned heap producers position output) :
    entry ∈ producers ∨ ∃ i : Instance, entry = (i.id, position) ∧
      output = .ok (.object i) ∧ heap.isStandIn i = true ∧
      ∀ row, (i.id, row) ∉ producers := by
  unfold enterReturned at hentry
  split at hentry
  · next i =>
    split at hentry
    · next hnew =>
      rw [Bool.and_eq_true, lookup_isNone_iff] at hnew
      rcases List.mem_cons.mp hentry with rfl | hentry
      · exact .inr ⟨i, rfl, rfl, hnew⟩
      · exact .inl hentry
    · exact .inl hentry
  · exact .inl hentry

theorem subset_enterReturned
    (heap : Heap) (producers : List (ℕ × ℕ)) (position : ℕ) (output : Except Fault Value) :
    producers ⊆ enterReturned heap producers position output := by
  unfold enterReturned
  split
  · split
    · exact List.subset_cons_self _ _
    · exact List.Subset.refl _
  · exact List.Subset.refl _

/-- What a step enters is its output, which it has made or which is not entered yet. -/
theorem mem_producersAfter
    (hmade : ∀ i, result.standIn = some i → result.output = .ok (.object i))
    {entry : ℕ × ℕ} (hentry : entry ∈ producersAfter heap producers position result) :
    entry ∈ producers ∨ ∃ i : Instance, entry = (i.id, position) ∧
      result.output = .ok (.object i) ∧
      (result.standIn = some i ∨
        heap.isStandIn i = true ∧ ∀ row, (i.id, row) ∉ producers) := by
  rw [producersAfter_eq] at hentry
  cases hstandIn : result.standIn with
  | some i =>
      rw [hstandIn] at hentry
      rcases mem_enterReturned hentry with hentry | ⟨j, -, houtput, -, hunknown⟩
      · rcases List.mem_cons.mp hentry with rfl | hentry
        · exact .inr ⟨i, rfl, hmade i hstandIn, .inl rfl⟩
        · exact .inl (List.mem_of_mem_filter hentry)
      · -- The output is the stand-in that was entered just before.
        rw [hmade i hstandIn] at houtput
        cases houtput
        exact absurd List.mem_cons_self (hunknown position)
  | none =>
      rw [hstandIn] at hentry
      rcases mem_enterReturned hentry with hentry | ⟨i, hi, houtput, hnew⟩
      · exact .inl hentry
      · exact .inr ⟨i, hi, houtput, .inr hnew⟩

/-- No number that has been entered gets lost. -/
theorem exists_mem_producersAfter
    {id row : ℕ} (hid : (id, row) ∈ producers) :
    ∃ first, (id, first) ∈ producersAfter heap producers position result := by
  rw [producersAfter_eq]
  have hkept : ∃ first, (id, first) ∈ enterMade producers position result.standIn := by
    unfold enterMade
    split
    · next i _ =>
      by_cases hsame : id = i.id
      · exact ⟨position, hsame ▸ List.mem_cons_self⟩
      · refine ⟨row, List.mem_cons_of_mem _ (List.mem_filter.mpr ⟨hid, ?_⟩)⟩
        simpa using hsame
    · exact ⟨row, hid⟩
  obtain ⟨first, hfirst⟩ := hkept
  exact ⟨first, subset_enterReturned _ _ _ _ hfirst⟩

theorem exists_mem_producersAfter_of_output
    {i : Instance} (houtput : result.output = .ok (.object i))
    (hstandIn : heap.isStandIn i = true) :
    ∃ first, (i.id, first) ∈ producersAfter heap producers position result := by
  rw [producersAfter_eq, houtput]
  unfold enterReturned
  simp only [hstandIn, Bool.true_and]
  split
  · exact ⟨position, List.mem_cons_self⟩
  · next hfound =>
    rw [lookup_isNone_iff] at hfound
    push Not at hfound
    exact hfound

end Entries

section Step

variable {w w' : World} {run : Run} {s : RunStep} {result : StepResult}

theorem outputAt?_extended
    (run : Run) (heap : Heap) (s : RunStep) (result : StepResult) (row : ℕ) :
    (extended run heap s result).1.outputAt? row =
      if row < run.steps.length then run.outputAt? row
      else if row = run.steps.length then some result.output
      else none := by
  unfold extended Run.outputAt?
  simp only
  split_ifs with hlt heq
  · rw [List.getElem?_append_left hlt]
  · subst heq
    simp
  · rw [List.getElem?_eq_none]
    · rfl
    · simp only [List.length_append, List.length_singleton]
      omega

theorem steps_prefix_extended
    (run : Run) (heap : Heap) (s : RunStep) (result : StepResult) :
    run.steps <+: (extended run heap s result).1.steps :=
  List.prefix_append _ _

/-- The output of the last step is the first of its number, if it is entered for it. -/
theorem produces_extended
    (htracked : run.Tracked w) (hlater : w.Later w') (hsound : result.Sound w w')
    {i : Instance} (houtput : result.output = .ok (.object i))
    (hentered : result.standIn = some i ∨
      w'.heap.isStandIn i = true ∧ ∀ row, (i.id, row) ∉ run.producers) :
    (extended run w'.heap s result).1.Produces run.steps.length i := by
  constructor
  · rw [outputAt?_extended, if_neg (lt_irrefl _), if_pos rfl, houtput]
  intro earlier hearlier j hj hid
  rw [outputAt?_extended, if_pos hearlier] at hj
  have hmade := Value.only_object.mp (htracked.made earlier _ hj)
  rcases hentered with hnew | ⟨hstandIn, hunknown⟩
  · have hnew := (hsound.standIn i hnew).2.1
    have hold := hmade.1
    omega
  · -- The earlier object is this one, so it was a stand-in then and is entered.
    have hi := Value.only_object.mp (hsound.output _ houtput)
    have hsame := (hlater.made hmade).eq_of_id_eq hi hid
    subst hsame
    have hknown := hlater.recognized j hmade.1 hstandIn
    obtain ⟨first, hfirst⟩ := htracked.complete earlier j hj hknown
    exact hunknown first hfirst

theorem tracked_extended
    (htracked : run.Tracked w) (hlater : w.Later w') (hsound : result.Sound w w')
    (hposition : s.step.position = run.steps.length) :
    (extended run w'.heap s result).1.Tracked w' where
  made row v hv := by
    rw [outputAt?_extended] at hv
    split_ifs at hv
    · exact hlater.only (htracked.made row v hv)
    · exact hsound.output v (Option.some.inj hv)
  sound entry hentry := by
    have hmade := fun i hi => (hsound.standIn i hi).1
    rcases mem_producersAfter hmade hentry with hold | ⟨i, rfl, houtput, hentered⟩
    · obtain ⟨i, hid, hholds, hproduces⟩ := htracked.sound entry hold
      have hi := Value.only_object.mp (htracked.made _ _ hproduces.output)
      exact ⟨i, hid, hlater.holds i hi.1 hholds,
        hproduces.of_begins (steps_prefix_extended run w'.heap s result)⟩
    · have hstandIn : w'.heap.isStandIn i = true := by
        rcases hentered with hnew | ⟨hstandIn, -⟩
        · exact (hsound.standIn i hnew).2.2
        · exact hstandIn
      refine ⟨i, rfl, Heap.holdsStandIn_of_isStandIn hstandIn, ?_⟩
      rw [hposition]
      exact produces_extended htracked hlater hsound houtput hentered
  complete row i hi hstandIn := by
    rw [outputAt?_extended] at hi
    split_ifs at hi
    · have hmade := Value.only_object.mp (htracked.made row _ hi)
      have hknown := hlater.recognized i hmade.1 hstandIn
      obtain ⟨first, hfirst⟩ := htracked.complete row i hi hknown
      exact exists_mem_producersAfter hfirst
    · exact exists_mem_producersAfter_of_output (Option.some.inj hi) hstandIn

end Step

end Runner

end Refit
