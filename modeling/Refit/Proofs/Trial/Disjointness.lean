import Refit.Proofs.Decimal.Counting
import Refit.Proofs.Trial.Agreement

/-!
# Nothing in common

Two observations that nowhere say the same can still agree: where the oracle has nothing,
a system that has nothing agrees, and so does an object.  These agreements are all there
are, however many rows either of them recorded, and without them the score is zero.
-/

namespace Refit

namespace Similarity

variable {columns : List ℕ} {oracle system : Observation} {key : String}

/-- No key has equal cells in both observations. -/
def NowhereEqual (columns : List ℕ) (oracle system : Observation) : Prop :=
  ∀ key cell, lastCell columns oracle key = some cell → lastCell columns system key ≠ some cell

/-- The oracle has nothing under the key, and the system has nothing either or an object. -/
def Excused (columns : List ℕ) (oracle system : Observation) (key : String) : Prop :=
  Absent columns oracle key ∧ (Absent columns system key ∨ Live columns system key)

instance (columns : List ℕ) (o : Observation) (key : String) : Decidable (Absent columns o key) :=
  inferInstanceAs (Decidable (_ ∨ _))

instance (columns : List ℕ) (o : Observation) (key : String) : Decidable (Live columns o key) :=
  inferInstanceAs (Decidable (_ = _))

instance (columns : List ℕ) (oracle system : Observation) (key : String) :
    Decidable (Excused columns oracle system key) :=
  inferInstanceAs (Decidable (_ ∧ _))

theorem NowhereEqual.absent (hnowhere : NowhereEqual columns oracle system)
    (hequal : cellAt columns oracle key = cellAt columns system key) :
    Absent columns oracle key := by
  unfold cellAt at hequal
  cases horacle : lastCell columns oracle key with
  | none => exact .inl horacle
  | some cell =>
      cases hsystem : lastCell columns system key with
      | none =>
          rw [horacle, hsystem] at hequal
          exact .inr (horacle.trans (congrArg some hequal))
      | some cell' =>
          rw [horacle, hsystem] at hequal
          have hsame : lastCell columns system key = some cell :=
            hsystem.trans (congrArg some hequal.symm)
          exact absurd hsame (hnowhere key cell horacle)

theorem NowhereEqual.agree_iff_excused (hnowhere : NowhereEqual columns oracle system) :
    agree (cellAt columns oracle key) (cellAt columns system key) = true ↔
      Excused columns oracle system key := by
  unfold Excused
  rw [agree_iff, cellAt_eq_missingCell, cellAt_eq_instanceCell]
  constructor
  · intro hagree
    rcases hagree with hequal | ⟨habsent, hlive⟩
    · have habsent := hnowhere.absent hequal
      rw [cellAt_eq_missingCell.mpr habsent] at hequal
      exact ⟨habsent, .inl (cellAt_eq_missingCell.mp hequal.symm)⟩
    · exact ⟨habsent, .inr hlive⟩
  · rintro ⟨habsent, hmissing | hlive⟩
    · left
      rw [cellAt_eq_missingCell.mpr habsent, cellAt_eq_missingCell.mpr hmissing]
    · exact .inr ⟨habsent, hlive⟩

/-- It is enough that no entry of one is an entry of the other. -/
theorem nowhereEqual_of_entries
    (hentries : ∀ entry ∈ oracle.sheets.flatMap (sheetStatements columns),
      entry ∉ system.sheets.flatMap (sheetStatements columns)) :
    NowhereEqual columns oracle system := by
  intro key cell horacle hsystem
  have hin := List.mem_reverse.mp (mem_of_lookup_eq_some horacle)
  have hin' := List.mem_reverse.mp (mem_of_lookup_eq_some hsystem)
  exact hentries (key, cell) hin hin'

theorem score_of_no_agreements {s : Similarity} (hnone : s.agreements = 0) : s.score = 0 := by
  unfold score
  split_ifs with htotal
  · rfl
  · rw [hnone]
    exact Double.zero_div_ofNat (Nat.pos_of_ne_zero htotal)

/-- Of two observations that have no cell in common the keys agree that are excused, and no
others.  There is no agreement, and the score is zero, unless some key is excused. -/
theorem evaluate_disjoint (hnowhere : NowhereEqual columns oracle system) :
    ∃ s, evaluate columns oracle [system] = [s] ∧
      s.total = (places columns oracle ++ places columns system).toFinset.card ∧
      s.vector = (sharedKeys columns oracle system).map
        (fun key => decide (Excused columns oracle system key)) ∧
      s.agreements =
        ((sharedKeys columns oracle system).filter (Excused columns oracle system ·)).length ∧
      ((∀ place ∈ places columns oracle ++ places columns system,
          ¬ Excused columns oracle system (placeKey place)) →
        s.agreements = 0 ∧ s.score = 0) := by
  have hvector : (compareWith columns oracle system).vector =
      (sharedKeys columns oracle system).map
        (fun key => decide (Excused columns oracle system key)) := by
    rw [vector_compareWith]
    apply List.map_congr_left
    intro key _
    rw [Bool.eq_iff_iff, hnowhere.agree_iff_excused, decide_eq_true_iff]
  have hagreements : (compareWith columns oracle system).agreements =
      ((sharedKeys columns oracle system).filter (Excused columns oracle system ·)).length := by
    unfold agreements
    rw [hvector, List.count_eq_countP, List.countP_map, ← List.countP_eq_length_filter]
    apply List.countP_congr
    intro key _
    simp
  refine ⟨compareWith columns oracle system, rfl, total_compareWith _ _ _, hvector, hagreements,
    ?_⟩
  intro hnone
  have hzero : (compareWith columns oracle system).agreements = 0 := by
    rw [hagreements, List.length_eq_zero_iff, List.filter_eq_nil_iff]
    intro key hkey
    rcases mem_sharedKeys.mp hkey with ⟨place, hplace, rfl⟩
    rw [decide_eq_true_iff]
    exact hnone place hplace
  exact ⟨hzero, score_of_no_agreements hzero⟩

/-- Two steps, each with one number. -/
def countingStack (systemId first second : String) : Observation :=
  ⟨systemId, [⟨"push_size", [((0, 0), first), ((1, 0), second)]⟩]⟩

theorem evaluate_disjoint_counting :
    ∃ s, evaluate [0] (countingStack "oracle" "1" "2") [countingStack "system" "3" "4"] = [s] ∧
      s.total = 2 ∧ s.agreements = 0 ∧ s.score = 0 := by
  have hnowhere : NowhereEqual [0] (countingStack "oracle" "1" "2")
      (countingStack "system" "3" "4") :=
    nowhereEqual_of_entries (by decide +kernel)
  rcases evaluate_disjoint hnowhere with ⟨s, hs, htotal, -, -, hzero⟩
  have hnone := hzero (by decide +kernel)
  exact ⟨s, hs, htotal.trans (by decide +kernel), hnone.1, hnone.2⟩

/-- An oracle that recorded nothing agrees with a system that made an object. -/
theorem evaluate_silent_oracle :
    NowhereEqual [0] ⟨"oracle", []⟩ (stackReferring "Stack" 0) ∧
      (evaluate [0] ⟨"oracle", []⟩ [stackReferring "Stack" 0]).map agreements = [1] := by
  constructor
  · exact nowhereEqual_of_entries (by decide +kernel)
  · decide +kernel

end Similarity

end Refit
