import Refit.Proofs.Store.Ledger

/-!
# The order of addresses

Scopes, sheets and cells are ordered field by field, the sheet of a cell first.  So
entries that stand in the order of their addresses stand sheet by sheet, and what is
left of the sheets without repetitions in a row names each sheet once.
-/

namespace Refit

section Orders

instance : Std.TransOrd Scope :=
  inferInstanceAs (Std.TransCmp (compareLex (compareOn Scope.executionId)
    (compareLex (compareOn Scope.abstractionId) (compareLex (compareOn Scope.actionId)
      (compareLex (compareOn Scope.sheetId) (compareLex (compareOn Scope.candidateId)
        (compareOn Scope.adapterId)))))))

instance : Std.TransOrd SheetKey :=
  inferInstanceAs (Std.TransCmp (compareLex (compareOn SheetKey.scope)
    (compareOn fun key : SheetKey => key.kind.rank)))

instance : Std.TransOrd CellAddress :=
  inferInstanceAs (Std.TransCmp (compareLex (compareOn CellAddress.sheet)
    (compareLex (compareOn CellAddress.row) (compareOn CellAddress.column))))

theorem SheetKey.compare_eq_iff {a b : SheetKey} : compare a b = .eq ↔ a = b := by
  have haddress := @CellAddress.compare_eq_iff ⟨a, 0, 0⟩ ⟨b, 0, 0⟩
  change (compare a b).then _ = .eq ↔ _ at haddress
  simpa using haddress

instance : Std.LawfulEqOrd SheetKey where
  eq_of_compare := SheetKey.compare_eq_iff.mp

instance : Std.LawfulEqOrd CellAddress where
  eq_of_compare := CellAddress.compare_eq_iff.mp

theorem CellAddress.compare_eq (a b : CellAddress) :
    compare a b =
      (compare a.sheet b.sheet).then ((compare a.row b.row).then (compare a.column b.column)) :=
  rfl

theorem CellAddress.isLE_compare_sheet {a b : CellAddress} (h : compare a b = .lt) :
    (compare a.sheet b.sheet).isLE = true := by
  rw [compare_eq, Ordering.then_eq_lt] at h
  rcases h with hsheet | ⟨hsheet, -⟩ <;> simp [hsheet]

theorem CellAddress.compare_of_compare_sheet {a b : CellAddress}
    (h : compare a.sheet b.sheet = .lt) : compare a b = .lt := by
  rw [compare_eq, h]
  rfl

theorem CellAddress.compare_cell (key : SheetKey) (place place' : ℕ × ℕ) :
    compare (key.cell place.1 place.2) (key.cell place'.1 place'.2) = .lt ↔
      Sheet.before place place' = true := by
  rw [compare_eq, Sheet.before_iff]
  simp [SheetKey.cell, Std.ReflOrd.compare_self, Ordering.then_eq_lt, Nat.compare_eq_lt]

end Orders

section SortedKeys

variable {κ β : Type} [Ord κ]

/-- The keys ascend. -/
def SortedKeys (entries : List (κ × β)) : Prop :=
  entries.Pairwise fun a b => compare a.1 b.1 = .lt

variable [Std.LawfulEqOrd κ] {entries entries' : List (κ × β)}

theorem SortedKeys.nodup (h : SortedKeys entries) : (entries.map Prod.fst).Nodup := by
  rw [List.nodup_iff_pairwise_ne, List.pairwise_map]
  refine h.imp fun {a b} hlt heq => ?_
  rw [heq, Std.ReflOrd.compare_self] at hlt
  cases hlt

variable [Std.TransOrd κ]

theorem SortedKeys.insertByKey
    [DecidableEq κ] (h : SortedKeys entries) (key : κ) (value : β) :
    SortedKeys (insertByKey key value entries) := by
  induction entries with
  | nil => exact List.pairwise_singleton _ _
  | cons entry rest ih =>
      obtain ⟨other, held⟩ := entry
      obtain ⟨hhead, hrest⟩ := List.pairwise_cons.mp h
      unfold Refit.insertByKey
      split
      · next hbefore =>
        refine List.pairwise_cons.mpr ⟨?_, h⟩
        intro entry hentry
        rcases List.mem_cons.mp hentry with rfl | hin
        · exact hbefore
        · exact Std.TransCmp.lt_trans hbefore (hhead entry hin)
      · next hsame =>
        rw [Std.LawfulEqOrd.eq_of_compare hsame]
        exact List.pairwise_cons.mpr ⟨hhead, hrest⟩
      · next hlater =>
        refine List.pairwise_cons.mpr ⟨?_, ih hrest⟩
        intro entry hentry
        have hkey : entry.1 ∈ (Refit.insertByKey key value rest).map Prod.fst :=
          List.mem_map_of_mem hentry
        rw [mem_map_fst_insertByKey fun _ _ => Std.LawfulEqOrd.compare_eq_iff_eq] at hkey
        rcases hkey with hnew | hold
        · rw [hnew]
          exact Std.OrientedCmp.gt_iff_lt.mp hlater
        · obtain ⟨old, hin, hold⟩ := List.mem_map.mp hold
          rw [← hold]
          exact hhead old hin

theorem SortedKeys.eq_of_mem (h : SortedKeys entries) (h' : SortedKeys entries')
    (hmem : ∀ entry, entry ∈ entries ↔ entry ∈ entries') : entries = entries' := by
  have hperm : entries.Perm entries' :=
    (List.perm_ext_iff_of_nodup h.nodup.of_map h'.nodup.of_map).mpr hmem
  refine hperm.eq_of_pairwise (fun a b _ _ hab hba => ?_) h h'
  have hself := Std.TransCmp.lt_trans hab hba
  rw [Std.ReflOrd.compare_self] at hself
  cases hself

theorem SortedKeys.eq_of_lookup
    [DecidableEq κ] (h : SortedKeys entries) (h' : SortedKeys entries')
    (hlookup : ∀ key, entries.lookup key = entries'.lookup key) : entries = entries' := by
  apply h.eq_of_mem h'
  rintro ⟨key, value⟩
  rw [mem_iff_lookup h.nodup, mem_iff_lookup h'.nodup, hlookup]

end SortedKeys

section Runs

variable {κ : Type} [DecidableEq κ]

theorem eraseReps_cons_cons (a b : κ) (rest : List κ) :
    (a :: b :: rest).eraseReps =
      if a = b then (b :: rest).eraseReps else a :: (b :: rest).eraseReps := by
  have hloop : ∀ (rest : List κ) (a : κ) (done : List κ),
      List.eraseRepsBy.loop (· == ·) a rest done =
        done.reverse ++ List.eraseRepsBy.loop (· == ·) a rest [] := by
    intro rest
    induction rest with
    | nil => simp [List.eraseRepsBy.loop]
    | cons c rest ih =>
        intro a done
        rw [List.eraseRepsBy.loop, List.eraseRepsBy.loop]
        split
        · exact ih a done
        · rw [ih c (a :: done), ih c [a]]
          simp
  unfold List.eraseReps List.eraseRepsBy
  simp only
  rw [List.eraseRepsBy.loop, hloop rest b [a]]
  by_cases hsame : a = b
  · simp [hsame]
  · simp [hsame, beq_false_of_ne hsame]

theorem mem_eraseReps {key : κ} {keys : List κ} : key ∈ keys.eraseReps ↔ key ∈ keys := by
  induction keys with
  | nil => rfl
  | cons a rest ih =>
      cases rest with
      | nil => rfl
      | cons b rest =>
          rw [eraseReps_cons_cons]
          split_ifs with hsame
          · rw [ih, hsame]
            simp
          · rw [List.mem_cons, ih, List.mem_cons (a := key) (b := a)]

/-- Keys that never descend ascend once those that repeat are left out. -/
theorem pairwise_eraseReps
    [Ord κ] [Std.TransOrd κ] [Std.LawfulEqOrd κ] {keys : List κ}
    (h : keys.Pairwise fun a b => (compare a b).isLE = true) :
    keys.eraseReps.Pairwise fun a b => compare a b = .lt := by
  induction keys with
  | nil => exact List.Pairwise.nil
  | cons a rest ih =>
      obtain ⟨hhead, hrest⟩ := List.pairwise_cons.mp h
      cases rest with
      | nil => exact List.pairwise_singleton _ _
      | cons b rest =>
          rw [eraseReps_cons_cons]
          split_ifs with hsame
          · exact ih hrest
          · have hfirst : compare a b = .lt := by
              have hle := hhead b List.mem_cons_self
              rw [Ordering.isLE_iff_eq_lt_or_eq_eq] at hle
              exact hle.resolve_right fun heq => hsame (Std.LawfulEqOrd.eq_of_compare heq)
            refine List.pairwise_cons.mpr ⟨?_, ih hrest⟩
            intro c hc
            rcases List.mem_cons.mp (mem_eraseReps.mp hc) with rfl | hin
            · exact hfirst
            · exact Std.TransCmp.lt_of_lt_of_isLE hfirst
                ((List.pairwise_cons.mp hrest).1 c hin)

end Runs

end Refit
