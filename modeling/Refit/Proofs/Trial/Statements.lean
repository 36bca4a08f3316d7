import Mathlib
import Refit.Proofs.Sheet.References
import Refit.Proofs.Store.Ordering
import Refit.Proofs.Text.Pieces
import Refit.Proofs.Text.Trimming
import Refit.Trial.Similarity

/-!
# Statements

An observation says something at places: in a sheet of some plain name, in a row and a
chosen column.  Different places have different keys, however the sheets are named, so the
keys of two observations are as many as the places of both.
-/

namespace Refit

section Folding

variable {κ β : Type} [DecidableEq κ] [Ord κ] [Std.LawfulEqOrd κ] {done : List (κ × β)}

/-- A map that is filled entry by entry stays in order. -/
theorem sortedKeys_foldl [Std.TransOrd κ] (h : SortedKeys done) (entries : List (κ × β)) :
    SortedKeys (entries.foldl (fun done (key, value) => insertByKey key value done) done) := by
  induction entries generalizing done with
  | nil => exact h
  | cons entry entries ih => exact ih (h.insertByKey entry.1 entry.2)

theorem mem_map_fst_foldl {key : κ} (entries : List (κ × β)) :
    key ∈ (entries.foldl (fun done (key, value) => insertByKey key value done) done).map
        Prod.fst ↔
      key ∈ entries.map Prod.fst ∨ key ∈ done.map Prod.fst := by
  induction entries generalizing done with
  | nil => simp
  | cons entry entries ih =>
      rw [List.foldl_cons, ih, List.map_cons, List.mem_cons,
        mem_map_fst_insertByKey fun _ _ => Std.LawfulEqOrd.compare_eq_iff_eq]
      tauto

/-- Of several entries with one key the last counts. -/
theorem lookup_foldl {key : κ} (entries : List (κ × β)) :
    (entries.foldl (fun done (key, value) => insertByKey key value done) done).lookup key =
      (entries.reverse.lookup key).or (done.lookup key) := by
  induction entries generalizing done with
  | nil => rfl
  | cons entry entries ih =>
      rw [List.foldl_cons, ih, lookup_insertByKey fun _ _ => Std.LawfulEqOrd.compare_eq_iff_eq,
        List.reverse_cons, List.lookup_append, List.lookup_cons, Option.or_assoc]
      by_cases hkey : key = entry.1
      · simp [hkey]
      · simp [hkey, beq_false_of_ne hkey]

end Folding

namespace Similarity

theorem notMem_repr {c : Char} (hc : ¬('0' ≤ c ∧ c ≤ '9')) (n : ℕ) :
    c ∉ (Nat.repr n).toList.reverse := by
  intro hmem
  exact hc (CellText.digit_of_mem_repr (List.mem_reverse.mp hmem))

/-- A number is read back from its end, so the name of the sheet may hold any of the
separators. -/
theorem statementKey_inj
    {sheet sheet' : String} {row row' column column' : ℕ}
    (hkey : statementKey sheet row column = statementKey sheet' row' column') :
    sheet = sheet' ∧ row = row' ∧ column = column' := by
  have hlist : ∀ (sheet : String) (row column : ℕ),
      (statementKey sheet row column).toList.reverse =
        (Nat.repr column).toList.reverse ++
          ',' :: ((Nat.repr row).toList.reverse ++ '@' :: sheet.toList.reverse) := by
    intro sheet row column
    simp [statementKey]
  have hreversed := congrArg (fun key => key.toList.reverse) hkey
  simp only [hlist] at hreversed
  rcases append_cons_inj_of_notMem (notMem_repr (by decide) _) (notMem_repr (by decide) _)
    hreversed with ⟨hcolumn, hrest⟩
  rcases append_cons_inj_of_notMem (notMem_repr (by decide) _) (notMem_repr (by decide) _)
    hrest with ⟨hrow, hsheet⟩
  rw [List.reverse_inj, String.toList_inj] at hsheet hrow hcolumn
  exact ⟨hsheet, Nat.repr_injective hrow, Nat.repr_injective hcolumn⟩

/-- Where an observation says something: the plain name of a sheet, a row and a chosen
column. -/
def places (columns : List ℕ) (o : Observation) : List (String × ℕ × ℕ) :=
  o.sheets.flatMap fun s =>
    (s.cells.filter fun ((_, column), _) => columns.contains column).map
      fun ((row, column), _) => (plainName s.name, row, column)

def placeKey (place : String × ℕ × ℕ) : String := statementKey place.1 place.2.1 place.2.2

theorem placeKey_injective : Function.Injective placeKey := by
  intro place place' hkey
  rcases statementKey_inj hkey with ⟨hsheet, hrow, hcolumn⟩
  exact Prod.ext hsheet (Prod.ext hrow hcolumn)

variable {columns : List ℕ} {o : Observation}

theorem map_fst_sheetStatements (columns : List ℕ) (o : Observation) :
    (o.sheets.flatMap (sheetStatements columns)).map Prod.fst =
      (places columns o).map placeKey := by
  unfold places sheetStatements
  rw [List.map_flatMap, List.map_flatMap]
  apply List.flatMap_congr
  intro s _
  rw [List.map_map, List.map_map]
  rfl

theorem mem_keys_statements {key : String} :
    key ∈ (statements columns o).map Prod.fst ↔ ∃ place ∈ places columns o, placeKey place = key := by
  unfold statements
  rw [mem_map_fst_foldl, map_fst_sheetStatements]
  simp

/-- What an observation says last under a key. -/
def lastCell (columns : List ℕ) (o : Observation) (key : String) : Option String :=
  (o.sheets.flatMap (sheetStatements columns)).reverse.lookup key

theorem lookup_statements {key : String} :
    (statements columns o).lookup key = lastCell columns o key := by
  unfold statements lastCell
  rw [lookup_foldl]
  exact Option.or_none

section Keys

variable (expected actual : List (String × String))

theorem allKeys_eq :
    allKeys expected actual =
      (((expected ++ actual).map fun entry => (entry.1, ())).foldl
        (fun done (key, value) => insertByKey key value done) []).map Prod.fst := by
  unfold allKeys
  rw [List.foldl_map]

theorem mem_allKeys {key : String} :
    key ∈ allKeys expected actual ↔
      key ∈ expected.map Prod.fst ∨ key ∈ actual.map Prod.fst := by
  rw [allKeys_eq, mem_map_fst_foldl]
  simp [List.map_map, Function.comp_def]

theorem pairwise_allKeys :
    (allKeys expected actual).Pairwise fun key key' => compare key key' = .lt := by
  rw [allKeys_eq, List.pairwise_map]
  exact sortedKeys_foldl List.Pairwise.nil _

theorem nodup_allKeys : (allKeys expected actual).Nodup := by
  rw [allKeys_eq]
  exact (sortedKeys_foldl List.Pairwise.nil _).nodup

theorem allKeys_comm : allKeys expected actual = allKeys actual expected := by
  have hperm : (allKeys expected actual).Perm (allKeys actual expected) := by
    apply (List.perm_ext_iff_of_nodup (nodup_allKeys _ _) (nodup_allKeys _ _)).mpr
    intro key
    rw [mem_allKeys, mem_allKeys, or_comm]
  apply hperm.eq_of_pairwise _ (pairwise_allKeys _ _) (pairwise_allKeys _ _)
  intro key key' _ _ hlt hgt
  have hself := Std.TransCmp.lt_trans hlt hgt
  rw [Std.ReflOrd.compare_self] at hself
  cases hself

end Keys

end Similarity

end Refit
