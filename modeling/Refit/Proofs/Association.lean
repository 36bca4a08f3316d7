import Mathlib.Tactic

/-!
# Association lists

Maps are kept as lists of entries, of which the first with a key counts.  Where no key
comes twice, every entry counts.
-/

namespace Refit

variable {κ β : Type} [BEq κ] [LawfulBEq κ] {entries : List (κ × β)} {key : κ}

theorem lookup_eq_none_iff_keys :
    entries.lookup key = none ↔ key ∉ entries.map Prod.fst := by
  rw [List.lookup_eq_none_iff, List.mem_map]
  constructor
  · rintro hnone ⟨entry, hentry, rfl⟩
    simpa using hnone entry hentry
  · intro hnot entry hentry
    rw [bne_iff_ne]
    rintro rfl
    exact hnot ⟨entry, hentry, rfl⟩

theorem mem_of_lookup_eq_some {value : β} (hvalue : entries.lookup key = some value) :
    (key, value) ∈ entries := by
  obtain ⟨before, after, rfl, -⟩ := List.lookup_eq_some_iff.mp hvalue
  exact List.mem_append_right _ List.mem_cons_self

theorem mem_iff_lookup (hnodup : (entries.map Prod.fst).Nodup) {value : β} :
    (key, value) ∈ entries ↔ entries.lookup key = some value := by
  induction entries with
  | nil => simp
  | cons entry rest ih =>
      obtain ⟨other, held⟩ := entry
      obtain ⟨hnew, hrest⟩ := List.nodup_cons.mp hnodup
      rw [List.lookup_cons, List.mem_cons]
      by_cases hkey : key = other
      · subst hkey
        have hnot : (key, value) ∉ rest := fun hin =>
          hnew (List.mem_map.mpr ⟨_, hin, rfl⟩)
        simp [hnot, eq_comm]
      · simp [hkey, beq_false_of_ne hkey, ih hrest]

theorem lookup_filter_ne [DecidableEq κ] {other : κ} (hne : key ≠ other) :
    (entries.filter (·.1 ≠ other)).lookup key = entries.lookup key := by
  induction entries with
  | nil => rfl
  | cons entry rest ih =>
      obtain ⟨k, held⟩ := entry
      rw [List.filter_cons, List.lookup_cons]
      by_cases hk : k = other
      · subst hk
        simp [beq_false_of_ne hne, ← ih]
      · simp [hk, List.lookup_cons, ← ih]

/-- Keys that stay apart are found again when keys and values are changed. -/
theorem lookup_map
    {κ' β' : Type} [BEq κ'] [LawfulBEq κ'] {g : κ → κ'} (f : β → β')
    (hg : ∀ entry ∈ entries, g key = g entry.1 → key = entry.1) :
    (entries.map fun entry => (g entry.1, f entry.2)).lookup (g key) =
      (entries.lookup key).map f := by
  induction entries with
  | nil => rfl
  | cons entry rest ih =>
      have ih := ih fun entry hentry => hg entry (List.mem_cons_of_mem _ hentry)
      obtain ⟨other, held⟩ := entry
      rw [List.map_cons, List.lookup_cons, List.lookup_cons]
      by_cases hkey : key = other
      · subst hkey
        simp
      · have hapart : g key ≠ g other := fun hsame => hkey (hg _ List.mem_cons_self hsame)
        simp [beq_false_of_ne hkey, beq_false_of_ne hapart, ih]

end Refit
