import Refit.Proofs.Store.Batches
import Refit.Proofs.Store.Documents
import Refit.Proofs.Store.Paths

/-!
# What a folder holds

A batch is written sheet by sheet.  The file of a sheet is read, the cells are merged into
it, and it is written again, so every sheet that is kept in the same file gets them too.
-/

namespace Refit

theorem SheetKey.mem_cellsIn_iff {key : SheetKey} {cells : List (CellAddress × String)}
    {place : ℕ × ℕ} {text : String} :
    (place, text) ∈ key.cellsIn cells ↔ (key.cell place.1 place.2, text) ∈ cells := by
  unfold cellsIn
  rw [List.mem_map]
  constructor
  · rintro ⟨⟨⟨sheet, row, column⟩, text⟩, hentry, ⟨⟩⟩
    obtain ⟨hmem, hsheet⟩ := List.mem_filter.mp hentry
    cases beq_iff_eq.mp hsheet
    exact hmem
  · intro hmem
    exact ⟨_, List.mem_filter.mpr ⟨hmem, beq_self_eq_true _⟩, rfl⟩

theorem SheetKey.cellsIn_append_singleton (key : SheetKey) (cells : List (CellAddress × String))
    (entry : CellAddress × String) :
    key.cellsIn (cells ++ [entry]) = key.cellsIn cells ++
      if entry.1.sheet = key then [((entry.1.row, entry.1.column), entry.2)] else [] := by
  unfold cellsIn
  rw [List.filter_append, List.map_append, List.filter_singleton]
  by_cases hkey : entry.1.sheet = key
  · simp [hkey]
  · simp [hkey, beq_false_of_ne hkey]

namespace FolderStore

section Groups

variable {key : SheetKey} {cell : (ℕ × ℕ) × String}
  {done : List (SheetKey × List ((ℕ × ℕ) × String))} {cells : List (CellAddress × String)}

theorem group_eq_insertByKey (hsorted : SortedKeys done) :
    group key cell done = insertByKey key ((done.lookup key).getD [] ++ [cell]) done := by
  induction done with
  | nil => rfl
  | cons entry rest ih =>
      obtain ⟨other, held⟩ := entry
      obtain ⟨hlater, hrest⟩ := List.pairwise_cons.mp hsorted
      rw [group, insertByKey, List.lookup_cons]
      cases hcompare : compare key other with
      | lt =>
          have hne : key ≠ other := by
            rintro rfl
            rw [Std.ReflOrd.compare_self] at hcompare
            cases hcompare
          have hnone : rest.lookup key = none := by
            rw [lookup_eq_none_iff_keys, List.mem_map]
            rintro ⟨entry, hentry, rfl⟩
            have hself := Std.TransCmp.lt_trans hcompare (hlater entry hentry)
            rw [Std.ReflOrd.compare_self] at hself
            cases hself
          simp [beq_false_of_ne hne, hnone]
      | eq =>
          cases Std.LawfulEqOrd.eq_of_compare hcompare
          simp
      | gt =>
          have hne : key ≠ other := by
            rintro rfl
            rw [Std.ReflOrd.compare_self] at hcompare
            cases hcompare
          simp only [beq_false_of_ne hne]
          rw [ih hrest]

theorem grouped_append_singleton (cells : List (CellAddress × String))
    (entry : CellAddress × String) :
    grouped (cells ++ [entry]) =
      group entry.1.sheet ((entry.1.row, entry.1.column), entry.2) (grouped cells) := by
  unfold grouped
  rw [List.foldl_append]
  rfl

theorem sortedKeys_grouped (cells : List (CellAddress × String)) :
    SortedKeys (grouped cells) := by
  -- The cells are grouped from the front, so the last one is taken off.
  induction cells using List.reverseRecOn with
  | nil => exact List.Pairwise.nil
  | append_singleton cells entry ih =>
      rw [grouped_append_singleton, group_eq_insertByKey ih]
      exact ih.insertByKey _ _

theorem lookup_grouped (cells : List (CellAddress × String)) (key : SheetKey) :
    (grouped cells).lookup key =
      if key.cellsIn cells = [] then none else some (key.cellsIn cells) := by
  induction cells using List.reverseRecOn generalizing key with
  | nil => rfl
  | append_singleton cells entry ih =>
      rw [grouped_append_singleton, group_eq_insertByKey (sortedKeys_grouped cells),
        lookup_insertByKey fun _ _ => SheetKey.compare_eq_iff]
      have hheld : ((grouped cells).lookup entry.1.sheet).getD [] =
          entry.1.sheet.cellsIn cells := by
        rw [ih entry.1.sheet]
        split_ifs with hempty
        · exact hempty.symm
        · rfl
      rw [hheld, SheetKey.cellsIn_append_singleton, ih key]
      by_cases hkey : key = entry.1.sheet
      · subst hkey
        simp
      · simp [hkey, Ne.symm hkey]

theorem mem_grouped_iff {group : List ((ℕ × ℕ) × String)} :
    (key, group) ∈ grouped cells ↔ group = key.cellsIn cells ∧ group ≠ [] := by
  rw [mem_iff_lookup (sortedKeys_grouped cells).nodup, lookup_grouped]
  split_ifs with hempty
  · simp [hempty]
  · constructor
    · rintro ⟨⟩
      exact ⟨rfl, hempty⟩
    · rintro ⟨rfl, -⟩
      rfl

end Groups

section Merging

variable {s : FolderStore} {key : SheetKey} {held merged cells : List ((ℕ × ℕ) × String)}

theorem sortedCells_merge (hmerge : s.merge key held cells = .ok merged)
    (hheld : Sheet.SortedCells held) : Sheet.SortedCells merged := by
  induction cells generalizing held with
  | nil =>
      cases hmerge
      exact hheld
  | cons entry rest ih =>
      obtain ⟨place, cell⟩ := entry
      rw [merge] at hmerge
      split at hmerge
      · split_ifs at hmerge
        exact ih hmerge hheld
      · exact ih hmerge hheld.insertCell

/-- Merged cells are those that were there and those that are new, none over another. -/
theorem lookup_merge (hmerge : s.merge key held cells = .ok merged) {place : ℕ × ℕ}
    {text : String} :
    merged.lookup place = some text ↔ held.lookup place = some text ∨ (place, text) ∈ cells := by
  induction cells generalizing held with
  | nil =>
      cases hmerge
      simp
  | cons entry rest ih =>
      obtain ⟨first, cell⟩ := entry
      rw [merge] at hmerge
      rw [List.mem_cons, Prod.mk.injEq]
      split at hmerge
      · next other hother =>
        split_ifs at hmerge with hsame
        rw [ih hmerge]
        constructor
        · tauto
        · rintro (hheld | ⟨rfl, rfl⟩ | hin)
          · exact Or.inl hheld
          · exact Or.inl (hother.trans (congrArg some hsame))
          · exact Or.inr hin
      · next hfree =>
        rw [ih hmerge, Sheet.lookup_insertCell]
        by_cases hplace : place = first
        · subst hplace
          simp [hfree, eq_comm]
        · simp [hplace]

/-- Cells that are not merged are refused at one that is there with another text; those
before it have been merged. -/
theorem exists_of_merge_error {e : Error} (hmerge : s.merge key held cells = .error e) :
    ∃ before place cell after merged other, cells = before ++ (place, cell) :: after ∧
      s.merge key held before = .ok merged ∧ merged.lookup place = some other ∧ other ≠ cell ∧
      e = .cellStoredIn key.scope.sheetId place.1 place.2 (s.shown (sheetParts key)) := by
  induction cells generalizing held with
  | nil => cases hmerge
  | cons entry rest ih =>
      obtain ⟨first, text⟩ := entry
      rw [merge] at hmerge
      split at hmerge
      · next found hfound =>
        split_ifs at hmerge with hsame
        · obtain ⟨before, place, cell, after, merged, other, rfl, htaken, hend⟩ := ih hmerge
          refine ⟨(first, text) :: before, place, cell, after, merged, other, rfl, ?_, hend⟩
          rw [merge, hfound]
          simp only [hsame, if_true]
          exact htaken
        · cases hmerge
          exact ⟨[], first, text, rest, held, found, rfl, rfl, hfound, hsame, rfl⟩
      · next hfree =>
        obtain ⟨before, place, cell, after, merged, other, rfl, htaken, hend⟩ := ih hmerge
        refine ⟨(first, text) :: before, place, cell, after, merged, other, rfl, ?_, hend⟩
        rw [merge, hfree]
        exact htaken

theorem merge_of_agree (hagree : ∀ place text other, (place, text) ∈ cells →
      held.lookup place = some other ∨ (place, other) ∈ cells → other = text) :
    ∃ merged, s.merge key held cells = .ok merged := by
  cases hmerge : s.merge key held cells with
  | ok merged => exact ⟨merged, rfl⟩
  | error e =>
      obtain ⟨before, place, cell, after, merged, other, rfl, htaken, hother, hne, -⟩ :=
        exists_of_merge_error hmerge
      refine absurd (hagree place cell other (by simp) ?_) hne
      refine ((lookup_merge htaken).mp hother).imp_right fun hin => ?_
      exact List.mem_append_left _ hin

end Merging

/-- What every file of a sheet is like after some batches. -/
structure Sound (s : FolderStore) : Prop where
  /-- No folder is as deep as the file of a sheet. -/
  shallow : ∀ folder ∈ s.files.folders, folder.length ≤ 3
  /-- The file of a sheet is reached by its path. -/
  reached : ∀ key : SheetKey, key.Named → s.files.file? (sheetParts key) ≠ none →
    s.files.place? (sheetParts key) = some (sheetParts key)
  /-- The file of a sheet is read as a sheet, whose cells are in order. -/
  legible : ∀ key : SheetKey, key.Named → ∀ text, s.files.file? (sheetParts key) = some text →
    ∃ document, SheetDocument.parse? text = some document ∧ document.Storable ∧
      Sheet.SortedCells document.cells

section Reading

variable {s s' : FolderStore} {key : SheetKey}

theorem sound_empty (root : String) : Sound ⟨root, {}⟩ := by
  refine ⟨by simp, ?_, ?_⟩
  · intro key _ hfile
    exact absurd rfl hfile
  · intro key _ text htext
    cases htext

theorem walk_sheetParts (hnamed : key.Named) :
    FilePath.walk [] (sheetParts key) = sheetParts key := by
  rw [FilePath.walk_plain hnamed.plain, List.nil_append]

theorem Sound.isFolder_sheetParts (hs : s.Sound) (hnamed : key.Named) :
    s.files.isFolder (sheetParts key) = false := by
  have hdeep : sheetParts key ∉ s.files.folders := fun hfolder =>
    absurd (hs.shallow _ hfolder) (by rw [SheetKey.length_sheetParts]; omega)
  have hfirst : part key.scope.executionId ≠ ".." := (hnamed.plain _ List.mem_cons_self).2
  rw [FileSystem.isFolder, Bool.or_eq_false_iff]
  refine ⟨?_, ?_⟩
  · simp [sheetParts, candidateParts, hfirst]
  · simpa using hdeep

theorem Sound.storedCells_of_none (hs : s.Sound) (hnamed : key.Named)
    (hfile : s.files.file? (sheetParts key) = none) : s.storedCells key = .ok [] := by
  have hcontains : s.files.contains (sheetParts key) = false := by
    unfold FileSystem.contains
    split
    · next place hplace =>
      have hwalk := FileSystem.follow?_eq_walk hplace
      rw [walk_sheetParts hnamed] at hwalk
      rw [hwalk, hs.isFolder_sheetParts hnamed, hfile]
      rfl
    · rfl
  unfold storedCells
  simp [hcontains]

theorem Sound.storedCells_of_some (hs : s.Sound) (hnamed : key.Named) {text : String}
    {document : SheetDocument} (hfile : s.files.file? (sheetParts key) = some text)
    (hparse : SheetDocument.parse? text = some document)
    (hsorted : Sheet.SortedCells document.cells) : s.storedCells key = .ok document.cells := by
  have hplace := hs.reached key hnamed (by rw [hfile]; exact Option.some_ne_none _)
  have hcontains : s.files.contains (sheetParts key) = true := by
    unfold FileSystem.contains
    rw [hplace]
    simp [hfile]
  have hread : s.files.read (sheetParts key) = .ok text := by
    unfold FileSystem.read
    rw [hplace]
    simp [hfile]
  unfold storedCells
  simp [hcontains, hread, hparse, hsorted.cells_ofCells]

theorem Sound.exists_storedCells (hs : s.Sound) (hnamed : key.Named) :
    ∃ cells, s.storedCells key = .ok cells ∧ Sheet.SortedCells cells ∧
      ∀ cell ∈ cells, cell.1.1 < 2 ^ 64 ∧ cell.1.2 < 2 ^ 64 := by
  cases hfile : s.files.file? (sheetParts key) with
  | none =>
      exact ⟨[], hs.storedCells_of_none hnamed hfile, List.Pairwise.nil, by simp⟩
  | some text =>
      obtain ⟨document, hparse, hstorable, hsorted⟩ := hs.legible key hnamed text hfile
      exact ⟨document.cells, hs.storedCells_of_some hnamed hfile hparse hsorted, hsorted,
        hstorable.cells⟩

theorem Sound.storedCells_congr (hs : s.Sound) (hs' : s'.Sound) (hnamed : key.Named)
    (hfile : s'.files.file? (sheetParts key) = s.files.file? (sheetParts key)) :
    s'.storedCells key = s.storedCells key := by
  cases hheld : s.files.file? (sheetParts key) with
  | none =>
      rw [hs.storedCells_of_none hnamed hheld,
        hs'.storedCells_of_none hnamed (hfile.trans hheld)]
  | some text =>
      obtain ⟨document, hparse, -, hsorted⟩ := hs.legible key hnamed text hheld
      rw [hs.storedCells_of_some hnamed hheld hparse hsorted,
        hs'.storedCells_of_some hnamed (hfile.trans hheld) hparse hsorted]

theorem sortedCells_storedCells {cells : List ((ℕ × ℕ) × String)}
    (hcells : s.storedCells key = .ok cells) : Sheet.SortedCells cells := by
  unfold storedCells at hcells
  simp only at hcells
  split_ifs at hcells
  · cases hcells
    exact List.Pairwise.nil
  · split at hcells
    · cases hcells
    · split at hcells
      · cases hcells
        exact Sheet.ofCells_sorted _ _
      · cases hcells

theorem storedCells_of_sharesFile {other : SheetKey} (s : FolderStore)
    (hshares : key.SharesFile other) : s.storedCells key = s.storedCells other := by
  unfold storedCells
  rw [SheetKey.sharesFile_iff.mp hshares]

end Reading

section Writing

variable {s : FolderStore} {key : SheetKey} {files : FileSystem} {document : SheetDocument}

theorem sheetParts_eq_walk_iff {other : SheetKey} (hnamed : other.Named) :
    sheetParts other = FilePath.walk [] (sheetParts key) ↔ other.SharesFile key := by
  rw [SheetKey.sharesFile_iff]
  constructor
  · intro hwalk
    have hlength : (sheetParts key).length = (sheetParts other).length :=
      (SheetKey.length_sheetParts key).trans (SheetKey.length_sheetParts other).symm
    exact (FilePath.eq_of_walk_eq hwalk.symm hlength).symm
  · intro hparts
    exact (walk_sheetParts hnamed).symm.trans (congrArg (FilePath.walk []) hparts)

theorem Sound.writeBelow_error (hs : s.Sound) {text : String} {e : Error}
    (hwrite : s.files.writeBelow (sheetParts key) text = (files, .error e)) :
    Sound { s with files } ∧ files.files = s.files.files := by
  have hdeepens := FileSystem.writeBelow_error hwrite (List.cons_ne_nil _ _)
  have hfile : ∀ q, files.file? q = s.files.file? q := by
    intro q
    rw [FileSystem.file?, hdeepens.files]
    rfl
  refine ⟨⟨?_, ?_, ?_⟩, hdeepens.files⟩
  · intro folder hfolder
    exact (hdeepens.folders folder hfolder).elim (hs.shallow folder) id
  · intro other hnamed hheld
    rw [hfile] at hheld
    exact hdeepens.grows.follow? (hs.reached other hnamed hheld)
  · intro other hnamed text htext
    rw [hfile] at htext
    exact hs.legible other hnamed text htext

/-- A sheet is written into the file that it is kept in, and no other sheet's file changes. -/
theorem Sound.writeBelow_ok (hs : s.Sound) (hstorable : key.Named → document.Storable)
    (hsorted : Sheet.SortedCells document.cells)
    (hwrite : s.files.writeBelow (sheetParts key) document.write.pretty = (files, .ok ())) :
    Sound { s with files } ∧ ∀ other : SheetKey, other.Named →
      (other.SharesFile key → files.file? (sheetParts other) = some document.write.pretty) ∧
      (¬ other.SharesFile key →
        files.file? (sheetParts other) = s.files.file? (sheetParts other)) := by
  obtain ⟨hplace, hgrows, hfolders, hfiles⟩ :=
    FileSystem.writeBelow_ok hwrite (List.cons_ne_nil _ _)
  have hshared : ∀ other : SheetKey, other.Named → other.SharesFile key →
      files.file? (sheetParts other) = some document.write.pretty := by
    intro other hnamed hshares
    rw [hfiles, if_pos ((sheetParts_eq_walk_iff hnamed).mpr hshares)]
  have hother : ∀ other : SheetKey, other.Named → ¬ other.SharesFile key →
      files.file? (sheetParts other) = s.files.file? (sheetParts other) := by
    intro other hnamed hapart
    rw [hfiles, if_neg (mt (sheetParts_eq_walk_iff hnamed).mp hapart)]
  refine ⟨⟨?_, ?_, ?_⟩, fun other hnamed => ⟨hshared other hnamed, hother other hnamed⟩⟩
  · intro folder hfolder
    exact (hfolders folder hfolder).elim (hs.shallow folder) id
  · intro other hnamed hheld
    by_cases hshares : other.SharesFile key
    · have hparts := SheetKey.sharesFile_iff.mp hshares
      have hwalk := (sheetParts_eq_walk_iff hnamed).mpr hshares
      rw [hparts, hplace, ← hwalk, hparts]
    · simp only [hother other hnamed hshares] at hheld
      exact hgrows.follow? (hs.reached other hnamed hheld)
  · intro other hnamed text htext
    by_cases hshares : other.SharesFile key
    · simp only [hshared other hnamed hshares, Option.some.injEq] at htext
      subst htext
      have hstorable' := hstorable (hnamed.of_sharesFile hshares)
      exact ⟨document, SheetDocument.parse?_write hstorable', hstorable', hsorted⟩
    · simp only [hother other hnamed hshares] at htext
      exact hs.legible other hnamed text htext

end Writing

/-- The sheet has this cell. -/
def Has (s : FolderStore) (key : SheetKey) (place : ℕ × ℕ) (text : String) : Prop :=
  ∃ cells, s.storedCells key = .ok cells ∧ cells.lookup place = some text

theorem Has.unique {s : FolderStore} {key : SheetKey} {place : ℕ × ℕ} {text text' : String}
    (h : s.Has key place text) (h' : s.Has key place text') : text = text' := by
  obtain ⟨cells, hcells, htext⟩ := h
  obtain ⟨cells', hcells', htext'⟩ := h'
  cases hcells.symm.trans hcells'
  exact Option.some.inj (htext.symm.trans htext')

theorem not_has_empty {root : String} {key : SheetKey} (hnamed : key.Named) {place : ℕ × ℕ}
    {text : String} : ¬ Has ⟨root, {}⟩ key place text := by
  rintro ⟨cells, hcells, hlookup⟩
  rw [(sound_empty root).storedCells_of_none hnamed rfl] at hcells
  cases hcells
  cases hlookup

/-- All numbers of an address fit 64 bits. -/
def Storable (address : CellAddress) : Prop :=
  address.sheet.scope.adapterId < 2 ^ 64 ∧ address.row < 2 ^ 64 ∧ address.column < 2 ^ 64

section Steps

variable {s : FolderStore} {key : SheetKey} {cells : List ((ℕ × ℕ) × String)}

theorem putSheet_cases (s : FolderStore) (key : SheetKey) (cells : List ((ℕ × ℕ) × String)) :
    (∃ e, s.putSheet key cells = (s, .error e)) ∨
      ∃ held merged, s.storedCells key = .ok held ∧ s.merge key held cells = .ok merged ∧
        ∃ files result, s.files.writeBelow (sheetParts key)
            (SheetDocument.mk key merged).write.pretty = (files, result) ∧
          s.putSheet key cells = ({ s with files }, result) := by
  unfold putSheet
  cases hstored : s.storedCells key with
  | error e => exact Or.inl ⟨e, rfl⟩
  | ok held =>
      cases hmerge : s.merge key held cells with
      | error e => exact Or.inl ⟨e, by simp only [hmerge]⟩
      | ok merged =>
          rcases hwrite : s.files.writeBelow (sheetParts key)
            (SheetDocument.mk key merged).write.pretty with ⟨files, result⟩
          refine Or.inr ⟨held, merged, rfl, hmerge, files, result, hwrite, ?_⟩
          simp only [hmerge, hwrite]

/-- A sheet that is not taken leaves all sheets as they were. -/
theorem Sound.putSheet_error (hs : s.Sound) {e : Error}
    (hrefused : (s.putSheet key cells).2 = .error e) :
    (s.putSheet key cells).1.Sound ∧ ∀ other : SheetKey, other.Named →
      (s.putSheet key cells).1.storedCells other = s.storedCells other := by
  rcases putSheet_cases s key cells with
    ⟨e', hput⟩ | ⟨held, merged, -, -, files, result, hwrite, hput⟩
  · rw [hput]
    exact ⟨hs, fun _ _ => rfl⟩
  · rw [hput] at hrefused ⊢
    cases hrefused
    obtain ⟨hsound, hfiles⟩ := hs.writeBelow_error hwrite
    refine ⟨hsound, fun other hnamed => hs.storedCells_congr hsound hnamed ?_⟩
    rw [FileSystem.file?, hfiles]
    rfl

/-- A sheet that is taken gives its cells to those that are kept with it. -/
theorem Sound.putSheet_ok (hs : s.Sound) (hadapter : key.scope.adapterId < 2 ^ 64)
    (hcells : ∀ cell ∈ cells, cell.1.1 < 2 ^ 64 ∧ cell.1.2 < 2 ^ 64)
    (htaken : (s.putSheet key cells).2 = .ok ()) :
    (s.putSheet key cells).1.Sound ∧ ∀ other : SheetKey, other.Named →
      (¬ other.SharesFile key →
        (s.putSheet key cells).1.storedCells other = s.storedCells other) ∧
      ∀ place text, (s.putSheet key cells).1.Has other place text ↔
        s.Has other place text ∨ other.SharesFile key ∧ (place, text) ∈ cells := by
  rcases putSheet_cases s key cells with
    ⟨e', hput⟩ | ⟨held, merged, hheld, hmerge, files, result, hwrite, hput⟩
  · rw [hput] at htaken
    cases htaken
  · rw [hput] at htaken ⊢
    cases htaken
    have hsorted := sortedCells_merge hmerge (sortedCells_storedCells hheld)
    -- The file is read back only if all its numbers fit, those that were there included.
    have hstorable : key.Named → (SheetDocument.mk key merged).Storable := by
      intro hnamed
      obtain ⟨held', hheld', -, hbound⟩ := hs.exists_storedCells hnamed
      cases hheld.symm.trans hheld'
      refine ⟨hadapter, fun cell hcell => ?_⟩
      rcases (lookup_merge hmerge).mp ((mem_iff_lookup hsorted.nodup).mp hcell) with hold | hnew
      · exact hbound cell (mem_of_lookup_eq_some hold)
      · exact hcells cell hnew
    obtain ⟨hsound, hfiles⟩ := hs.writeBelow_ok hstorable hsorted hwrite
    refine ⟨hsound, fun other hnamed => ?_⟩
    have hapart : ¬ other.SharesFile key →
        storedCells { s with files } other = s.storedCells other :=
      fun hapart => hs.storedCells_congr hsound hnamed ((hfiles other hnamed).2 hapart)
    refine ⟨hapart, fun place text => ?_⟩
    by_cases hshares : other.SharesFile key
    · have hparse := SheetDocument.parse?_write (hstorable (hnamed.of_sharesFile hshares))
      have hmerged := hsound.storedCells_of_some hnamed ((hfiles other hnamed).1 hshares) hparse
        hsorted
      have hold : s.storedCells other = .ok held :=
        (storedCells_of_sharesFile s hshares).trans hheld
      simp only [Has, hmerged, hold, Except.ok.injEq, exists_eq_left', hshares, true_and]
      exact lookup_merge hmerge
    · simp only [Has, hapart hshares, hshares, false_and, or_false]

end Steps

section Batches

variable {s : FolderStore} {groups : List (SheetKey × List ((ℕ × ℕ) × String))}
  {cells : List (CellAddress × String)}

/-- All numbers of the cells fit 64 bits. -/
def StorableGroup (group : SheetKey × List ((ℕ × ℕ) × String)) : Prop :=
  group.1.scope.adapterId < 2 ^ 64 ∧ ∀ cell ∈ group.2, cell.1.1 < 2 ^ 64 ∧ cell.1.2 < 2 ^ 64

@[simp] theorem putSheets_nil (s : FolderStore) : s.putSheets [] = (s, .ok ()) := rfl

theorem putSheets_cons (s : FolderStore) (key : SheetKey) (cells : List ((ℕ × ℕ) × String))
    (rest : List (SheetKey × List ((ℕ × ℕ) × String))) :
    s.putSheets ((key, cells) :: rest) =
      match s.putSheet key cells with
      | (s, .error e) => (s, .error e)
      | (s, .ok _) => s.putSheets rest := rfl

theorem Sound.putSheets (hs : s.Sound) (hgroups : ∀ group ∈ groups, StorableGroup group) :
    (s.putSheets groups).1.Sound := by
  induction groups generalizing s with
  | nil => exact hs
  | cons group rest ih =>
      obtain ⟨key, cells⟩ := group
      obtain ⟨⟨hadapter, hcells⟩, hrest⟩ := List.forall_mem_cons.mp hgroups
      rw [putSheets_cons]
      split
      · next s' e hput =>
        have hrefused : (s.putSheet key cells).2 = .error e := by rw [hput]
        have hsound := (hs.putSheet_error hrefused).1
        rw [hput] at hsound
        exact hsound
      · next s' _ hput =>
        have hsound := (hs.putSheet_ok hadapter hcells (by rw [hput])).1
        rw [hput] at hsound
        exact ih hsound hrest

theorem Sound.has_putSheets (hs : s.Sound) (hgroups : ∀ group ∈ groups, StorableGroup group)
    (htaken : (s.putSheets groups).2 = .ok ()) {other : SheetKey} (hnamed : other.Named)
    {place : ℕ × ℕ} {text : String} :
    (s.putSheets groups).1.Has other place text ↔
      s.Has other place text ∨
        ∃ group ∈ groups, other.SharesFile group.1 ∧ (place, text) ∈ group.2 := by
  induction groups generalizing s with
  | nil => simp
  | cons group rest ih =>
      obtain ⟨key, cells⟩ := group
      obtain ⟨⟨hadapter, hcells⟩, hrest⟩ := List.forall_mem_cons.mp hgroups
      rw [putSheets_cons] at htaken ⊢
      split at htaken
      · cases htaken
      · next s' _ hput =>
        obtain ⟨hsound, hhas⟩ := hs.putSheet_ok hadapter hcells (by rw [hput])
        rw [hput] at hsound hhas
        rw [ih hsound hrest htaken, (hhas other hnamed).2, List.exists_mem_cons_iff, or_assoc]

/-- No cell is lost, whether the groups are taken or not. -/
theorem Sound.has_putSheets_of_has (hs : s.Sound) (hgroups : ∀ group ∈ groups, StorableGroup group)
    {other : SheetKey} (hnamed : other.Named) {place : ℕ × ℕ} {text : String}
    (hhas : s.Has other place text) : (s.putSheets groups).1.Has other place text := by
  induction groups generalizing s with
  | nil => exact hhas
  | cons group rest ih =>
      obtain ⟨key, cells⟩ := group
      obtain ⟨⟨hadapter, hcells⟩, hrest⟩ := List.forall_mem_cons.mp hgroups
      rw [putSheets_cons]
      split
      · next s' e hput =>
        have hrefused : (s.putSheet key cells).2 = .error e := by rw [hput]
        have hsame := (hs.putSheet_error hrefused).2 other hnamed
        rw [hput] at hsame
        rw [Has, hsame]
        exact hhas
      · next s' _ hput =>
        have htaken := hs.putSheet_ok hadapter hcells (by rw [hput])
        rw [hput] at htaken
        exact ih htaken.1 hrest (((htaken.2 other hnamed).2 place text).mpr (Or.inl hhas))

theorem storableGroup_of_mem_grouped (hcells : ∀ entry ∈ cells, Storable entry.1) :
    ∀ group ∈ grouped cells, StorableGroup group := by
  rintro ⟨key, group⟩ hgroup
  obtain ⟨rfl, hne⟩ := mem_grouped_iff.mp hgroup
  obtain ⟨⟨place, text⟩, hfirst⟩ := List.exists_mem_of_ne_nil _ hne
  refine ⟨(hcells _ (SheetKey.mem_cellsIn_iff.mp hfirst)).1, ?_⟩
  rintro ⟨place, text⟩ hcell
  exact (hcells _ (SheetKey.mem_cellsIn_iff.mp hcell)).2

theorem Sound.enterCells (hs : s.Sound) (hcells : ∀ entry ∈ cells, Storable entry.1) :
    (s.enterCells cells).1.Sound :=
  hs.putSheets (storableGroup_of_mem_grouped hcells)

theorem Sound.has_enterCells (hs : s.Sound) (hcells : ∀ entry ∈ cells, Storable entry.1)
    (htaken : (s.enterCells cells).2 = .ok ()) {other : SheetKey} (hnamed : other.Named)
    {place : ℕ × ℕ} {text : String} :
    (s.enterCells cells).1.Has other place text ↔
      s.Has other place text ∨
        ∃ key, other.SharesFile key ∧ (key.cell place.1 place.2, text) ∈ cells := by
  refine (hs.has_putSheets (storableGroup_of_mem_grouped hcells) htaken hnamed).trans ?_
  refine or_congr_right ?_
  constructor
  · rintro ⟨⟨key, group⟩, hgroup, hshares, hmem⟩
    obtain ⟨rfl, -⟩ := mem_grouped_iff.mp hgroup
    exact ⟨key, hshares, SheetKey.mem_cellsIn_iff.mp hmem⟩
  · rintro ⟨key, hshares, hmem⟩
    have hmem := SheetKey.mem_cellsIn_iff.mpr hmem
    exact ⟨(key, key.cellsIn cells), mem_grouped_iff.mpr ⟨rfl, List.ne_nil_of_mem hmem⟩, hshares,
      hmem⟩

end Batches

section Runs

variable {s : FolderStore} {batches : List (List (CellAddress × String))}

theorem Sound.afterBatches (hs : s.Sound)
    (hbatches : ∀ entry ∈ batches.flatten, Storable entry.1) :
    (store.afterBatches s batches).Sound := by
  refine Archive.afterBatches_invariant (fun cells hcells s hs => ?_) hs
  exact hs.enterCells fun entry hentry =>
    hbatches entry (List.mem_flatten.mpr ⟨cells, hcells, hentry⟩)

/-- Batches that are all taken give their cells to the sheets that are kept with theirs. -/
theorem Sound.has_afterBatches (hs : s.Sound)
    (hbatches : ∀ entry ∈ batches.flatten, Storable entry.1)
    (htaken : ∀ answer ∈ store.answers s batches, answer = .ok ())
    {other : SheetKey} (hnamed : other.Named) {place : ℕ × ℕ} {text : String} :
    (store.afterBatches s batches).Has other place text ↔
      s.Has other place text ∨
        ∃ key, other.SharesFile key ∧ (key.cell place.1 place.2, text) ∈ batches.flatten := by
  induction batches generalizing s with
  | nil => simp [Archive.afterBatches]
  | cons cells batches ih =>
      rw [Archive.answers, List.forall_mem_cons] at htaken
      rw [List.flatten_cons, List.forall_mem_append] at hbatches
      have hrest := ih (hs.enterCells hbatches.1) hbatches.2 htaken.2
      refine hrest.trans ?_
      rw [hs.has_enterCells hbatches.1 htaken.1 hnamed, List.flatten_cons, or_assoc,
        ← exists_or]
      simp only [List.mem_append, and_or_left]

theorem Sound.exists_sheet {key : SheetKey} (hs : s.Sound) (hnamed : key.Named) :
    ∃ sheet, s.sheet key = .ok sheet ∧ sheet.name = key.scope.sheetId ∧ sheet.Sorted ∧
      ∀ row column text, sheet.get? row column = some text ↔ s.Has key (row, column) text := by
  obtain ⟨cells, hcells, hsorted, -⟩ := hs.exists_storedCells hnamed
  refine ⟨⟨key.scope.sheetId, cells⟩, by rw [sheet, hcells]; rfl, rfl, hsorted, ?_⟩
  intro row column text
  simp only [Has, hcells, Except.ok.injEq, exists_eq_left']
  rfl

/-- The store in an empty folder after some batches. -/
def ofBatches (root : String) (batches : List (List (CellAddress × String))) : FolderStore :=
  store.afterBatches ⟨root, {}⟩ batches

theorem sound_ofBatches {root : String} (hbatches : ∀ entry ∈ batches.flatten, Storable entry.1) :
    (ofBatches root batches).Sound :=
  (sound_empty root).afterBatches hbatches

end Runs

end FolderStore

end Refit
