import Refit.Proofs.Store.Folder

/-!
# Sheets that are kept in one file

A folder keeps apart what its paths keep apart.  Sheets that are kept in one file have each
other's cells, and are refused a cell where another of them has a different one.  Of all
other sheets the folder is a ledger.
-/

namespace Refit

namespace SheetKey

open FolderStore

/-- A file system takes all parts of the path. -/
def Legal (key : SheetKey) : Prop := ∀ part ∈ sheetParts key, FilePath.isLegal part = true

end SheetKey

namespace FolderStore

section Taken

variable {s : FolderStore} {key : SheetKey} {cells : List ((ℕ × ℕ) × String)}
  {groups : List (SheetKey × List ((ℕ × ℕ) × String))}

/-- No file is in the place of a folder. -/
def Clear (s : FolderStore) : Prop := ∀ q : Place, q.length ≤ 3 → s.files.file? q = none

theorem Clear.putSheet (hclear : s.Clear) (hnamed : key.Named)
    (htaken : (s.putSheet key cells).2 = .ok ()) : (s.putSheet key cells).1.Clear := by
  rcases putSheet_cases s key cells with
    ⟨e, hput⟩ | ⟨held, merged, -, -, files, result, hwrite, hput⟩
  · rw [hput] at htaken
    cases htaken
  · rw [hput] at htaken ⊢
    cases htaken
    obtain ⟨-, -, -, hfiles⟩ := FileSystem.writeBelow_ok hwrite (List.cons_ne_nil _ _)
    intro q hq
    rw [hfiles, if_neg, hclear q hq]
    rintro rfl
    rw [walk_sheetParts hnamed, SheetKey.length_sheetParts] at hq
    omega

theorem Sound.putSheet_taken (hs : s.Sound) (hclear : s.Clear) (hnamed : key.Named)
    (hlegal : key.Legal) (hagree : ∀ place text other, (place, text) ∈ cells →
      s.Has key place other ∨ (place, other) ∈ cells → other = text) :
    (s.putSheet key cells).2 = .ok () := by
  obtain ⟨held, hheld, -⟩ := hs.exists_storedCells hnamed
  obtain ⟨merged, hmerge⟩ : ∃ merged, s.merge key held cells = .ok merged := by
    refine merge_of_agree fun place text other hmem hother => ?_
    exact hagree place text other hmem (hother.imp_left fun hlookup => ⟨held, hheld, hlookup⟩)
  have hwrite := FileSystem.writeBelow_taken
    (candidateParts key.scope.executionId key.scope.candidateId ++ [Nat.repr key.scope.adapterId])
    hnamed.plain hlegal hs.shallow hclear (SheetDocument.mk key merged).write.pretty
  unfold putSheet
  simp only [hheld, hmerge]
  exact hwrite

theorem Sound.putSheets_taken (hs : s.Sound) (hclear : s.Clear)
    (hnamed : ∀ group ∈ groups, group.1.Named) (hlegal : ∀ group ∈ groups, group.1.Legal)
    (hstorable : ∀ group ∈ groups, StorableGroup group)
    (hagree : ∀ group ∈ groups, ∀ place text other, (place, text) ∈ group.2 →
      (s.Has group.1 place other ∨
        ∃ group' ∈ groups, group.1.SharesFile group'.1 ∧ (place, other) ∈ group'.2) →
      other = text) :
    (s.putSheets groups).2 = .ok () ∧ (s.putSheets groups).1.Clear := by
  induction groups generalizing s with
  | nil => exact ⟨rfl, hclear⟩
  | cons group rest ih =>
      obtain ⟨key, cells⟩ := group
      obtain ⟨hkey, hnamed⟩ := List.forall_mem_cons.mp hnamed
      obtain ⟨hparts, hlegal⟩ := List.forall_mem_cons.mp hlegal
      obtain ⟨⟨hadapter, hcells⟩, hstorable⟩ := List.forall_mem_cons.mp hstorable
      have htaken : (s.putSheet key cells).2 = .ok () := by
        refine hs.putSheet_taken hclear hkey hparts fun place text other hmem hother => ?_
        refine hagree _ List.mem_cons_self place text other hmem (hother.imp_right fun hin => ?_)
        exact ⟨_, List.mem_cons_self, .refl key, hin⟩
      obtain ⟨hsound, hhas⟩ := hs.putSheet_ok hadapter hcells htaken
      -- A cell that is there for a later group was there before, or came with this one.
      have hrest := ih hsound (hclear.putSheet hkey htaken) hnamed hlegal hstorable (by
        intro group hgroup place text other hmem hother
        refine hagree group (List.mem_cons_of_mem _ hgroup) place text other hmem ?_
        rw [(hhas group.1 (hnamed group hgroup)).2, or_assoc] at hother
        refine hother.imp_right fun hin => ?_
        rw [List.exists_mem_cons_iff]
        exact hin)
      rw [putSheets_cons]
      rcases hput : s.putSheet key cells with ⟨s', _ | _⟩
      · rw [hput] at htaken
        cases htaken
      · rw [hput] at hrest
        exact hrest

theorem Sound.enterCells_taken (hs : s.Sound) (hclear : s.Clear)
    {cells : List (CellAddress × String)}
    (hnamed : ∀ entry ∈ cells, entry.1.sheet.Named)
    (hlegal : ∀ entry ∈ cells, entry.1.sheet.Legal)
    (hstorable : ∀ entry ∈ cells, Storable entry.1)
    (hagree : ∀ key place text other, (SheetKey.cell key place.1 place.2, text) ∈ cells →
      (s.Has key place other ∨
        ∃ key', key.SharesFile key' ∧ (key'.cell place.1 place.2, other) ∈ cells) →
      other = text) :
    (s.enterCells cells).2 = .ok () ∧ (s.enterCells cells).1.Clear := by
  have hentry : ∀ group ∈ grouped cells, ∃ entry ∈ cells, entry.1.sheet = group.1 := by
    rintro ⟨key, group⟩ hgroup
    obtain ⟨rfl, hne⟩ := mem_grouped_iff.mp hgroup
    obtain ⟨⟨place, text⟩, hfirst⟩ := List.exists_mem_of_ne_nil _ hne
    exact ⟨_, SheetKey.mem_cellsIn_iff.mp hfirst, rfl⟩
  refine hs.putSheets_taken hclear ?_ ?_ (storableGroup_of_mem_grouped hstorable) ?_
  · intro group hgroup
    obtain ⟨entry, hentry, hsheet⟩ := hentry group hgroup
    exact hsheet ▸ hnamed entry hentry
  · intro group hgroup
    obtain ⟨entry, hentry, hsheet⟩ := hentry group hgroup
    exact hsheet ▸ hlegal entry hentry
  · rintro ⟨key, group⟩ hgroup place text other hmem hother
    obtain ⟨rfl, -⟩ := mem_grouped_iff.mp hgroup
    refine hagree key place text other (SheetKey.mem_cellsIn_iff.mp hmem) (hother.imp_right ?_)
    rintro ⟨⟨key', group⟩, hgroup', hshares, hin⟩
    obtain ⟨rfl, -⟩ := mem_grouped_iff.mp hgroup'
    exact ⟨key', hshares, SheetKey.mem_cellsIn_iff.mp hin⟩

theorem Sound.answers_taken (hs : s.Sound) (hclear : s.Clear)
    {batches : List (List (CellAddress × String))}
    (hnamed : ∀ entry ∈ batches.flatten, entry.1.sheet.Named)
    (hlegal : ∀ entry ∈ batches.flatten, entry.1.sheet.Legal)
    (hstorable : ∀ entry ∈ batches.flatten, Storable entry.1)
    (hagree : ∀ key place text other, (SheetKey.cell key place.1 place.2, text) ∈ batches.flatten →
      (s.Has key place other ∨
        ∃ key', key.SharesFile key' ∧ (key'.cell place.1 place.2, other) ∈ batches.flatten) →
      other = text) :
    ∀ answer ∈ store.answers s batches, answer = .ok () := by
  induction batches generalizing s with
  | nil => simp [Archive.answers]
  | cons cells batches ih =>
      rw [List.flatten_cons] at hnamed hlegal hstorable hagree
      rw [List.forall_mem_append] at hnamed hlegal hstorable
      obtain ⟨htaken, hclear'⟩ := hs.enterCells_taken hclear hnamed.1 hlegal.1 hstorable.1 (by
        intro key place text other hmem hother
        refine hagree key place text other (List.mem_append_left _ hmem) (hother.imp_right ?_)
        rintro ⟨key', hshares, hin⟩
        exact ⟨key', hshares, List.mem_append_left _ hin⟩)
      rw [Archive.answers, List.forall_mem_cons]
      refine ⟨htaken, ih (hs.enterCells hstorable.1) hclear' hnamed.2 hlegal.2 hstorable.2 ?_⟩
      intro key place text other hmem hother
      refine hagree key place text other (List.mem_append_right _ hmem) ?_
      rcases hother with hhas | ⟨key', hshares, hin⟩
      · refine ((hs.has_enterCells hstorable.1 htaken (hnamed.2 _ hmem)).mp hhas).imp_right ?_
        rintro ⟨key', hshares, hin⟩
        exact ⟨key', hshares, List.mem_append_left _ hin⟩
      · exact Or.inr ⟨key', hshares, List.mem_append_right _ hin⟩

end Taken

section Histories

variable {root : String} {batches : List (List (CellAddress × String))} {key : SheetKey}

theorem has_ofBatches (hstorable : ∀ entry ∈ batches.flatten, Storable entry.1)
    (htaken : ∀ answer ∈ store.answers ⟨root, {}⟩ batches, answer = .ok ())
    (hnamed : key.Named) (row column : ℕ) (text : String) :
    (ofBatches root batches).Has key (row, column) text ↔
      ∃ other, key.SharesFile other ∧ (other.cell row column, text) ∈ batches.flatten := by
  unfold ofBatches
  rw [(sound_empty root).has_afterBatches hstorable htaken hnamed]
  simp [not_has_empty hnamed]

/-- Batches are taken when cells in one place of one file have one text. -/
theorem answers_taken_iff
    (hnamed : ∀ entry ∈ batches.flatten, entry.1.sheet.Named)
    (hlegal : ∀ entry ∈ batches.flatten, entry.1.sheet.Legal)
    (hstorable : ∀ entry ∈ batches.flatten, Storable entry.1) :
    (∀ answer ∈ store.answers ⟨root, {}⟩ batches, answer = .ok ()) ↔
      ∀ key other row column text text', key.SharesFile other →
        (SheetKey.cell key row column, text) ∈ batches.flatten →
        (SheetKey.cell other row column, text') ∈ batches.flatten → text = text' := by
  constructor
  · intro htaken key other row column text text' hshares htext htext'
    have hkey : key.Named := hnamed _ htext
    have hhas := has_ofBatches hstorable htaken hkey row column
    exact ((hhas text).mpr ⟨key, .refl key, htext⟩).unique
      ((hhas text').mpr ⟨other, hshares, htext'⟩)
  · intro hagree
    refine (sound_empty root).answers_taken (fun q _ => rfl) hnamed hlegal hstorable ?_
    rintro key ⟨row, column⟩ text other hmem (hhas | ⟨key', hshares, hin⟩)
    · exact absurd hhas (not_has_empty (hnamed _ hmem))
    · exact (hagree key key' row column text other hshares hmem hin).symm

theorem ledger_takes
    (hnamed : ∀ entry ∈ batches.flatten, entry.1.sheet.Named)
    (hstorable : ∀ entry ∈ batches.flatten, Storable entry.1)
    (htaken : ∀ answer ∈ store.answers ⟨root, {}⟩ batches, answer = .ok ()) :
    ∀ answer ∈ Ledger.store.answers {} batches, answer = .ok () := by
  refine Ledger.answers_taken_iff.mpr (Ledger.enterCells_taken_iff.mpr ⟨?_, ?_⟩)
  · intro entry _ text htext
    cases htext
  · refine List.Pairwise.imp_of_mem (fun {earlier entry} hearlier hentry _ hsame => ?_)
      (List.pairwise_of_forall fun _ _ => trivial)
    have hkey := hnamed earlier hearlier
    have hhas := has_ofBatches hstorable htaken hkey earlier.1.row earlier.1.column
    refine ((hhas _).mpr ⟨_, .refl _, hearlier⟩).unique ((hhas _).mpr ⟨_, .refl _, ?_⟩)
    rw [hsame]
    exact hentry

theorem get?_ledger (htaken : ∀ answer ∈ Ledger.store.answers {} batches, answer = .ok ())
    {address : CellAddress} {text : String} :
    (Ledger.ofBatches batches).get? address = some text ↔ (address, text) ∈ batches.flatten := by
  unfold Ledger.ofBatches
  rw [Ledger.afterBatches_of_taken htaken,
    Ledger.get?_enterCells_eq_some_iff (Ledger.answers_taken_iff.mp htaken)]
  simp [Ledger.get?]

/-- The folder has a sheet of the ledger when no cell came to it from another sheet. -/
theorem sheet_eq_ledger_iff
    (hstorable : ∀ entry ∈ batches.flatten, Storable entry.1)
    (htaken : ∀ answer ∈ store.answers ⟨root, {}⟩ batches, answer = .ok ())
    (hledger : ∀ answer ∈ Ledger.store.answers {} batches, answer = .ok ()) (hnamed : key.Named) :
    (ofBatches root batches).sheet key = .ok ((Ledger.ofBatches batches).sheet key) ↔
      ∀ other row column text, key.SharesFile other →
        (other.cell row column, text) ∈ batches.flatten →
        (key.cell row column, text) ∈ batches.flatten := by
  obtain ⟨sheet, hsheet, hname, hsorted, hget⟩ :=
    (sound_ofBatches hstorable).exists_sheet hnamed
  have hfolder : ∀ row column text, sheet.get? row column = some text ↔
      ∃ other, key.SharesFile other ∧ (other.cell row column, text) ∈ batches.flatten :=
    fun row column text => (hget row column text).trans
      (has_ofBatches hstorable htaken hnamed row column text)
  have hsingle := (Ledger.ordered_ofBatches batches).single
  have hmemory : ∀ row column text,
      ((Ledger.ofBatches batches).sheet key).get? row column = some text ↔
        (key.cell row column, text) ∈ batches.flatten := by
    intro row column text
    rw [Ledger.get?_sheet hsingle]
    exact get?_ledger hledger
  have hread : (ofBatches root batches).sheet key = .ok sheet := hsheet
  rw [hread, Except.ok.injEq]
  constructor
  · intro hsame other row column text hshares hmem
    rw [← hmemory, ← hsame, hfolder]
    exact ⟨other, hshares, hmem⟩
  · intro hown
    refine hsorted.eq_of_get? (Ledger.sorted_sheet _ key) hname fun row column => ?_
    ext text
    rw [hfolder, hmemory]
    constructor
    · rintro ⟨other, hshares, hmem⟩
      exact hown other row column text hshares hmem
    · intro hmem
      exact ⟨key, .refl key, hmem⟩

/-- Sheets that are kept in one file share their cells, and of all others the folder is a
ledger. -/
theorem batches_share_files (root : String) (batches : List (List (CellAddress × String)))
    (hstorable : ∀ entry ∈ batches.flatten, Storable entry.1) :
    ((∀ entry ∈ batches.flatten, entry.1.sheet.Named ∧ entry.1.sheet.Legal) →
      ((∀ answer ∈ store.answers ⟨root, {}⟩ batches, answer = .ok ()) ↔
        ∀ key other row column text text', key.SharesFile other →
          (SheetKey.cell key row column, text) ∈ batches.flatten →
          (SheetKey.cell other row column, text') ∈ batches.flatten → text = text')) ∧
    ((∀ answer ∈ store.answers ⟨root, {}⟩ batches, answer = .ok ()) →
      (∀ key : SheetKey, key.Named → ∃ sheet,
        (ofBatches root batches).sheet key = .ok sheet ∧ sheet.name = key.scope.sheetId ∧
        ∀ row column text, sheet.get? row column = some text ↔
          ∃ other, key.SharesFile other ∧ (other.cell row column, text) ∈ batches.flatten) ∧
      ((∀ entry ∈ batches.flatten, entry.1.sheet.Named) →
        ∀ answer ∈ Ledger.store.answers {} batches, answer = .ok ()) ∧
      ((∀ answer ∈ Ledger.store.answers {} batches, answer = .ok ()) →
        ∀ key : SheetKey, key.Named →
          ((ofBatches root batches).sheet key = .ok ((Ledger.ofBatches batches).sheet key) ↔
            ∀ other row column text, key.SharesFile other →
              (other.cell row column, text) ∈ batches.flatten →
              (key.cell row column, text) ∈ batches.flatten))) := by
  refine ⟨?_, fun htaken => ⟨?_, ?_, ?_⟩⟩
  · intro hkeys
    exact answers_taken_iff (fun entry hentry => (hkeys entry hentry).1)
      (fun entry hentry => (hkeys entry hentry).2) hstorable
  · intro key hnamed
    obtain ⟨sheet, hsheet, hname, -, hget⟩ :=
      (sound_ofBatches hstorable).exists_sheet hnamed
    refine ⟨sheet, hsheet, hname, fun row column text => ?_⟩
    rw [hget]
    exact has_ofBatches hstorable htaken hnamed row column text
  · intro hnamed
    exact ledger_takes hnamed hstorable htaken
  · intro hledger key hnamed
    exact sheet_eq_ledger_iff hstorable htaken hledger hnamed

end Histories

section Samples

/-- The sheet of a run of one action on one component. -/
def runSheet (action candidate : String) : SheetKey :=
  ⟨⟨"exec-1", "Stack", action, "push_size", candidate, 0⟩, .actuation⟩

/-- Two components are run, the first of them in two batches. -/
def twoComponents : List (List (CellAddress × String)) :=
  [[((runSheet "run" "list-stack").cell 0 0, "1"), ((runSheet "run" "array-stack").cell 0 0, "2")],
    [((runSheet "run" "list-stack").cell 0 1, "3")]]

/-- One component is run for two actions. -/
def twoActions : List (List (CellAddress × String)) :=
  [[((runSheet "x" "list-stack").cell 0 0, "1")], [((runSheet "y" "list-stack").cell 0 1, "2")]]

theorem runSheet_named {action candidate : String} (h : part candidate ∉ ["", ".", ".."]) :
    (runSheet action candidate).Named := by
  have hexecution : part "exec-1" ∉ ["", ".", ".."] := by decide
  intro id hid
  simp only [runSheet, List.mem_cons, List.not_mem_nil, or_false] at hid
  rcases hid with rfl | rfl
  · exact hexecution
  · exact h

theorem sharesFile_runSheet {action action' candidate candidate' : String} :
    (runSheet action candidate).SharesFile (runSheet action' candidate') ↔
      part candidate = part candidate' :=
  ⟨fun h => h.candidate, fun h => ⟨rfl, h, rfl, rfl, rfl⟩⟩

theorem batches_share_files_twoComponents :
    (∀ entry ∈ twoComponents.flatten, Storable entry.1) ∧
      (∀ answer ∈ store.answers ⟨"root", {}⟩ twoComponents, answer = .ok ()) ∧
      ∀ candidate ∈ ["list-stack", "array-stack"],
        (ofBatches "root" twoComponents).sheet (runSheet "run" candidate) =
          .ok ((Ledger.ofBatches twoComponents).sheet (runSheet "run" candidate)) := by
  have hparts : ∀ candidate ∈ ["list-stack", "array-stack"], part candidate ∉ ["", ".", ".."] := by
    decide
  have hapart : part "list-stack" ≠ part "array-stack" := by decide
  have hlegal : (runSheet "run" "list-stack").Legal ∧ (runSheet "run" "array-stack").Legal := by
    unfold SheetKey.Legal
    decide
  have hstorable : ∀ entry ∈ twoComponents.flatten, Storable entry.1 := by
    simp [twoComponents, Storable, runSheet, SheetKey.cell]
  have hkeys : ∀ entry ∈ twoComponents.flatten,
      entry.1.sheet.Named ∧ entry.1.sheet.Legal := by
    simp [twoComponents, SheetKey.cell, runSheet_named (hparts "list-stack" (by simp)),
      runSheet_named (hparts "array-stack" (by simp)), hlegal]
  have hsheets : ∀ entry ∈ twoComponents.flatten,
      ∃ candidate ∈ ["list-stack", "array-stack"], entry.1.sheet = runSheet "run" candidate := by
    simp [twoComponents, SheetKey.cell]
  have hown : ∀ candidate ∈ ["list-stack", "array-stack"],
      ∀ candidate' ∈ ["list-stack", "array-stack"],
        (runSheet "run" candidate).SharesFile (runSheet "run" candidate') →
          candidate = candidate' := by
    simp [sharesFile_runSheet, hapart, hapart.symm]
  have hsingle : ∀ entry ∈ twoComponents.flatten, ∀ other ∈ twoComponents.flatten,
      entry.1 = other.1 → entry.2 = other.2 := by
    decide
  obtain ⟨htaken, hshared⟩ := batches_share_files "root" twoComponents hstorable
  have htaken := (htaken hkeys).mpr (by
    intro key other row column text text' hshares hmem hmem'
    obtain ⟨candidate, hcandidate, hkey⟩ := hsheets _ hmem
    obtain ⟨candidate', hcandidate', hother⟩ := hsheets _ hmem'
    cases hkey
    cases hother
    cases hown candidate hcandidate candidate' hcandidate' hshares
    exact hsingle _ hmem _ hmem' rfl)
  obtain ⟨-, hledger, hsame⟩ := hshared htaken
  have hledger := hledger fun entry hentry => (hkeys entry hentry).1
  refine ⟨hstorable, htaken, fun candidate hcandidate => ?_⟩
  refine (hsame hledger _ (runSheet_named (hparts candidate hcandidate))).mpr ?_
  intro other row column text hshares hmem
  obtain ⟨candidate', hcandidate', hother⟩ := hsheets _ hmem
  cases hother
  cases hown candidate hcandidate candidate' hcandidate' hshares
  exact hmem

/-- The sheets of two actions on one component have each other's cells. -/
theorem actions_share_files :
    (∀ answer ∈ store.answers ⟨"root", {}⟩ twoActions, answer = .ok ()) ∧
      (∀ answer ∈ Ledger.store.answers {} twoActions, answer = .ok ()) ∧
      (∃ sheet, (ofBatches "root" twoActions).sheet (runSheet "x" "list-stack") = .ok sheet ∧
        sheet.get? 0 1 = some "2") ∧
      ((Ledger.ofBatches twoActions).sheet (runSheet "x" "list-stack")).get? 0 1 = none ∧
      (ofBatches "root" twoActions).sheet (runSheet "x" "list-stack") ≠
        .ok ((Ledger.ofBatches twoActions).sheet (runSheet "x" "list-stack")) := by
  have hnamed : ∀ action, (runSheet action "list-stack").Named :=
    fun action => runSheet_named (by decide)
  have hlegal : (runSheet "x" "list-stack").Legal ∧ (runSheet "y" "list-stack").Legal := by
    unfold SheetKey.Legal
    decide
  have hstorable : ∀ entry ∈ twoActions.flatten, Storable entry.1 := by
    simp [twoActions, Storable, runSheet, SheetKey.cell]
  have hkeys : ∀ entry ∈ twoActions.flatten, entry.1.sheet.Named := by
    simp [twoActions, SheetKey.cell, hnamed]
  have hplaces : ∀ entry ∈ twoActions.flatten, ∀ other ∈ twoActions.flatten,
      entry.1.row = other.1.row → entry.1.column = other.1.column → entry.2 = other.2 := by
    decide
  have htaken : ∀ answer ∈ store.answers ⟨"root", {}⟩ twoActions, answer = .ok () := by
    refine (answers_taken_iff hkeys ?_ hstorable).mpr ?_
    · simp [twoActions, SheetKey.cell, hlegal]
    · intro key other row column text text' _ hmem hmem'
      exact hplaces _ hmem _ hmem' rfl rfl
  have hledger := ledger_takes hkeys hstorable htaken
  obtain ⟨sheet, hsheet, -, -, hget⟩ :=
    ((sound_empty "root").afterBatches hstorable).exists_sheet (hnamed "x")
  have hmixed : sheet.get? 0 1 = some "2" := by
    rw [hget]
    refine (has_ofBatches hstorable htaken (hnamed "x") 0 1 "2").mpr
      ⟨runSheet "y" "list-stack", sharesFile_runSheet.mpr rfl, ?_⟩
    simp [twoActions]
  have hmemory : ((Ledger.ofBatches twoActions).sheet (runSheet "x" "list-stack")).get? 0 1 =
      none := by
    rw [Ledger.get?_sheet (Ledger.ordered_ofBatches twoActions).single]
    by_contra hheld
    obtain ⟨text, htext⟩ := Option.ne_none_iff_exists'.mp hheld
    have hmem := (get?_ledger hledger).mp htext
    simp [twoActions, SheetKey.cell, runSheet] at hmem
  refine ⟨htaken, hledger, ⟨sheet, hsheet, hmixed⟩, hmemory, fun hsame => ?_⟩
  have hread : (ofBatches "root" twoActions).sheet (runSheet "x" "list-stack") = .ok sheet :=
    hsheet
  rw [hread, Except.ok.injEq] at hsame
  rw [hsame, hmemory] at hmixed
  cases hmixed

end Samples

end FolderStore

end Refit
